/-
Module: SourceRecovery.Proofs.PromptFilling
Layer: Proofs
Purpose: What filling makes of a template. A template is text with names in braces at its places. Filling writes the
  value of a name in place of it and keeps the braces of a name without a value. A value goes in as it is, whatever
  braces it has, so the filled template depends on a value only where the value stands.
Imports: SourceRecovery.Agent.Prompt, SourceRecovery.Proofs.LineText
Trusted boundary: none
Main exports: Prompt.Template, Prompt.Fills, Prompt.fillFrom_braced, Prompt.fill_text
Open obligations: none
-/
import SourceRecovery.Agent.Prompt
import SourceRecovery.Proofs.LineText

namespace SourceRecovery.Prompt

open Text

/-! ### Templates -/

/-- No brace stands in a text. -/
def Braceless (text : String) : Prop :=
  ∀ c ∈ text.toList, c ≠ '\x7b' ∧ c ≠ '\x7d'

instance (text : String) : Decidable (Braceless text) :=
  inferInstanceAs (Decidable (∀ c ∈ text.toList, c ≠ '\x7b' ∧ c ≠ '\x7d'))

/-- A place of a template and the text from there to the next place. -/
structure Place where
  name : String
  behind : String
  braceless : Braceless name ∧ Braceless behind

/-- A text with places in it. -/
structure Template where
  first : String
  places : List Place
  braceless : Braceless first

/-- A name in braces. -/
def braced (name : String) : String :=
  "\x7b" ++ name ++ "\x7d"

/-- A place with something written for its name, and the text behind it. -/
def Place.render (write : String → String) (place : Place) : String :=
  write place.name ++ place.behind

/-- A template with something written for the name at each of its places. -/
def Template.render (write : String → String) (template : Template) : String :=
  template.first ++ String.join (template.places.map (Place.render write))

/-- The text of a template, which has the names of its places in braces. -/
def Template.text (template : Template) : String :=
  template.render braced

/-- What is written for a name: its value, or the name in braces when it has none. -/
structure Fills (values : List (String × String)) (write : String → String) : Prop where
  value : ∀ entry ∈ values, write entry.1 = entry.2
  unknown : ∀ name, name ∉ values.map Prod.fst → write name = braced name

/-- Names that occur once have one value each. -/
theorem exists_fills {values : List (String × String)} (distinct : (values.map Prod.fst).Nodup) :
    ∃ write, Fills values write := by
  induction values with
  | nil =>
      exact ⟨braced, List.forall_mem_nil _, fun _ _ => rfl⟩
  | cons entry values ih =>
      rw [List.map_cons, List.nodup_cons] at distinct
      obtain ⟨write, fills⟩ := ih distinct.2
      refine ⟨fun name => if name = entry.1 then entry.2 else write name, ?_, ?_⟩
      · intro other member
        rcases List.mem_cons.mp member with rfl | later
        · exact if_pos rfl
        · have differs : other.1 ≠ entry.1 := by
            intro same
            apply distinct.1
            rw [← same]
            exact List.mem_map_of_mem later
          rw [if_neg differs]
          exact fills.value other later
      · intro name absent
        rw [List.map_cons, List.mem_cons, not_or] at absent
        rw [if_neg absent.1]
        exact fills.unknown name absent.2

/-! ### The scan -/

section

variable {values : List (String × String)}

theorem fillFrom_skip (skip : Nat) (cs : List Char) : fillFrom values skip cs = fillFrom values 0 (cs.drop skip) := by
  induction cs generalizing skip with
  | nil =>
      rw [List.drop_nil]
      cases skip with
      | zero => rfl
      | succ skip => rfl
  | cons c cs ih =>
      cases skip with
      | zero =>
          rfl
      | succ skip =>
          rw [fillFrom, List.drop_succ_cons]
          exact ih skip

/-- Text in which no place opens is copied. -/
theorem fillFrom_append (values : List (String × String)) {text : List Char} (unopened : ∀ c ∈ text, c ≠ '\x7b')
    (rest : List Char) : fillFrom values 0 (text ++ rest) = text ++ fillFrom values 0 rest := by
  induction text with
  | nil =>
      rfl
  | cons c text ih =>
      obtain ⟨plain, later⟩ := List.forall_mem_cons.mp unopened
      rw [List.cons_append, fillFrom, if_neg (by simpa using plain), ih later]
      rfl

/-- A key with its closing brace stands at the front of a name with one only when it is the name. -/
theorem startsWith_closed_iff {key name : String} (plainKey : Braceless key) (plainName : Braceless name)
    (rest : List Char) :
    Chars.startsWith (key.toList ++ ['\x7d']) (name.toList ++ '\x7d' :: rest) = true ↔ key = name := by
  rw [Chars.startsWith, List.isPrefixOf_iff_prefix]
  constructor
  · rintro ⟨more, whole⟩
    rw [List.append_assoc, List.singleton_append] at whole
    have keyFirst := Chars.splitOnce_append (fun inside => (plainKey _ inside).2 rfl) more
    have nameFirst := Chars.splitOnce_append (fun inside => (plainName _ inside).2 rfl) rest
    rw [whole, nameFirst] at keyFirst
    have same := congrArg Prod.fst (Option.some.inj keyFirst)
    exact (String.toList_inj.mp same).symm
  · rintro rfl
    exact ⟨rest, by rw [List.append_assoc, List.singleton_append]⟩

/-- A place opens where a key stands in braces, and it goes to the closing brace. -/
theorem placeAt?_closed {write : String → String} (fills : Fills values write)
    (plain : ∀ entry ∈ values, Braceless entry.1) {name : String} (plainName : Braceless name) (rest : List Char) :
    placeAt? values (name.toList ++ '\x7d' :: rest) =
      if name ∈ values.map Prod.fst then some ((write name).toList, name.toList.length + 1) else none := by
  unfold placeAt?
  cases found : values.find? fun entry =>
      Chars.startsWith (entry.1.toList ++ ['\x7d']) (name.toList ++ '\x7d' :: rest) with
  | some entry =>
      have member := List.mem_of_find?_eq_some found
      have closed := List.find?_some found
      obtain rfl := (startsWith_closed_iff (plain entry member) plainName rest).mp closed
      rw [if_pos (List.mem_map_of_mem member), fills.value entry member]
      rfl
  | none =>
      have unknown : name ∉ values.map Prod.fst := by
        intro known
        obtain ⟨entry, member, isName⟩ := List.mem_map.mp known
        apply List.find?_eq_none.mp found entry member
        exact (startsWith_closed_iff (plain entry member) plainName rest).mpr isName
      rw [if_neg unknown]
      rfl

/-- At a place the scan puts in what is written for the name, and goes on behind the place. -/
theorem fillFrom_braced {write : String → String} (fills : Fills values write)
    (plain : ∀ entry ∈ values, Braceless entry.1) {name : String} (plainName : Braceless name) (rest : List Char) :
    fillFrom values 0 ((braced name).toList ++ rest) = (write name).toList ++ fillFrom values 0 rest := by
  have opened : (braced name).toList ++ rest = '\x7b' :: (name.toList ++ '\x7d' :: rest) := by
    simp [braced]
  have isPlace := placeAt?_closed fills plain plainName rest
  by_cases known : name ∈ values.map Prod.fst
  · have behind : (name.toList ++ '\x7d' :: rest).drop (name.toList.length + 1) = rest := by
      rw [List.drop_length_add_append, List.drop_succ_cons, List.drop_zero]
    rw [if_pos known] at isPlace
    rw [opened, fillFrom, if_pos (beq_self_eq_true _), isPlace]
    dsimp only
    rw [fillFrom_skip, behind]
  · -- the name is copied together with both of its braces
    have unopened : ∀ c ∈ name.toList ++ ['\x7d'], c ≠ '\x7b' := by
      intro c member
      rcases List.mem_append.mp member with inside | closing
      · exact (plainName c inside).1
      · rw [List.mem_singleton.mp closing]
        decide
    rw [if_neg known] at isPlace
    rw [fills.unknown name known, opened, fillFrom, if_pos (beq_self_eq_true _), isPlace]
    dsimp only
    rw [List.append_cons, fillFrom_append values unopened]
    simp [braced]

end

/-! ### Filled templates -/

/-- Places are filled one after the other. -/
theorem fillFrom_places {values : List (String × String)} {write : String → String} (fills : Fills values write)
    (plain : ∀ entry ∈ values, Braceless entry.1) (places : List Place) :
    fillFrom values 0 (String.join (places.map (Place.render braced))).toList =
      (String.join (places.map (Place.render write))).toList := by
  induction places with
  | nil =>
      rfl
  | cons place places ih =>
      have copied := fillFrom_append values (fun c member => (place.braceless.2 c member).1)
      simp only [List.map_cons, String.join_cons, Place.render, String.toList_append, List.append_assoc]
      rw [fillFrom_braced fills plain place.braceless.1, copied, ih]

/-- A template is filled place by place, whatever is written for the names. -/
theorem fill_of_fills {values : List (String × String)} {write : String → String} (fills : Fills values write)
    (plain : ∀ entry ∈ values, Braceless entry.1) (template : Template) :
    fill template.text values = template.render write := by
  have copied := fillFrom_append values (fun c member => (template.braceless c member).1)
  apply String.toList_inj.mp
  rw [fill, String.toList_ofList, Template.text, Template.render, String.toList_append, copied,
    fillFrom_places fills plain]
  exact String.toList_append.symm

/-- Filling writes at each place the value of the name there, or the name in braces when it has none. The template is
    filled in the same way whatever texts the names have as their values. -/
theorem fill_text (template : Template) {values : List (String × String)} (distinct : (values.map Prod.fst).Nodup)
    (plain : ∀ entry ∈ values, Braceless entry.1) :
    (∃ write, Fills values write ∧ fill template.text values = template.render write) ∧
      ∀ contents : String → String,
        fill template.text (values.map fun entry => (entry.1, contents entry.1)) =
          template.render fun name => if name ∈ values.map Prod.fst then contents name else braced name := by
  constructor
  · obtain ⟨write, fills⟩ := exists_fills distinct
    exact ⟨write, fills, fill_of_fills fills plain template⟩
  · intro contents
    apply fill_of_fills
    · constructor
      · intro entry member
        obtain ⟨source, isSource, rfl⟩ := List.mem_map.mp member
        exact if_pos (List.mem_map_of_mem isSource)
      · intro name absent
        rw [List.map_map] at absent
        exact if_neg absent
    · intro entry member
      obtain ⟨source, isSource, rfl⟩ := List.mem_map.mp member
      exact plain source isSource

/-- A template with three places, of which the last one has no value below. -/
def sampleTemplate : Template where
  first := "a "
  places := [⟨"x", " b ", by decide⟩, ⟨"y", " ", by decide⟩, ⟨"z", "", by decide⟩]
  braceless := by decide

/-- A value that looks like a place, and one that opens a place. -/
def sampleValues : List (String × String) :=
  [("x", "\x7by\x7d"), ("y", "\x7bz")]

theorem fill_text_sample :
    (sampleValues.map Prod.fst).Nodup ∧ (∀ entry ∈ sampleValues, Braceless entry.1) ∧
      sampleTemplate.text = "a \x7bx\x7d b \x7by\x7d \x7bz\x7d" ∧
      fill sampleTemplate.text sampleValues = "a \x7by\x7d b \x7bz \x7bz\x7d" := by
  have distinct : (sampleValues.map Prod.fst).Nodup := by decide
  have plain : ∀ entry ∈ sampleValues, Braceless entry.1 := by decide
  obtain ⟨⟨write, fills, filled⟩, _⟩ := fill_text sampleTemplate distinct plain
  refine ⟨distinct, plain, by decide, ?_⟩
  have known := List.forall_mem_cons.mp fills.value
  rw [filled]
  simp only [Template.render, sampleTemplate, List.map_cons, List.map_nil, Place.render, known.1,
    (List.forall_mem_cons.mp known.2).1, fills.unknown "z" (by decide)]
  decide

end SourceRecovery.Prompt
