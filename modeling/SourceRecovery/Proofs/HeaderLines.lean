/-
Module: SourceRecovery.Proofs.HeaderLines
Layer: Proofs
Purpose: Which lines are headers of definitions. A header is white space, possibly the word for coroutines, the word for
  a function or for a class, and a name, each behind white space; what follows the name does not matter. A line is read
  as a header exactly when it is one, and then with the width, the kind and the name that it has.
Imports: Mathlib.Data.List.TakeWhile, SourceRecovery.Source.Header, SourceRecovery.Proofs.LineText
Trusted boundary: none
Main exports: Header.OnLine, Header.ofLine?_eq_some_iff
Open obligations: none
-/
import Mathlib.Data.List.TakeWhile
import SourceRecovery.Source.Header
import SourceRecovery.Proofs.LineText

namespace SourceRecovery

namespace Text

/-- A character of a word is no white space. -/
theorem isBlank_of_isWord {c : Char} (word : isWord c = true) : isBlank c = false :=
  isBlank_eq_false_of_apart (by decide +kernel) word

namespace Chars

/-- A row of characters of a class ends where a character of another class follows. -/
theorem takeWhile_append_stop {p : Char → Bool} {row rest : List Char} (inside : ∀ c ∈ row, p c = true)
    (stop : ∀ c ∈ rest.head?, p c = false) : (row ++ rest).takeWhile p = row := by
  have none : rest.takeWhile p = [] := by
    cases rest with
    | nil => rfl
    | cons c rest => rw [List.takeWhile_cons_of_neg (Bool.eq_false_iff.mp (stop c rfl))]
  rw [List.takeWhile_append_of_pos inside, none, List.append_nil]

theorem dropWhile_append_stop {p : Char → Bool} {row rest : List Char} (inside : ∀ c ∈ row, p c = true)
    (stop : ∀ c ∈ rest.head?, p c = false) : (row ++ rest).dropWhile p = rest := by
  rw [List.dropWhile_append_of_pos inside]
  cases rest with
  | nil => rfl
  | cons c rest => rw [List.dropWhile_cons_of_neg (Bool.eq_false_iff.mp (stop c rfl))]

/-- The text behind the characters of a class starts with another character. -/
theorem head?_dropWhile_eq_false {p : Char → Bool} {cs : List Char} : ∀ c ∈ (cs.dropWhile p).head?, p c = false := by
  intro c first
  have holds := List.head?_dropWhile_not p cs
  rw [first] at holds
  simpa using holds

end Chars

end Text

namespace Header

open Text

/-! ### The lines that are headers -/

/-- The word that opens a definition. -/
def keyword : ItemKind → String
  | .function => "def"
  | .cls => "class"

/-- White space between two words. -/
def Gap (cs : List Char) : Prop :=
  cs ≠ [] ∧ ∀ c ∈ cs, isBlank c = true

/-- What may stand before the word of a definition: nothing, or the word for coroutines. -/
inductive Lead : List Char → Prop where
  | plain : Lead []
  | coroutine {gap : List Char} (isGap : Gap gap) : Lead ("async".toList ++ gap)

/-- A header as it stands on a line. Its name is as long as it can be. -/
inductive OnLine : Header → String → Prop where
  | intro {margin lead gap name rest : List Char} {kind : ItemKind} (blank : ∀ c ∈ margin, isBlank c = true)
      (isLead : Lead lead) (isGap : Gap gap) (nonempty : name ≠ []) (isName : ∀ c ∈ name, isWord c = true)
      (ends : ∀ c ∈ rest.head?, isWord c = false) :
      OnLine ⟨Chars.byteLength margin, kind, String.ofList name⟩
        (String.ofList (margin ++ (lead ++ ((keyword kind).toList ++ (gap ++ (name ++ rest))))))

/-! ### Reading a header -/

/-- A word is read with the gap behind it. -/
theorem afterWord?_append {word : String} {gap rest : List Char} (isGap : Gap gap)
    (solid : ∀ c ∈ rest.head?, isBlank c = false) : afterWord? word (word.toList ++ (gap ++ rest)) = some rest := by
  obtain ⟨nonempty, blank⟩ := isGap
  cases gap with
  | nil =>
      exact absurd rfl nonempty
  | cons c gap =>
      obtain ⟨isBlank, more⟩ := List.forall_mem_cons.mp blank
      unfold afterWord?
      rw [Chars.dropPattern?_append, List.cons_append]
      dsimp only
      rw [if_pos isBlank, Chars.trimStart, Chars.dropWhile_append_stop more solid]

/-- What is read behind a word stands behind it and a gap. -/
theorem exists_gap_of_afterWord? {word : String} {cs rest : List Char} (found : afterWord? word cs = some rest) :
    ∃ gap, Gap gap ∧ cs = word.toList ++ (gap ++ rest) ∧ ∀ c ∈ rest.head?, isBlank c = false := by
  unfold afterWord? at found
  split at found
  case h_1 c behind dropped =>
      split at found
      case isTrue blank =>
          cases found
          refine ⟨c :: behind.takeWhile isBlank, ⟨List.cons_ne_nil _ _, ?_⟩, ?_, Chars.head?_dropWhile_eq_false⟩
          · exact List.forall_mem_cons.mpr ⟨blank, fun d member => List.mem_takeWhile_imp member⟩
          · rw [Chars.eq_append_of_dropPattern? dropped, Chars.trimStart, List.cons_append,
              List.takeWhile_append_dropWhile]
      case isFalse =>
          cases found
  case h_2 =>
      cases found

section

variable {gap name rest : List Char} {kind : ItemKind}

/-- The word of a definition, a gap and a name are read as such. -/
theorem definition?_append (isGap : Gap gap) (nonempty : name ≠ []) (isName : ∀ c ∈ name, isWord c = true)
    (ends : ∀ c ∈ rest.head?, isWord c = false) :
    definition? ((keyword kind).toList ++ (gap ++ (name ++ rest))) = some (kind, name) := by
  have solid : ∀ c ∈ (name ++ rest).head?, isBlank c = false := by
    cases name with
    | nil =>
        exact absurd rfl nonempty
    | cons c name =>
        intro d first
        cases first
        exact isBlank_of_isWord (isName c List.mem_cons_self)
  have named : (name ++ rest).takeWhile isWord = name := Chars.takeWhile_append_stop isName ends
  have read (word : String) : afterWord? word (word.toList ++ (gap ++ (name ++ rest))) = some (name ++ rest) :=
    afterWord?_append isGap solid
  unfold definition?
  cases kind with
  | function =>
      rw [keyword, read "def"]
      dsimp only
      rw [named]
  | cls =>
      have other : afterWord? "def" ("class".toList ++ (gap ++ (name ++ rest))) = none := rfl
      rw [keyword, other, read "class"]
      dsimp only
      rw [named]

/-- What is read as a definition is the word of its kind, a gap and a name. -/
theorem exists_of_definition? {cs : List Char} (found : definition? cs = some (kind, name)) :
    ∃ gap rest, Gap gap ∧ cs = (keyword kind).toList ++ (gap ++ (name ++ rest)) ∧ (∀ c ∈ name, isWord c = true) ∧
      ∀ c ∈ rest.head?, isWord c = false := by
  have named {word : String} {behind : List Char} (read : afterWord? word cs = some behind) :
      ∃ gap rest, Gap gap ∧ cs = word.toList ++ (gap ++ (behind.takeWhile isWord ++ rest)) ∧
        (∀ c ∈ behind.takeWhile isWord, isWord c = true) ∧ ∀ c ∈ rest.head?, isWord c = false := by
    obtain ⟨gap, isGap, text, _⟩ := exists_gap_of_afterWord? read
    refine ⟨gap, behind.dropWhile isWord, isGap, ?_, ?_, Chars.head?_dropWhile_eq_false⟩
    · rw [List.takeWhile_append_dropWhile]
      exact text
    · exact fun c member => List.mem_takeWhile_imp member
  unfold definition? at found
  split at found
  case h_1 behind read =>
      cases found
      exact named read
  case h_2 behind _ read =>
      cases found
      exact named read
  case h_3 =>
      cases found

/-- A header starts with a letter behind its margin. -/
theorem isBlank_head?_lead {lead : List Char} (isLead : Lead lead) (kind : ItemKind) (rest : List Char) :
    ∀ c ∈ (lead ++ ((keyword kind).toList ++ rest)).head?, isBlank c = false := by
  intro c first
  cases isLead with
  | plain =>
      cases kind with
      | function => cases first; decide
      | cls => cases first; decide
  | coroutine =>
      cases first
      decide

/-- The word for coroutines is passed where it stands. -/
theorem afterWord?_lead {lead : List Char} (isLead : Lead lead) :
    (afterWord? "async" (lead ++ ((keyword kind).toList ++ rest))).getD (lead ++ ((keyword kind).toList ++ rest)) =
      (keyword kind).toList ++ rest := by
  cases isLead with
  | plain =>
      have none : afterWord? "async" ([] ++ ((keyword kind).toList ++ rest)) = none := by
        cases kind with
        | function => rfl
        | cls => rfl
      rw [none]
      rfl
  | coroutine isGap =>
      have solid : ∀ c ∈ ((keyword kind).toList ++ rest).head?, isBlank c = false := isBlank_head?_lead .plain kind rest
      rw [List.append_assoc, afterWord?_append isGap solid]
      rfl

/-- What stands before the rest that is read is empty or the word for coroutines. -/
theorem exists_lead (cs : List Char) : ∃ lead, Lead lead ∧ cs = lead ++ (afterWord? "async" cs).getD cs := by
  cases read : afterWord? "async" cs with
  | none =>
      exact ⟨[], .plain, rfl⟩
  | some behind =>
      obtain ⟨gap, isGap, text, _⟩ := exists_gap_of_afterWord? read
      refine ⟨"async".toList ++ gap, .coroutine isGap, ?_⟩
      rw [Option.getD_some, List.append_assoc]
      exact text

end

/-- A line is read as a header exactly when it is one. -/
theorem ofLine?_eq_some_iff {line : String} {header : Header} :
    ofLine? line = some header ↔ header.OnLine line := by
  constructor
  · intro found
    unfold ofLine? at found
    dsimp only at found
    split at found
    case h_1 kind name read =>
        split at found
        case isTrue =>
            cases found
        case isFalse nonempty =>
            cases found
            obtain ⟨gap, rest, isGap, text, isName, ends⟩ := exists_of_definition? read
            obtain ⟨lead, isLead, leads⟩ := exists_lead (Chars.trimStart line.toList)
            have blank : ∀ c ∈ line.toList.takeWhile isBlank, isBlank c = true := fun c member =>
              List.mem_takeWhile_imp member
            have onLine : OnLine ⟨Text.indentWidth line, kind, String.ofList name⟩ _ :=
              .intro blank isLead isGap (mt List.isEmpty_iff.mpr nonempty) isName ends
            rw [← text, ← leads, Chars.trimStart, List.takeWhile_append_dropWhile, String.ofList_toList] at onLine
            exact onLine
    case h_2 =>
        cases found
  · intro onLine
    cases onLine with
    | @intro margin lead gap name rest kind blank isLead isGap nonempty isName ends =>
        have solid := isBlank_head?_lead isLead kind (gap ++ (name ++ rest))
        unfold ofLine? Text.indentWidth Chars.indentWidth
        rw [String.toList_ofList, Chars.trimStart, Chars.dropWhile_append_stop blank solid,
          Chars.takeWhile_append_stop blank solid]
        dsimp only
        rw [afterWord?_lead isLead, definition?_append isGap nonempty isName ends]
        dsimp only
        rw [if_neg (mt List.isEmpty_iff.mp nonempty)]

end Header

end SourceRecovery
