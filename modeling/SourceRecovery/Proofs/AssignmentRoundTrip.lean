/-
Module: SourceRecovery.Proofs.AssignmentRoundTrip
Layer: Proofs
Purpose: An assignment that is written reads back as its name and its value. Entries that stand on lines of their own
  have a margin before them and a comma behind them, which a reader passes over; the pairs of a dictionary come back in
  the order in which they are written.
Imports: SourceRecovery.Value.Assignment, SourceRecovery.Proofs.KeyOrder, SourceRecovery.Proofs.LineText,
  SourceRecovery.Proofs.LiteralRoundTrip
Trusted boundary: none
Main exports: Value.WrittenOrder, Value.writtenOrder_orderedPairs, Literal.readItems_entryLines,
  Literal.readMorePairs_entryLines, Literal.ReadsWhole, Literal.readAssignment_assignment
Open obligations: none
-/
import SourceRecovery.Value.Assignment
import SourceRecovery.Proofs.KeyOrder
import SourceRecovery.Proofs.LineText
import SourceRecovery.Proofs.LiteralRoundTrip

namespace SourceRecovery

namespace Value

/-! ### The order of pairs -/

/-- Every key is an integer. -/
def IntegerKeys (pairs : List (Value × Value)) : Prop :=
  ∀ entry ∈ pairs, ∃ n, entry.1 = .int n

/-- Every key is a text. -/
def TextKeys (pairs : List (Value × Value)) : Prop :=
  ∀ entry ∈ pairs, ∃ s, entry.1 = .str s

/-- The pairs as an assignment writes them: the same pairs, by ascending integers when all keys are integers, by
    ascending code points when all keys are texts, and as they are otherwise. -/
structure WrittenOrder (pairs written : List (Value × Value)) : Prop where
  same : written.Perm pairs
  integers : IntegerKeys pairs → written.Pairwise fun a b => ∀ m n, a.1 = .int m → b.1 = .int n → m < n
  texts : TextKeys pairs → written.Pairwise fun a b => ∀ s t, a.1 = .str s → b.1 = .str t → s < t
  others : ¬ IntegerKeys pairs → ¬ TextKeys pairs → written = pairs

variable {pairs : List (Value × Value)}

theorem isSome_int?_iff {v : Value} : v.int?.isSome = true ↔ ∃ n, v = .int n := by
  cases v <;> simp [int?]

theorem isSome_str?_iff {v : Value} : v.str?.isSome = true ↔ ∃ s, v = .str s := by
  cases v <;> simp [str?]

theorem integerKeys_iff : (pairs.all fun entry => entry.1.int?.isSome) = true ↔ IntegerKeys pairs := by
  simp only [List.all_eq_true, isSome_int?_iff, IntegerKeys]

theorem textKeys_iff : (pairs.all fun entry => entry.1.str?.isSome) = true ↔ TextKeys pairs := by
  simp only [List.all_eq_true, isSome_str?_iff, TextKeys]

/-- Ordering neither loses nor doubles a pair. -/
theorem orderedPairs_perm (pairs : List (Value × Value)) : (orderedPairs pairs).Perm pairs := by
  unfold orderedPairs
  split
  · exact List.mergeSort_perm pairs _
  · split
    · exact List.mergeSort_perm pairs _
    · exact .refl pairs

theorem pairwise_orderedPairs_integers (integers : IntegerKeys pairs) :
    (orderedPairs pairs).Pairwise fun a b => (a.1.int?.getD 0).toInt ≤ (b.1.int?.getD 0).toInt := by
  rw [orderedPairs, if_pos (integerKeys_iff.mpr integers)]
  exact pairwise_mergeSort_key (fun a b => decide_eq_true_iff) pairs

/-- Text keys that are also integer keys belong to no pair at all. -/
theorem pairwise_orderedPairs_texts (texts : TextKeys pairs) :
    (orderedPairs pairs).Pairwise fun a b => a.1.str?.getD "" ≤ b.1.str?.getD "" := by
  cases pairs with
  | nil =>
      rw [List.perm_nil.mp (orderedPairs_perm [])]
      exact List.Pairwise.nil
  | cons first rest =>
      have notIntegers : ¬ IntegerKeys (first :: rest) := by
        intro integers
        obtain ⟨n, isInteger⟩ := integers first List.mem_cons_self
        obtain ⟨s, isText⟩ := texts first List.mem_cons_self
        rw [isInteger] at isText
        cases isText
      rw [orderedPairs, if_neg (mt integerKeys_iff.mp notIntegers), if_pos (textKeys_iff.mpr texts)]
      have byText (a b : Value × Value) : Text.le (a.1.str?.getD "") (b.1.str?.getD "") = true ↔
          a.1.str?.getD "" ≤ b.1.str?.getD "" := Text.le_iff _ _
      exact pairwise_mergeSort_key byText (first :: rest)

/-- Pairs with distinct keys are written in strictly ascending order. -/
theorem writtenOrder_orderedPairs (distinct : (pairs.map Prod.fst).Nodup) :
    WrittenOrder pairs (orderedPairs pairs) := by
  have same := orderedPairs_perm pairs
  have apart : (orderedPairs pairs).Pairwise fun a b => a.1 ≠ b.1 := by
    rw [← List.pairwise_map]
    exact (same.map Prod.fst).nodup_iff.mpr distinct
  refine ⟨same, ?_, ?_, ?_⟩
  · intro integers
    refine ((pairwise_orderedPairs_integers integers).and apart).imp ?_
    rintro a b ⟨below, differ⟩ m n first second
    rw [first, second] at below differ
    have ordered : m.toInt ≤ n.toInt := below
    have unequal : m.toInt ≠ n.toInt := fun equal => differ (congrArg Value.int (Int64.toInt_inj.mp equal))
    rw [Int64.lt_iff_toInt_lt]
    omega
  · intro texts
    refine ((pairwise_orderedPairs_texts texts).and apart).imp ?_
    rintro a b ⟨below, differ⟩ s t first second
    rw [first, second] at below differ
    have ordered : s ≤ t := below
    exact lt_of_le_of_ne ordered fun equal => differ (congrArg Value.str equal)
  · intro notIntegers notTexts
    rw [orderedPairs, if_neg (mt integerKeys_iff.mp notIntegers), if_neg (mt textKeys_iff.mp notTexts)]

/-- What an assignment of a value reads back as: a dictionary has its pairs as they were written, and any other value is
    the same. -/
def Reordered : Value → Value → Prop
  | .dict pairs, w => ∃ written, w = .dict written ∧ WrittenOrder pairs written
  | v, w => w = v

theorem pairsRestorable_iff : PairsRestorable pairs ↔ ∀ entry ∈ pairs, entry.1.Restorable ∧ entry.2.Restorable := by
  induction pairs with
  | nil =>
      simp [PairsRestorable]
  | cons entry rest ih =>
      simp [PairsRestorable, ih, and_assoc]

theorem pairsRestorable_of_perm {written : List (Value × Value)} (same : written.Perm pairs)
    (restorable : PairsRestorable pairs) : PairsRestorable written := by
  rw [pairsRestorable_iff] at restorable ⊢
  intro entry member
  exact restorable entry (same.mem_iff.mp member)

end Value

namespace Literal

open Text
open Value (bracketLines write Restorable PairsRestorable insertAll insertAll_of_distinctKeys distinctKeys_of_nodup)

/-! ### Entries on lines of their own -/

/-- The start of a line that holds an entry. -/
def margin : List Char :=
  ['\n', ' ', ' ', ' ', ' ']

/-- Entries, each on a line of its own with a comma behind it. -/
def entryLines (entries : List (List Char)) : List Char :=
  entries.flatMap fun entry => margin ++ (entry ++ [','])

/-- A key and a value as they stand on a line. -/
def pairEntry (entry : Value × Value) : List Char :=
  write entry.1 ++ ':' :: ' ' :: write entry.2

theorem entryLines_cons (entry : List Char) (entries : List (List Char)) :
    entryLines (entry :: entries) = margin ++ (entry ++ ',' :: entryLines entries) := by
  simp [entryLines]

/-- A margin before a token does not count. -/
theorem eat?_margin (token : Char) (cs : List Char) : eat? token (margin ++ cs) = eat? token cs :=
  rfl

/-- The end of a line before a token does not count. -/
theorem eat?_lineEnd (token : Char) (cs : List Char) : eat? token ('\n' :: cs) = eat? token cs :=
  rfl

/-- A margin before an expression does not count. -/
theorem readExpr_margin (fuel : Nat) (cs : List Char) : readExpr fuel (margin ++ cs) = readExpr fuel cs := by
  have lineEnd (rest : List Char) : readExpr fuel ('\n' :: rest) = readExpr fuel rest :=
    readExpr_cons_blank (by decide) fuel rest
  simp only [margin, List.cons_append, List.nil_append, lineEnd, readExpr_blank]

/-- Entries on lines are read up to the bracket on the line after them, with a comma behind the last one. -/
theorem readItems_entryLines {closing : Char} (closer : closing ∈ closers) {items : List Value}
    (each : ∀ v ∈ items, v.Restorable ∧ ReadsBack v) {fuel : Nat} {comma : Bool} {rest : List Char}
    (enough : 5 * (entryLines (items.map write)).length + 1 ≤ fuel) :
    readItems fuel closing comma (entryLines (items.map write) ++ '\n' :: closing :: rest) =
      .ok ((items, !items.isEmpty || comma), rest) := by
  induction items generalizing fuel comma with
  | nil =>
      obtain ⟨room, rfl⟩ : ∃ room, fuel = room + 1 := ⟨fuel - 1, by omega⟩
      have ended : eat? closing ('\n' :: closing :: rest) = some rest := by
        rw [eat?_lineEnd, eat?_closer closer]
      simp only [entryLines, List.map_nil, List.flatMap_nil, List.nil_append, readItems, ended, List.isEmpty_nil,
        Bool.not_true, Bool.false_or]
  | cons v more ih =>
      obtain ⟨restorable, reads⟩ := each v List.mem_cons_self
      rw [List.map_cons, entryLines_cons] at enough ⊢
      simp only [List.length_append, List.length_cons] at enough
      obtain ⟨room, rfl⟩ : ∃ room, fuel = room + 1 := ⟨fuel - 1, by omega⟩
      have comma : ',' ∈ closers := by decide
      have behind : readItems room closing true (entryLines (more.map write) ++ '\n' :: closing :: rest) =
          .ok ((more, !more.isEmpty || true), rest) :=
        ih (fun w member => each w (List.mem_cons_of_mem v member)) (by omega)
      rw [List.append_assoc, List.append_assoc, List.cons_append]
      simp only [readItems, eat?_margin, eat?_write restorable closer, readExpr_margin,
        reads room _ (by omega) (Stops.cons comma _), eat?_closer comma, behind, Bool.or_true, List.isEmpty_cons,
        Bool.not_false, Bool.true_or]

/-- The line of a pair is read as its key and its value, up to the comma. -/
theorem readExpr_pairEntry {entry : Value × Value} (readsKey : ReadsBack entry.1) (readsValue : ReadsBack entry.2)
    (fuel : Nat) (enough : 5 * (pairEntry entry).length ≤ fuel) (rest : List Char) :
    readExpr fuel (margin ++ (pairEntry entry ++ ',' :: rest)) =
        .ok (entry.1, ':' :: ' ' :: (write entry.2 ++ ',' :: rest)) ∧
      readExpr fuel (' ' :: (write entry.2 ++ ',' :: rest)) = .ok (entry.2, ',' :: rest) := by
  have colon : ':' ∈ closers := by decide
  have comma : ',' ∈ closers := by decide
  simp only [pairEntry, List.length_append, List.length_cons] at enough
  constructor
  · rw [readExpr_margin, pairEntry, List.append_assoc, List.cons_append, List.cons_append]
    exact readsKey fuel _ (by omega) (Stops.cons colon _)
  · rw [readExpr_blank]
    exact readsValue fuel _ (by omega) (Stops.cons comma rest)

/-- No brace is eaten where the line of a pair starts. -/
theorem eat?_pairEntry {entry : Value × Value} (restorable : entry.1.Restorable) (rest : List Char) :
    eat? '\x7d' (margin ++ (pairEntry entry ++ rest)) = none := by
  rw [eat?_margin, pairEntry, List.append_assoc]
  exact eat?_write restorable (by decide) _

/-- Pairs on lines are read up to the brace on the line after them. -/
theorem readMorePairs_entryLines {pairs : List (Value × Value)}
    (each : ∀ k v, (k, v) ∈ pairs → k.Restorable ∧ ReadsBack k ∧ ReadsBack v) {fuel : Nat} {rest : List Char}
    (enough : 5 * (entryLines (pairs.map pairEntry)).length + 1 ≤ fuel) :
    readMorePairs fuel (',' :: (entryLines (pairs.map pairEntry) ++ '\n' :: '\x7d' :: rest)) = .ok (pairs, rest) := by
  have noBrace (cs : List Char) : eat? '\x7d' (',' :: cs) = none :=
    eat?_other_closer (by decide) (by decide) cs
  have comma (cs : List Char) : expect ',' (',' :: cs) = .ok cs := expect_closer (by decide) cs
  induction pairs generalizing fuel with
  | nil =>
      obtain ⟨room, rfl⟩ : ∃ room, fuel = room + 1 := ⟨fuel - 1, by omega⟩
      have ended : eat? '\x7d' ('\n' :: '\x7d' :: rest) = some rest := by
        rw [eat?_lineEnd, eat?_closer (by decide)]
      simp only [entryLines, List.map_nil, List.flatMap_nil, List.nil_append, readMorePairs, noBrace, comma, ended]
  | cons entry more ih =>
      obtain ⟨restorable, readsKey, readsValue⟩ := each entry.1 entry.2 List.mem_cons_self
      rw [List.map_cons, entryLines_cons] at enough ⊢
      simp only [List.length_append, List.length_cons] at enough
      obtain ⟨room, rfl⟩ : ∃ room, fuel = room + 1 := ⟨fuel - 1, by omega⟩
      have behind : readMorePairs room (',' :: (entryLines (more.map pairEntry) ++ '\n' :: '\x7d' :: rest)) =
          .ok (more, rest) :=
        ih (fun k v member => each k v (List.mem_cons_of_mem entry member)) (by omega)
      rw [List.append_assoc, List.append_assoc, List.cons_append]
      obtain ⟨keyRead, valueRead⟩ := readExpr_pairEntry readsKey readsValue room (by omega)
        (entryLines (more.map pairEntry) ++ '\n' :: '\x7d' :: rest)
      simp only [readMorePairs, noBrace, comma, eat?_pairEntry restorable, keyRead,
        expect_closer (by decide : ':' ∈ closers), valueRead, behind]

/-! ### Values on one line or more -/

/-- The text is an expression that is read to its end as the value. -/
def ReadsWhole (text : List Char) (v : Value) : Prop :=
  ∀ fuel, 5 * text.length ≤ fuel → readExpr fuel text = .ok (v, [])

theorem ReadsBack.readsWhole {v : Value} (reads : ReadsBack v) : ReadsWhole (write v) v := by
  intro fuel enough
  have read := reads fuel [] enough Stops.nil
  rwa [List.append_nil] at read

theorem ReadsWhole.readWhole {text : List Char} {v : Value} (reads : ReadsWhole text v) :
    readWhole (' ' :: text) = .ok v := by
  have read : readExpr (fuelFor (' ' :: text)) text = .ok (v, []) := by
    apply reads
    simp only [fuelFor, List.length_cons]
    omega
  simp only [Literal.readWhole, readExpr_blank, read]
  rfl

/-- Entries between an opening and a closing bracket, which stand at the ends of the first and the last line. -/
def bracketed (opening closing : Char) (entries : List (List Char)) : List Char :=
  opening :: (entryLines entries ++ '\n' :: [closing])

theorem length_bracketed (opening closing : Char) (entries : List (List Char)) :
    (bracketed opening closing entries).length = (entryLines entries).length + 3 := by
  simp [bracketed]

theorem readsWhole_listLines {items : List Value} (each : ∀ v ∈ items, v.Restorable ∧ ReadsBack v) :
    ReadsWhole (bracketed '[' ']' (items.map write)) (.list items) := by
  intro fuel enough
  rw [length_bracketed] at enough
  obtain ⟨room, rfl⟩ : ∃ room, fuel = room + 3 := ⟨fuel - 3, by omega⟩
  have inside : readItems room ']' false (entryLines (items.map write) ++ '\n' :: [']']) =
      .ok ((items, !items.isEmpty || false), []) :=
    readItems_entryLines (by decide) each (by omega)
  have notParen : ('[' == '(') = false := by decide
  apply readExpr_of_readAtom ⟨by decide, by decide, by decide⟩ (by decide) (by decide) Stops.nil
  simp only [readAtom, notParen, Bool.false_eq_true, if_false, beq_self_eq_true, if_true, inside]

/-- The comma behind the last entry makes a tuple even of a single entry. -/
theorem readsWhole_tupleLines {first : Value} {items : List Value}
    (each : ∀ v ∈ first :: items, v.Restorable ∧ ReadsBack v) :
    ReadsWhole (bracketed '(' ')' ((first :: items).map write)) (.tuple (first :: items)) := by
  intro fuel enough
  rw [length_bracketed] at enough
  obtain ⟨room, rfl⟩ : ∃ room, fuel = room + 3 := ⟨fuel - 3, by omega⟩
  have inside : readItems room ')' false (entryLines ((first :: items).map write) ++ '\n' :: [')']) =
      .ok ((first :: items, true), []) :=
    readItems_entryLines (by decide) each (by omega)
  apply readExpr_of_readAtom ⟨by decide, by decide, by decide⟩ (by decide) (by decide) Stops.nil
  simp only [readAtom, beq_self_eq_true, if_true, inside]

theorem readsWhole_dictLines {pairs : List (Value × Value)} (nonempty : pairs ≠ [])
    (restorable : PairsRestorable pairs) (distinct : (pairs.map Prod.fst).Nodup) :
    ReadsWhole (bracketed '\x7b' '\x7d' (pairs.map pairEntry)) (.dict pairs) := by
  intro fuel enough
  obtain ⟨first, rest, rfl⟩ := List.exists_cons_of_ne_nil nonempty
  have each := pairsReadBack restorable
  obtain ⟨keyRestorable, readsKey, readsValue⟩ := each first.1 first.2 List.mem_cons_self
  rw [length_bracketed, List.map_cons, entryLines_cons] at enough
  simp only [List.length_append, List.length_cons] at enough
  obtain ⟨room, rfl⟩ : ∃ room, fuel = room + 4 := ⟨fuel - 4, by omega⟩
  have behind : readMorePairs room (',' :: (entryLines (rest.map pairEntry) ++ '\n' :: ['\x7d'])) = .ok (rest, []) :=
    readMorePairs_entryLines (fun k v member => each k v (List.mem_cons_of_mem first member)) (by omega)
  have inserted : insertAll [] (first :: rest) = first :: rest :=
    insertAll_of_distinctKeys (distinctKeys_of_nodup restorable distinct)
  obtain ⟨keyRead, valueRead⟩ := readExpr_pairEntry readsKey readsValue room (by omega)
    (entryLines (rest.map pairEntry) ++ '\n' :: ['\x7d'])
  rw [bracketed, List.map_cons, entryLines_cons, List.append_assoc, List.append_assoc, List.cons_append]
  apply readExpr_braced Stops.nil (eat?_pairEntry keyRestorable _)
  simp only [readBraced, keyRead, eat?_closer (by decide : ':' ∈ closers), valueRead, behind, inserted]

/-- The pairs of a dictionary read back in the order in which they are written. -/
theorem readsWhole_orderedPairs {pairs : List (Value × Value)} (nonempty : pairs ≠ [])
    (restorable : PairsRestorable pairs) (distinct : (pairs.map Prod.fst).Nodup) :
    ReadsWhole (bracketed '\x7b' '\x7d' ((Value.orderedPairs pairs).map pairEntry))
      (.dict (Value.orderedPairs pairs)) := by
  have same := Value.orderedPairs_perm pairs
  apply readsWhole_dictLines
  · intro empty
    rw [empty] at same
    exact nonempty (List.nil_perm.mp same)
  · exact Value.pairsRestorable_of_perm same restorable
  · exact (same.map Prod.fst).nodup_iff.mpr distinct

/-! ### Names -/

/-- A character of a name is no white space. -/
theorem isBlank_of_isNameChar {c : Char} (named : isNameChar c = true) : isBlank c = false :=
  isBlank_eq_false_of_apart (by decide +kernel) named

/-- A name with a blank, an equals sign and a value behind it is read as both of them. -/
theorem readAssignment_of_readWhole {name : String} (nonempty : name ≠ "")
    (nameChars : ∀ c ∈ name.toList, isNameChar c = true) {text : String} {body : List Char}
    (written : text.toList = name.toList ++ ' ' :: '=' :: body) {v : Value} (reads : readWhole body = .ok v) :
    readAssignment text = .ok (name, v) := by
  have absent : '=' ∉ name.toList ++ [' '] := by
    intro member
    rcases List.mem_append.mp member with inName | isSpace
    · have named := nameChars '=' inName
      revert named
      decide
    · revert isSpace
      decide
  have cut : Chars.splitOnce '=' text.toList = some (name.toList ++ [' '], body) := by
    have parts := Chars.splitOnce_append absent body
    rwa [List.append_assoc, List.singleton_append, ← written] at parts
  have trimmed : Chars.trim (name.toList ++ [' ']) = name.toList := by
    rw [Chars.trim_append_blanks name.toList (by decide)]
    exact Chars.trim_solid fun c member => isBlank_of_isNameChar (nameChars c member)
  have isName : (name.toList.isEmpty || !name.toList.all isNameChar) = false := by
    have allNamed : name.toList.all isNameChar = true := List.all_eq_true.mpr nameChars
    simp [allNamed, nonempty]
  simp only [readAssignment, cut, trimmed, isName, Bool.false_eq_true, if_false, reads, String.ofList_toList]

/-! ### The text of an assignment -/

theorem toList_join_cons (first : String) (rest : List String) :
    (Text.join (first :: rest)).toList = first.toList ++ rest.flatMap fun piece => '\n' :: piece.toList := by
  rw [Text.join, String.toList_ofList, List.map_cons]
  induction rest generalizing first with
  | nil =>
      simp
  | cons next rest ih =>
      rw [List.map_cons, List.intercalate_cons_cons, ih, List.flatMap_cons]
      simp

theorem toList_bracketLines (name : String) (opening closing : Char) (entries : List String) :
    (bracketLines name (String.ofList [opening]) (String.ofList [closing]) entries).toList =
      name.toList ++ ' ' :: '=' :: ' ' :: bracketed opening closing (entries.map String.toList) := by
  have lines : (entries.map fun entry => "    " ++ entry ++ ",").flatMap (fun line => '\n' :: line.toList) =
      entryLines (entries.map String.toList) := by
    rw [List.flatMap_map, entryLines, List.flatMap_map]
    congr 1
    funext entry
    simp [margin]
  rw [bracketLines, List.append_assoc, List.singleton_append, toList_join_cons, List.flatMap_append, lines]
  simp [bracketed]

theorem map_toList_literal (items : List Value) : (items.map Value.literal).map String.toList = items.map write := by
  simp [Value.literal]

theorem map_toList_pairs (pairs : List (Value × Value)) :
    (pairs.map fun entry => entry.1.literal ++ ": " ++ entry.2.literal).map String.toList = pairs.map pairEntry := by
  simp [Value.literal, pairEntry]

/-- What an assignment has behind its equals sign is read as the value, whichever layout it has. -/
theorem exists_assignment_body (name : String) {v : Value} (restorable : v.Restorable) :
    ∃ text w, (v.assignment name).toList = name.toList ++ ' ' :: '=' :: ' ' :: text ∧ ReadsWhole text w ∧
      v.Reordered w := by
  unfold Value.assignment
  split
  case h_1 first rest =>
      obtain ⟨pairsRestorable, distinct⟩ := restorable
      refine ⟨_, _, toList_bracketLines name '\x7b' '\x7d' _, ?_, _, rfl, Value.writtenOrder_orderedPairs distinct⟩
      rw [map_toList_pairs]
      exact readsWhole_orderedPairs (List.cons_ne_nil first rest) pairsRestorable distinct
  case h_2 first rest =>
      refine ⟨_, _, toList_bracketLines name '(' ')' _, ?_, rfl⟩
      rw [map_toList_literal]
      exact readsWhole_tupleLines (allReadBack restorable)
  case h_3 first rest =>
      refine ⟨_, _, toList_bracketLines name '[' ']' _, ?_, rfl⟩
      rw [map_toList_literal]
      exact readsWhole_listLines (allReadBack restorable)
  case h_4 notDict _ _ =>
      refine ⟨write v, v, ?_, (readsBack restorable).readsWhole, ?_⟩
      · simp [Value.literal]
      · cases v with
        | dict pairs =>
            -- only an empty dictionary stays on the line of its name
            cases pairs with
            | nil =>
                exact ⟨[], rfl, .refl [], fun _ => .nil, fun _ => .nil, fun _ _ => rfl⟩
            | cons first rest =>
                exact absurd rfl (notDict first rest)
        | _ =>
            rfl

/-- A written assignment reads back as its name and its value, up to the order in which the pairs of a dictionary are
    written. -/
theorem readAssignment_assignment (name : String) (v : Value) (nonempty : name ≠ "")
    (nameChars : ∀ c ∈ name.toList, isAlphanumeric c = true ∨ c = '_') (restorable : v.Restorable) :
    ∃ w, readAssignment (v.assignment name) = .ok (name, w) ∧ v.Reordered w := by
  have isName : ∀ c ∈ name.toList, isNameChar c = true := by
    intro c member
    rw [isNameChar, Bool.or_eq_true, beq_iff_eq]
    exact nameChars c member
  obtain ⟨text, w, written, reads, reordered⟩ := exists_assignment_body name restorable
  exact ⟨w, readAssignment_of_readWhole nonempty isName written reads.readWhole, reordered⟩

/-- Integer keys out of order, one of them below zero, over a dictionary whose own keys stay out of order and a tuple of
    one tuple. -/
def slotTable : Value :=
  .dict [(.int 10, .dict [(.str "b", .none), (.str "a", .bool true)]), (.int (-3), .tuple [.tuple []]),
    (.int 2, .list [.str "=", .bytes [10, 35]])]

theorem readAssignment_assignment_slotTable :
    ∃ w, readAssignment (slotTable.assignment "Ω_2") = .ok ("Ω_2", w) ∧ slotTable.Reordered w := by
  apply readAssignment_assignment "Ω_2" slotTable
  · decide
  · decide
  · have notSmallest : (10 : Int64) ≠ Int64.minValue ∧ (-3 : Int64) ≠ Int64.minValue ∧ (2 : Int64) ≠ Int64.minValue := by
      decide
    simp [slotTable, Value.Restorable, Value.AllRestorable, PairsRestorable, notSmallest]

end Literal

end SourceRecovery
