/-
Module: SourceRecovery.Proofs.TextSearch
Layer: Proofs
Purpose: What the search operations of a text find. A pattern is contained in a text when it is an infix of
  its characters, a text without counted occurrences does not contain the pattern, and a line or piece of a
  text contains nothing that the text does not contain. A pattern that stands on one line is contained in pieces put
  together only when one of them contains it.
Imports: SourceRecovery.Text.Basic
Trusted boundary: none
Main exports: Chars.contains_iff_infix, Chars.not_contains_of_occurrences_eq_zero, contains_of_mem_lines,
  exists_piece_of_line, contains_join, not_contains_join
Open obligations: none
-/
import SourceRecovery.Text.Basic

namespace SourceRecovery.Text

namespace Chars

/-- A pattern is contained in a text exactly when it is an infix of it. -/
theorem contains_iff_infix (pattern : List Char) (cs : List Char) :
    contains pattern cs = true ↔ pattern <:+: cs := by
  induction cs with
  | nil =>
      simp [contains]
  | cons c cs ih =>
      simp only [contains, Bool.or_eq_true, List.isPrefixOf_iff_prefix, ih]
      rw [List.infix_cons_iff]

/-- Counting without overlap misses no pattern: a text without occurrences does not contain it. -/
theorem not_contains_of_occurrencesFrom_eq_zero {pattern : List Char} (nonempty : pattern ≠ [])
    {cs : List Char} (none : occurrencesFrom pattern 0 cs = 0) :
    contains pattern cs = false := by
  induction cs with
  | nil =>
      simp [contains, nonempty]
  | cons c cs ih =>
      unfold occurrencesFrom at none
      split at none
      · simp at none
      · rename_i notHere
        have notLater : contains pattern cs = false := ih none
        simp [contains, notLater, notHere]

/-- A text in which a pattern is counted zero times does not contain it. -/
theorem not_contains_of_occurrences_eq_zero {pattern cs : List Char}
    (none : occurrences pattern cs = 0) : contains pattern cs = false := by
  unfold occurrences at none
  split at none
  · simp at none
  · rename_i nonempty
    exact not_contains_of_occurrencesFrom_eq_zero (by simpa using nonempty) none

/-- What a part of a text contains, the text contains. -/
theorem contains_of_infix {pattern part cs : List Char} (inside : part <:+: cs)
    (found : contains pattern part = true) : contains pattern cs = true := by
  rw [ contains_iff_infix] at found ⊢
  exact found.trans inside

/-- Every piece is a part of the pieces put together. -/
theorem infix_intercalate {sep piece : List Char} {pieces : List (List Char)}
    (member : piece ∈ pieces) : piece <:+: sep.intercalate pieces := by
  induction pieces with
  | nil =>
      simp at member
  | cons first rest ih =>
      cases rest with
      | nil =>
          have here : piece = first := by simpa using member
          simp [here]
      | cons second rest =>
          rw [List.intercalate_cons_cons]
          rcases List.mem_cons.mp member with here | later
          · rw [here, List.append_assoc]
            exact (List.prefix_append first _).isInfix
          · exact (ih later).trans (List.suffix_append _ _).isInfix

/-- Every piece between line feeds is a part of the text. -/
theorem infix_of_mem_splitOn {piece cs : List Char} (member : piece ∈ cs.splitOn '\n') :
    piece <:+: cs := by
  have inside : piece <:+: ['\n'].intercalate (cs.splitOn '\n') := infix_intercalate member
  rwa [List.intercalate_splitOn] at inside

/-- A line loses at most its last character. -/
theorem dropReturn_prefix (line : List Char) : dropReturn line <+: line := by
  unfold dropReturn
  split
  · exact List.dropLast_prefix line
  · exact List.prefix_refl line

/-- A line is the front of the piece of the same number. -/
theorem exists_piece_of_line {pieces : List (List Char)} {k : Nat} {line : List Char}
    (found : (linesOfPieces pieces)[k]? = some line) : ∃ piece, pieces[k]? = some piece ∧ line <+: piece := by
  induction pieces generalizing k with
  | nil =>
      cases found
  | cons first rest ih =>
      cases rest with
      | nil =>
          unfold linesOfPieces at found
          split at found
          · cases found
          · exact ⟨line, found, List.prefix_refl line⟩
      | cons second rest =>
          cases k with
          | zero =>
              cases found
              exact ⟨first, rfl, dropReturn_prefix first⟩
          | succ k =>
              exact ih found

/-- Every line is the front of a piece. -/
theorem exists_piece_of_mem_lines {line : List Char} {pieces : List (List Char)}
    (member : line ∈ linesOfPieces pieces) : ∃ piece ∈ pieces, line <+: piece := by
  obtain ⟨k, found⟩ := List.getElem?_of_mem member
  obtain ⟨piece, isPiece, front⟩ := exists_piece_of_line found
  exact ⟨piece, List.mem_of_getElem? isPiece, front⟩

/-- Every line is a part of the text. -/
theorem infix_of_mem_lines {line cs : List Char} (member : line ∈ lines cs) : line <:+: cs := by
  obtain ⟨piece, pieceMem, front⟩ := exists_piece_of_mem_lines member
  exact front.isInfix.trans (infix_of_mem_splitOn pieceMem)

/-- A pattern without the separator that stands in two texts with the separator between them stands in one of them. -/
theorem infix_or_infix_of_append_cons {sep : Char} {pattern front back : List Char} (whole : sep ∉ pattern)
    (inside : pattern <:+: front ++ sep :: back) : pattern <:+: front ∨ pattern <:+: back := by
  have unreached {part : List Char} (within : part ⊆ pattern) (atSep : part <+: sep :: back) : part = [] := by
    rcases List.prefix_cons_iff.mp atSep with isNil | ⟨rest, isPart, _⟩
    · exact isNil
    · rw [isPart] at within
      exact absurd (within List.mem_cons_self) whole
  rcases List.infix_append_iff.mp inside with inFront | inBack | ⟨left, right, isPattern, atEnd, atSep⟩
  · exact .inl inFront
  · rcases List.infix_cons_iff.mp inBack with atSep | inBack
    · rw [unreached (List.Subset.refl _) atSep]
      exact .inl List.nil_infix
    · exact .inr inBack
  · left
    rw [isPattern, unreached (isPattern ▸ List.subset_append_right left right) atSep, List.append_nil]
    exact atEnd.isInfix

/-- A pattern without the separator that stands in pieces put together stands in one of them. -/
theorem exists_infix_of_intercalate {sep : Char} {pattern : List Char} (nonempty : pattern ≠ []) (whole : sep ∉ pattern)
    {pieces : List (List Char)} (inside : pattern <:+: [sep].intercalate pieces) :
    ∃ piece ∈ pieces, pattern <:+: piece := by
  induction pieces with
  | nil =>
      exact absurd (List.infix_nil.mp inside) nonempty
  | cons first rest ih =>
      cases rest with
      | nil =>
          rw [List.intercalate_singleton] at inside
          exact ⟨first, List.mem_cons_self, inside⟩
      | cons second rest =>
          rw [List.intercalate_cons_cons, List.append_assoc] at inside
          rcases infix_or_infix_of_append_cons whole inside with here | later
          · exact ⟨first, List.mem_cons_self, here⟩
          · obtain ⟨piece, member, found⟩ := ih later
            exact ⟨piece, List.mem_cons_of_mem first member, found⟩

/-- No piece holds the separator. -/
theorem not_mem_of_mem_splitOn {sep : Char} {piece cs : List Char} (member : piece ∈ cs.splitOn sep) : sep ∉ piece := by
  induction cs generalizing piece with
  | nil =>
      rw [List.splitOn_nil, List.mem_singleton] at member
      rw [member]
      exact List.not_mem_nil
  | cons c cs ih =>
      rw [List.splitOn, List.splitOnP_cons_eq_if_modifyHead, ← List.splitOn] at member
      split at member
      · rcases List.mem_cons.mp member with rfl | later
        · exact List.not_mem_nil
        · exact ih later
      case isFalse other =>
          cases pieces : cs.splitOn sep with
          | nil =>
              rw [pieces] at member
              cases member
          | cons first rest =>
              rw [pieces, List.modifyHead_cons] at member
              rcases List.mem_cons.mp member with rfl | later
              · rw [List.mem_cons, not_or]
                refine ⟨fun same => other (beq_iff_eq.mpr same.symm), ih ?_⟩
                rw [pieces]
                exact List.mem_cons_self
              · apply ih
                rw [pieces]
                exact List.mem_cons_of_mem first later

end Chars

/-- A text in which a pattern is counted zero times does not contain it. -/
theorem not_contains_of_occurrences_eq_zero {s pattern : String} (none : occurrences s pattern = 0) :
    contains s pattern = false :=
  Chars.not_contains_of_occurrences_eq_zero none

/-- What a line contains, the text contains. -/
theorem contains_of_mem_lines {s pattern line : String} (member : line ∈ lines s)
    (found : contains line pattern = true) : contains s pattern = true := by
  obtain ⟨cs, csMem, rfl⟩ := List.mem_map.mp member
  have inside : cs <:+: s.toList := Chars.infix_of_mem_lines csMem
  unfold contains at found ⊢
  rw [String.toList_ofList] at found
  exact Chars.contains_of_infix inside found

/-- Every text contains the empty text. -/
theorem contains_empty (s : String) : contains s "" = true :=
  (Chars.contains_iff_infix _ _).mpr List.nil_infix

/-- What a line contains has no line feed, and the piece of the same number contains it. -/
theorem exists_piece_of_line {s line pattern : String} {k : Nat} (found : (lines s)[k]? = some line)
    (holds : contains line pattern = true) :
    '\n' ∉ pattern.toList ∧ ∃ piece, (split s)[k]? = some piece ∧ contains piece pattern = true := by
  rw [lines, Chars.lines, List.getElem?_map, Option.map_eq_some_iff] at found
  obtain ⟨cs, isLine, rfl⟩ := found
  obtain ⟨piece, isPiece, front⟩ := Chars.exists_piece_of_line isLine
  rw [contains, String.toList_ofList, Chars.contains_iff_infix] at holds
  have inPiece : pattern.toList <:+: piece := holds.trans front.isInfix
  constructor
  · intro broken
    exact Chars.not_mem_of_mem_splitOn (List.mem_of_getElem? isPiece) (inPiece.subset broken)
  · refine ⟨String.ofList piece, ?_, ?_⟩
    · rw [split, List.getElem?_map, isPiece, Option.map_some]
    · rw [contains, String.toList_ofList, Chars.contains_iff_infix]
      exact inPiece

/-- What a piece contains, the pieces put together contain. -/
theorem contains_join {pieces : List String} {piece pattern : String} (member : piece ∈ pieces)
    (holds : contains piece pattern = true) : contains (join pieces) pattern = true := by
  rw [contains, join, String.toList_ofList]
  exact Chars.contains_of_infix (Chars.infix_intercalate (List.mem_map_of_mem member)) holds

/-- What no piece contains, the pieces put together do not contain, unless it goes over a line feed. -/
theorem not_contains_join {pieces : List String} {pattern : String} (nonempty : pattern ≠ "")
    (whole : '\n' ∉ pattern.toList) (free : ∀ piece ∈ pieces, contains piece pattern = false) :
    contains (join pieces) pattern = false := by
  rw [Bool.eq_false_iff]
  intro holds
  rw [contains, join, String.toList_ofList, Chars.contains_iff_infix] at holds
  have someChar : pattern.toList ≠ [] := fun isNil => nonempty (String.toList_eq_nil_iff.mp isNil)
  obtain ⟨cs, isPiece, inside⟩ := Chars.exists_infix_of_intercalate someChar whole holds
  obtain ⟨piece, member, rfl⟩ := List.mem_map.mp isPiece
  have absent := free piece member
  rw [contains, (Chars.contains_iff_infix _ _).mpr inside] at absent
  cases absent

end SourceRecovery.Text
