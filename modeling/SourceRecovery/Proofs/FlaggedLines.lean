/-
Module: SourceRecovery.Proofs.FlaggedLines
Layer: Proofs
Purpose: The lines that a flagged definition takes in. Its range goes on behind its block to the marker that flags it,
  one of the lines right below the header, and over a marker that trails that one. Behind the flagging marker it takes
  in blank lines, comments and marker lines only; what stands between the block and that marker goes along.
Imports: SourceRecovery.Repair.Patch, SourceRecovery.Proofs.LineBlocks, SourceRecovery.Proofs.LineText,
  SourceRecovery.Proofs.TextSearch
Trusted boundary: none
Main exports: Scan.Disposable, Definition.MarkedRange, markedRange_of_flagged, flaggedDefinitions_not_disposable
Open obligations: none
-/
import SourceRecovery.Repair.Patch
import SourceRecovery.Proofs.LineBlocks
import SourceRecovery.Proofs.LineText
import SourceRecovery.Proofs.TextSearch

namespace SourceRecovery

/-! ### Pieces and lines -/

namespace Text

/-- A piece between line feeds is the line of the same number with white space behind it; a last piece that is empty
    is no line. -/
theorem Chars.exists_line_of_piece {pieces : List (List Char)} {k : Nat} {piece : List Char}
    (found : pieces[k]? = some piece) :
    piece = [] ∨ ∃ line blanks, (linesOfPieces pieces)[k]? = some line ∧ piece = line ++ blanks ∧
      ∀ c ∈ blanks, isBlank c = true := by
  induction pieces generalizing k with
  | nil =>
      cases found
  | cons first rest ih =>
      cases rest with
      | nil =>
          cases k with
          | succ k =>
              cases found
          | zero =>
              cases found
              cases piece with
              | nil =>
                  exact .inl rfl
              | cons c cs =>
                  exact .inr ⟨c :: cs, [], rfl, (List.append_nil _).symm, List.forall_mem_nil _⟩
      | cons second rest =>
          cases k with
          | succ k =>
              exact ih found
          | zero =>
              cases found
              obtain ⟨blanks, text, blank⟩ := exists_dropReturn piece
              exact .inr ⟨dropReturn piece, blanks, rfl, text, blank⟩

theorem contains_of_contains_trim {line pattern : String} (found : contains (trim line) pattern = true) :
    contains line pattern = true := by
  unfold contains trim at *
  rw [String.toList_ofList] at found
  apply Chars.contains_of_infix _ found
  obtain ⟨blanks, text, _⟩ := Chars.exists_trimEnd (Chars.trimStart line.toList)
  have front : Chars.trim line.toList <+: Chars.trimStart line.toList := ⟨blanks, text.symm⟩
  exact front.isInfix.trans (List.dropWhile_suffix _).isInfix

end Text

/-- A line outside the range that is replaced stays. -/
theorem Patch.mem_splice {pieces : List String} {start stop k : Nat} {line stub : String} (order : start ≤ stop)
    (found : pieces[k]? = some line) (outside : k < start ∨ stop ≤ k) :
    line ∈ splice pieces start stop stub := by
  have inRange := (List.getElem?_eq_some_iff.mp found).1
  unfold splice
  dsimp only
  rw [List.append_assoc, List.mem_append, List.mem_append]
  rcases outside with before | behind
  · left
    apply List.mem_of_getElem? (i := k)
    rw [List.getElem?_take_of_lt (by omega)]
    exact found
  · right; right
    apply List.mem_of_getElem? (i := k - min stop pieces.length)
    rw [List.getElem?_drop, Nat.add_sub_cancel' (by omega)]
    exact found

/-! ### Lines behind a block -/

namespace Scan

open Text

/-- A line without a statement: a blank line, a comment, or a line that holds the marker. -/
def Disposable (marker line : String) : Prop :=
  isBlankText line = true ∨ isCommentLine line = true ∨ contains line marker = true

/-- White space behind a line does not make it a statement. -/
theorem Disposable.append_blanks {marker : String} {line blanks : List Char}
    (disposable : Disposable marker (String.ofList line)) (blank : ∀ c ∈ blanks, isBlank c = true) :
    Disposable marker (String.ofList (line ++ blanks)) := by
  unfold Disposable isCommentLine isBlankText contains trim at *
  rw [String.toList_ofList] at *
  rcases disposable with allBlank | comment | holds
  · left
    rw [Chars.allBlank, List.all_append, Bool.and_eq_true]
    exact ⟨allBlank, List.all_eq_true.mpr blank⟩
  · right; left
    rw [Chars.trim_append_blanks line blank]
    exact comment
  · right; right
    exact Chars.contains_of_infix (List.prefix_append line blanks).isInfix holds

/-- A piece between line feeds has a statement only when the line of the same number has one. -/
theorem disposable_piece {source marker piece : String} {k : Nat} (found : (split source)[k]? = some piece)
    (ofLine : ∀ line, (lines source)[k]? = some line → Disposable marker line) : Disposable marker piece := by
  rw [split, List.getElem?_map, Option.map_eq_some_iff] at found
  obtain ⟨cs, isPiece, rfl⟩ := found
  rcases Chars.exists_line_of_piece isPiece with rfl | ⟨line, blanks, isLine, rfl, blank⟩
  · exact .inl rfl
  · apply Disposable.append_blanks _ blank
    apply ofLine
    rw [lines, Chars.lines, List.getElem?_map, isLine, Option.map_some]

/-- An end that is moved over a trailing marker passes lines without a statement only. -/
theorem disposable_of_lt_markerEnd {lines : List String} {marker line : String} {place k : Nat} (after : place ≤ k)
    (before : k < markerEnd lines place marker) (found : lines[k]? = some line) : Disposable marker line := by
  unfold markerEnd at before
  cases isEnd : markerEndFrom? marker place (lines.drop place) with
  | none =>
      rw [isEnd, Option.getD_none] at before
      exact absurd before (Nat.not_lt_of_le after)
  | some stop =>
      rw [isEnd, Option.getD_some] at before
      obtain ⟨last, text, isText, holds, rfl, skipped⟩ := markerEndFrom?_eq_some_iff.mp isEnd
      have isLine : (lines.drop place)[k - place]? = some line := by
        rw [List.getElem?_drop, Nat.add_sub_cancel' after]
        exact found
      by_cases isLast : k - place = last
      · rw [isLast, isText] at isLine
        cases isLine
        exact .inr (.inr (contains_of_contains_trim holds))
      · obtain ⟨_, blankOrComment⟩ := skipped (k - place) (by omega) line isLine
        rcases Bool.or_eq_true_iff.mp blankOrComment with blank | comment
        · exact .inl blank
        · exact .inr (.inl comment)

end Scan

/-! ### Ranges of flagged definitions -/

namespace Definition

open Text

/-- The header of a marker is in reach of it. -/
theorem le_start_add_markerReach {lines : List String} {place start : Nat} {header : Header}
    (isHeader : headerOfMarker? lines place = some (start, header)) : place ≤ start + markerReach := by
  obtain ⟨k, line, found, _, rfl, _⟩ := closestHeader?_eq_some_iff.mp isHeader
  have within := (List.getElem?_eq_some_iff.mp found).1
  rw [List.length_take] at within
  omega

/-- The range of a definition that the marker at `place` flags, in the lines of a text. -/
structure MarkedRange (source marker : String) (place : Nat) (d : Definition) : Prop where
  /-- The marker stands below the header, in reach of it. -/
  after : d.start < place
  near : place ≤ d.start + markerReach
  holds : ∃ line, (lines source)[place]? = some line ∧ contains line marker = true
  /-- The range covers the marker. -/
  covers : place < d.stop
  /-- From the end of the block on there are statements above the marker only. -/
  rest : ∀ k line, (lines source)[k]? = some line → Scan.blockEnd (lines source) d.start ≤ k → k < d.stop →
    Scan.Disposable marker line ∨ k < place
  /-- Whatever replaces the range, statements before the header stay, and so do those behind the block from the marker
      on. -/
  kept : ∀ stub k line, (split source)[k]? = some line → ¬ Scan.Disposable marker line →
    k < d.start ∨ Scan.blockEnd (lines source) d.start ≤ k ∧ place ≤ k →
      line ∈ Patch.splice (split source) d.start d.stop stub

/-- From the end of its block on, a flagged definition has statements above its marker only. -/
theorem FlaggedAt.disposable_or_lt {lines : List String} {marker line : String} {place k : Nat} {d : Definition}
    (flagged : FlaggedAt lines marker place d) (found : lines[k]? = some line)
    (behind : Scan.blockEnd lines d.start ≤ k) (before : k < d.stop) : Scan.Disposable marker line ∨ k < place := by
  obtain ⟨markerLine, isMarker, holds⟩ := flagged.holds
  rw [flagged.stop_eq] at before
  by_cases beyond : max (Scan.blockEnd lines d.start) (place + 1) ≤ k
  · exact .inl (Scan.disposable_of_lt_markerEnd beyond before found)
  · by_cases isPlace : k = place
    · rw [isPlace, isMarker] at found
      cases found
      exact .inl (.inr (.inr holds))
    · exact .inr (by omega)

end Definition

/-- A flagged definition reaches to its marker, and beyond its own block it takes in nothing but lines without a
    statement and the lines between its block and the marker. -/
theorem markedRange_of_flagged {source marker : String} {d : Definition}
    (member : d ∈ flaggedDefinitions source marker) : ∃ place, d.MarkedRange source marker place := by
  obtain ⟨place, flagged⟩ := exists_flaggedAt member
  obtain ⟨line, isMarker, holds⟩ := flagged.holds
  obtain ⟨header, closest, _⟩ := flagged.closest
  have inRange := (List.getElem?_eq_some_iff.mp isMarker).1
  have after := (Definition.headerOfMarker?_eq_some inRange closest).1
  have covers : place < d.stop := by
    have atLeast : max (Scan.blockEnd (Text.lines source) d.start) (place + 1) ≤ d.stop := by
      rw [flagged.stop_eq]
      exact Scan.le_markerEnd _
    omega
  refine ⟨place, after, Definition.le_start_add_markerReach closest, ⟨line, isMarker, holds⟩, covers, ?_, ?_⟩
  · intro k line found behind before
    exact flagged.disposable_or_lt found behind before
  · intro stub k text found statement outside
    apply Patch.mem_splice (by omega) found
    rcases outside with before | ⟨behind, below⟩
    · exact .inl before
    · right
      apply Nat.le_of_not_lt
      intro inside
      apply statement
      apply Scan.disposable_piece found
      intro line isLine
      rcases flagged.disposable_or_lt isLine behind inside with disposable | above
      · exact disposable
      · exact absurd above (Nat.not_lt_of_le below)

/-- A method with a note and a marker behind its block, and a statement behind the marker. -/
def notedText : String :=
  "class A:\n    def f(self):\n        pass\n    # note\n# WARNING: Decompyle incomplete\nx = 1\n"

/-- The definition of the method. -/
def notedMethod : Definition where
  name := "f"
  kind := .function
  start := 1
  stop := 5
  indent := 4
  enclosing := some "A"
  header := "def f(self)"
  bases := []
  flagged := true
  placeholder := false

theorem markedRange_notedMethod :
    notedMethod ∈ flaggedDefinitions notedText "# WARNING: Decompyle incomplete" ∧
      ∃ place, notedMethod.MarkedRange notedText "# WARNING: Decompyle incomplete" place := by
  have member : notedMethod ∈ flaggedDefinitions notedText "# WARNING: Decompyle incomplete" := by
    decide +kernel
  exact ⟨member, markedRange_of_flagged member⟩

/-- A function with a statement between its block and the marker that flags it. -/
def strayText : String :=
  "def f():\n    pass\nx = 1\n# WARNING: Decompyle incomplete\n"

/-- Beyond its block a flagged definition can take in a statement. -/
theorem flaggedDefinitions_not_disposable :
    ¬ ∀ source marker, ∀ d ∈ flaggedDefinitions source marker, ∀ k line, (Text.lines source)[k]? = some line →
      Scan.blockEnd (Text.lines source) d.start ≤ k → k < d.stop →
        Text.isBlankText line = true ∨ Scan.isCommentLine line = true := by
  intro ownLines
  have range : ((flaggedDefinitions strayText "# WARNING: Decompyle incomplete").map fun d => (d.start, d.stop)) =
      [(0, 4)] := by
    decide +kernel
  obtain ⟨d, rest, found, isRange, _⟩ := List.map_eq_cons_iff.mp range
  obtain ⟨isStart, isStop⟩ := Prod.mk.inj isRange
  have member : d ∈ flaggedDefinitions strayText "# WARNING: Decompyle incomplete" := by
    rw [found]
    exact List.mem_cons_self
  have isLine : (Text.lines strayText)[2]? = some "x = 1" := by
    decide +kernel
  have behind : Scan.blockEnd (Text.lines strayText) d.start ≤ 2 := by
    rw [isStart]
    decide +kernel
  have inside : 2 < d.stop := by
    rw [isStop]
    decide
  have harmless := ownLines strayText _ d member 2 "x = 1" isLine behind inside
  revert harmless
  decide +kernel

end SourceRecovery
