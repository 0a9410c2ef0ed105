/-
Module: SourceRecovery.Proofs.LineBlocks
Layer: Proofs
Purpose: Blocks of lines and the markers that trail them. A block holds the lines that stand further in than its
  header; the block of a line inside another block ends no later than that one, and an end that is moved over a
  trailing marker stays in order. The header of a marker is that of the first line above it that has one.
Imports: Mathlib.Data.List.TakeWhile, SourceRecovery.Source.Definition
Trusted boundary: none
Main exports: Scan.Inside, Scan.blockEnd_le_blockEnd, Scan.markerEndFrom?_eq_some_iff, Scan.markerEnd_mono,
  Definition.closestHeader?_eq_some_iff, Definition.FlaggedAt, exists_flaggedAt
Open obligations: none
-/
import Mathlib.Data.List.TakeWhile
import SourceRecovery.Source.Definition

namespace SourceRecovery.Scan

open Text

/-! ### Blocks -/

/-- A line does not end a block whose header has the indentation `base`. -/
def Inside (base : Nat) (line : String) : Prop :=
  isBlankText line = true ∨ base < indentWidth line

section

variable {base : Nat} {rest : List String}

theorem lt_blockEndFrom {place last : Nat} (earlier : last < place) :
    last < blockEndFrom base place last rest := by
  induction rest generalizing place last with
  | nil =>
      exact Nat.lt_add_one last
  | cons line rest ih =>
      rw [blockEndFrom]
      split
      · exact ih (Nat.lt_add_right 1 earlier)
      · split
        · exact Nat.lt_add_one last
        · exact Nat.lt_trans earlier (ih (Nat.lt_add_one place))

/-- All lines before the end of a block are inside it. -/
theorem inside_of_lt_blockEndFrom {place last k : Nat} {line : String} (earlier : last < place)
    (found : rest[k]? = some line) (before : place + k < blockEndFrom base place last rest) :
    Inside base line := by
  induction rest generalizing place last k with
  | nil =>
      cases found
  | cons first rest ih =>
      rw [blockEndFrom] at before
      split at before
      case isTrue blank =>
          cases k with
          | zero =>
              cases found
              exact .inl blank
          | succ k =>
              exact ih (Nat.lt_add_right 1 earlier) found (by omega)
      case isFalse =>
          split at before
          case isTrue =>
              omega
          case isFalse deeper =>
              cases k with
              | zero =>
                  cases found
                  exact .inr (Nat.lt_of_not_le deeper)
              | succ k =>
                  exact ih (Nat.lt_add_one place) found (by omega)

/-- A line with contents is before the end of a block when all lines up to it are inside. -/
theorem lt_blockEndFrom_of_inside {place last k : Nat} {line : String} (earlier : last < place)
    (found : rest[k]? = some line) (solid : isBlankText line = false)
    (inside : ∀ j ≤ k, ∀ other, rest[j]? = some other → Inside base other) :
    place + k < blockEndFrom base place last rest := by
  induction rest generalizing place last k with
  | nil =>
      cases found
  | cons first rest ih =>
      have later : ∀ k', k = k' + 1 → ∀ j ≤ k', ∀ other, rest[j]? = some other → Inside base other := by
        rintro k' rfl j within other isOther
        exact inside (j + 1) (Nat.succ_le_succ within) other isOther
      rw [blockEndFrom]
      split
      case isTrue blank =>
          cases k with
          | zero =>
              cases found
              rw [blank] at solid
              cases solid
          | succ k =>
              have next := ih (Nat.lt_add_right 1 earlier) found (later k rfl)
              omega
      case isFalse notBlank =>
          have deeper : base < indentWidth first := by
            rcases inside 0 (Nat.zero_le k) first rfl with blank | deeper
            · exact absurd blank notBlank
            · exact deeper
          rw [if_neg (Nat.not_le_of_lt deeper)]
          cases k with
          | zero =>
              exact lt_blockEndFrom (Nat.lt_add_one place)
          | succ k =>
              have next := ih (Nat.lt_add_one place) found (later k rfl)
              omega

/-- A block ends behind the last line known to belong to it, or behind a later line with contents. -/
theorem blockEndFrom_cases (place last : Nat) :
    blockEndFrom base place last rest = last + 1 ∨
      ∃ k line, rest[k]? = some line ∧ isBlankText line = false ∧
        blockEndFrom base place last rest = place + k + 1 := by
  induction rest generalizing place last with
  | nil =>
      exact .inl rfl
  | cons first rest ih =>
      rw [blockEndFrom]
      split
      · rcases ih (place + 1) last with same | ⟨k, line, found, solid, isEnd⟩
        · exact .inl same
        · exact .inr ⟨k + 1, line, found, solid, by omega⟩
      case isFalse notBlank =>
          split
          · exact .inl rfl
          · rcases ih (place + 1) place with same | ⟨k, line, found, solid, isEnd⟩
            · exact .inr ⟨0, first, rfl, Bool.eq_false_iff.mpr notBlank, same⟩
            · exact .inr ⟨k + 1, line, found, solid, by omega⟩

end

section

variable {lines : List String} {header place : Nat} {line : String}

/-- The indentation of the line at a place. -/
def indentAt (lines : List String) (place : Nat) : Nat :=
  match lines[place]? with
  | some line => indentWidth line
  | none => 0

/-- All lines of a block are inside it. -/
theorem inside_of_lt_blockEnd (after : header < place) (before : place < blockEnd lines header)
    (found : lines[place]? = some line) : Inside (indentAt lines header) line := by
  have sum : header + 1 + (place - (header + 1)) = place := by omega
  apply inside_of_lt_blockEndFrom (Nat.lt_add_one header) (k := place - (header + 1))
  · rw [List.getElem?_drop, sum]
    exact found
  · rw [sum]
    exact before

/-- A line with contents belongs to a block when all lines from the header to it are inside. -/
theorem lt_blockEnd_of_inside (after : header < place) (found : lines[place]? = some line)
    (solid : isBlankText line = false)
    (inside : ∀ other, header < other → other ≤ place → ∀ text, lines[other]? = some text →
      Inside (indentAt lines header) text) :
    place < blockEnd lines header := by
  have sum : header + 1 + (place - (header + 1)) = place := by omega
  have before : header + 1 + (place - (header + 1)) < blockEnd lines header := by
    apply lt_blockEndFrom_of_inside (Nat.lt_add_one header) _ solid
    · intro j within text isText
      rw [List.getElem?_drop] at isText
      exact inside (header + 1 + j) (by omega) (by omega) text isText
    · rw [List.getElem?_drop, sum]
      exact found
  rwa [sum] at before

/-- A block ends behind its header or behind a line with contents. -/
theorem blockEnd_cases (lines : List String) (header : Nat) :
    blockEnd lines header = header + 1 ∨
      ∃ place line, header < place ∧ lines[place]? = some line ∧ isBlankText line = false ∧
        blockEnd lines header = place + 1 := by
  rcases blockEndFrom_cases (header + 1) header with alone | ⟨k, line, found, solid, isEnd⟩
  · exact .inl alone
  · rw [List.getElem?_drop] at found
    exact .inr ⟨header + 1 + k, line, by omega, found, solid, isEnd⟩

/-- The block of a line with contents in another block ends no later than that one. -/
theorem blockEnd_le_blockEnd {outer inner : Nat} (after : outer < inner)
    (before : inner < blockEnd lines outer) (found : lines[inner]? = some line)
    (solid : isBlankText line = false) : blockEnd lines inner ≤ blockEnd lines outer := by
  have deeper : indentAt lines outer < indentAt lines inner := by
    rcases inside_of_lt_blockEnd after before found with blank | deeper
    · rw [solid] at blank
      cases blank
    · unfold indentAt at deeper ⊢
      rw [found]
      exact deeper
  rcases blockEnd_cases lines inner with alone | ⟨last, text, behind, isText, isSolid, isEnd⟩
  · rw [alone]
    exact before
  · rw [isEnd]
    apply lt_blockEnd_of_inside (Nat.lt_trans after behind) isText isSolid
    -- up to the inner header the outer block goes on, and from there the inner one does
    intro place isAfter within other isOther
    by_cases early : place ≤ inner
    · exact inside_of_lt_blockEnd isAfter (Nat.lt_of_le_of_lt early before) isOther
    · rcases inside_of_lt_blockEnd (Nat.lt_of_not_le early) (by omega) isOther with blank | further
      · exact .inl blank
      · exact .inr (Nat.lt_trans deeper further)

end

/-! ### Trailing markers -/

/-- A line that may stand between a block and a marker that trails it. -/
def Skipped (marker line : String) : Prop :=
  contains (trim line) marker = false ∧ (isBlankText line || isCommentLine line) = true

/-- The end of a trailing marker is the end of the first line that holds it, with skipped lines before. -/
theorem markerEndFrom?_eq_some_iff {marker : String} {place stop : Nat} {rest : List String} :
    markerEndFrom? marker place rest = some stop ↔
      ∃ k line, rest[k]? = some line ∧ contains (trim line) marker = true ∧ stop = place + k + 1 ∧
        ∀ j < k, ∀ other, rest[j]? = some other → Skipped marker other := by
  induction rest generalizing place with
  | nil =>
      simp [markerEndFrom?]
  | cons first rest ih =>
      rw [markerEndFrom?]
      by_cases holds : contains (trim first) marker = true
      · rw [if_pos holds]
        constructor
        · intro isStop
          cases isStop
          exact ⟨0, first, rfl, holds, rfl, fun j absurd => (Nat.not_lt_zero j absurd).elim⟩
        · rintro ⟨k, line, found, _, rfl, skipped⟩
          cases k with
          | zero =>
              rfl
          | succ k =>
              have absurd := (skipped 0 (Nat.succ_pos k) first rfl).1
              rw [holds] at absurd
              cases absurd
      · rw [if_neg holds]
        by_cases passes : (isBlankText first || isCommentLine first) = true
        · rw [if_pos passes, ih]
          constructor
          · rintro ⟨k, line, found, isMarker, rfl, skipped⟩
            refine ⟨k + 1, line, found, isMarker, by omega, ?_⟩
            intro j within other isOther
            cases j with
            | zero =>
                cases isOther
                exact ⟨Bool.eq_false_iff.mpr holds, passes⟩
            | succ j =>
                exact skipped j (Nat.lt_of_succ_lt_succ within) other isOther
          · rintro ⟨k, line, found, isMarker, rfl, skipped⟩
            cases k with
            | zero =>
                cases found
                exact absurd isMarker holds
            | succ k =>
                refine ⟨k, line, found, isMarker, by omega, ?_⟩
                intro j within other isOther
                exact skipped (j + 1) (Nat.succ_lt_succ within) other isOther
        · rw [if_neg passes]
          constructor
          · intro absurd
            cases absurd
          · rintro ⟨k, line, found, isMarker, rfl, skipped⟩
            cases k with
            | zero =>
                cases found
                exact absurd isMarker holds
            | succ k =>
                exact absurd (skipped 0 (Nat.succ_pos k) first rfl).2 passes

section

variable {lines : List String} {marker : String}

theorem le_markerEnd (place : Nat) : place ≤ markerEnd lines place marker := by
  unfold markerEnd
  cases isEnd : markerEndFrom? marker place (lines.drop place) with
  | none =>
      exact Nat.le_refl place
  | some stop =>
      obtain ⟨k, _, _, _, rfl, _⟩ := markerEndFrom?_eq_some_iff.mp isEnd
      rw [Option.getD_some]
      omega

/-- Ends that are moved over trailing markers stay in order. -/
theorem markerEnd_mono {place later : Nat} (order : place ≤ later) :
    markerEnd lines place marker ≤ markerEnd lines later marker := by
  have atLeast : later ≤ markerEnd lines later marker := le_markerEnd later
  cases isEnd : markerEndFrom? marker place (lines.drop place) with
  | none =>
      have stays : markerEnd lines place marker = place := by
        rw [markerEnd, isEnd, Option.getD_none]
      omega
  | some stop =>
      have moved : markerEnd lines place marker = stop := by
        rw [markerEnd, isEnd, Option.getD_some]
      obtain ⟨k, line, found, isMarker, isStop, skipped⟩ := markerEndFrom?_eq_some_iff.mp isEnd
      rw [moved]
      by_cases early : stop ≤ later
      · exact Nat.le_trans early atLeast
      · -- the marker stands behind both ends, so both are moved over it
        have same : markerEndFrom? marker later (lines.drop later) = some stop := by
          apply markerEndFrom?_eq_some_iff.mpr
          refine ⟨place + k - later, line, ?_, isMarker, by omega, ?_⟩
          · rw [List.getElem?_drop] at found ⊢
            rw [show later + (place + k - later) = place + k by omega]
            exact found
          · intro j within other isOther
            rw [List.getElem?_drop] at isOther
            apply skipped (later + j - place) (by omega) other
            rw [List.getElem?_drop, show place + (later + j - place) = later + j by omega]
            exact isOther
        have alike : markerEnd lines later marker = stop := by
          rw [markerEnd, same, Option.getD_some]
        exact Nat.le_of_eq alike.symm

end

end SourceRecovery.Scan

namespace SourceRecovery

/-! ### Flagged definitions -/

theorem Header.isBlankText_of_ofLine? {line : String} {header : Header}
    (found : Header.ofLine? line = some header) : Text.isBlankText line = false := by
  rw [← Bool.not_eq_true]
  intro blank
  have nothing : Text.Chars.trimStart line.toList = [] := by
    rw [Text.Chars.trimStart, List.dropWhile_eq_nil_iff]
    exact List.all_eq_true.mp blank
  delta Header.ofLine? at found
  rw [nothing] at found
  cases found

namespace Definition

variable {lines : List String} {marker : String}

theorem closestHeader?_cons (place : Nat) (line : String) (rest : List String) :
    closestHeader? place (line :: rest) =
      match Header.ofLine? line with
      | some header => some (place - 1, header)
      | none => closestHeader? (place - 1) rest := by
  rfl

/-- The closest header is that of the first line in the row that has one. -/
theorem closestHeader?_eq_some_iff {before : List String} {place start : Nat} {header : Header} :
    closestHeader? place before = some (start, header) ↔
      ∃ k line, before[k]? = some line ∧ Header.ofLine? line = some header ∧ start = place - 1 - k ∧
        ∀ j < k, ∀ other, before[j]? = some other → Header.ofLine? other = none := by
  induction before generalizing place with
  | nil =>
      constructor
      · intro closest
        cases closest
      · rintro ⟨k, line, found, _⟩
        cases found
  | cons first rest ih =>
      rw [closestHeader?_cons]
      cases isHeader : Header.ofLine? first with
      | some found =>
          dsimp only
          constructor
          · intro closest
            cases closest
            exact ⟨0, first, rfl, isHeader, rfl, fun j absurd => (Nat.not_lt_zero j absurd).elim⟩
          · rintro ⟨k, line, isLine, read, rfl, clear⟩
            cases k with
            | zero =>
                cases isLine
                cases isHeader.symm.trans read
                rfl
            | succ k =>
                cases isHeader.symm.trans (clear 0 (Nat.succ_pos k) first rfl)
      | none =>
          dsimp only
          rw [ih]
          constructor
          · rintro ⟨k, line, isLine, read, rfl, clear⟩
            refine ⟨k + 1, line, isLine, read, by omega, ?_⟩
            intro j earlier other isOther
            cases j with
            | zero =>
                cases isOther
                exact isHeader
            | succ j =>
                exact clear j (Nat.lt_of_succ_lt_succ earlier) other isOther
          · rintro ⟨k, line, isLine, read, rfl, clear⟩
            cases k with
            | zero =>
                cases isLine
                cases isHeader.symm.trans read
            | succ k =>
                refine ⟨k, line, isLine, read, by omega, ?_⟩
                intro j earlier other isOther
                exact clear (j + 1) (Nat.succ_lt_succ earlier) other isOther

/-- The lines before a place, the nearest first, as far as a marker reaches. -/
theorem getElem?_before {place k : Nat} (inRange : place ≤ lines.length) (above : k < place) (near : k < markerReach) :
    ((lines.take place).reverse.take markerReach)[k]? = lines[place - 1 - k]? := by
  have length : (lines.take place).length = place := List.length_take_of_le inRange
  rw [List.getElem?_take_of_lt near, List.getElem?_reverse (by rw [length]; exact above), length,
    List.getElem?_take_of_lt (by omega)]

/-- The header of a marker stands on an earlier line. -/
theorem headerOfMarker?_eq_some {place start : Nat} {header : Header} (inRange : place < lines.length)
    (isHeader : headerOfMarker? lines place = some (start, header)) :
    start < place ∧ ∃ line, lines[start]? = some line ∧ Header.ofLine? line = some header := by
  obtain ⟨k, line, found, isLine, rfl, _⟩ := closestHeader?_eq_some_iff.mp isHeader
  have within := (List.getElem?_eq_some_iff.mp found).1
  rw [List.length_take, List.length_reverse, List.length_take_of_le (Nat.le_of_lt inRange)] at within
  rw [getElem?_before (Nat.le_of_lt inRange) (by omega) (by omega)] at found
  exact ⟨by omega, line, found, isLine⟩

/-- A definition is the one that the marker on a line flags. -/
structure FlaggedAt (lines : List String) (marker : String) (place : Nat) (d : Definition) : Prop where
  holds : ∃ line, lines[place]? = some line ∧ Text.contains line marker = true
  closest : ∃ header, headerOfMarker? lines place = some (d.start, header) ∧
    d = ofMarker lines marker place d.start header

/-- A flagged definition ends with its block or its marker, and with a marker that trails them. -/
theorem FlaggedAt.stop_eq {place : Nat} {d : Definition} (flagged : FlaggedAt lines marker place d) :
    d.stop = Scan.markerEnd lines (max (Scan.blockEnd lines d.start) (place + 1)) marker := by
  obtain ⟨header, _, isText⟩ := flagged.closest
  exact congrArg Definition.stop isText

/-- A line adds at most the definition that its marker flags. -/
theorem mem_addFlagged {found : List Definition} {place : Nat} {line : String} {d : Definition}
    (isLine : lines[place]? = some line) (member : d ∈ addFlagged lines marker found place line) :
    d ∈ found ∨ FlaggedAt lines marker place d := by
  unfold addFlagged at member
  split at member
  case isTrue holds =>
      cases closest : headerOfMarker? lines place with
      | none =>
          rw [closest] at member
          exact .inl member
      | some pair =>
          rw [closest] at member
          dsimp only at member
          split at member
          · exact .inl member
          · rcases List.mem_append.mp member with old | isNew
            · exact .inl old
            · rw [List.mem_singleton.mp isNew]
              exact .inr ⟨⟨line, isLine, holds⟩, pair.2, closest, rfl⟩
  case isFalse =>
      exact .inl member

/-- Definitions found in the lines from a place on are flagged there. -/
theorem mem_flaggedFrom {rest : List String} {place : Nat} {found : List Definition} {d : Definition}
    (isRest : rest = lines.drop place) (member : d ∈ flaggedFrom lines marker place rest found) :
    d ∈ found ∨ ∃ place, FlaggedAt lines marker place d := by
  induction rest generalizing place found with
  | nil =>
      exact .inl member
  | cons line rest ih =>
      have isLine : lines[place]? = some line := by
        have first : (lines.drop place)[0]? = some line := by rw [← isRest]; rfl
        rwa [List.getElem?_drop] at first
      have isTail : rest = lines.drop (place + 1) := by
        rw [← List.drop_drop, ← isRest]
        rfl
      rcases ih isTail member with added | later
      · rcases mem_addFlagged isLine added with old | flagged
        · exact .inl old
        · exact .inr ⟨place, flagged⟩
      · exact .inr later

end Definition

/-- Every flagged definition is the one that the marker on some line flags. -/
theorem exists_flaggedAt {source marker : String} {d : Definition}
    (member : d ∈ flaggedDefinitions source marker) :
    ∃ place, Definition.FlaggedAt (Text.lines source) marker place d := by
  rcases Definition.mem_flaggedFrom (List.drop_zero).symm member with absurd | flagged
  · cases absurd
  · exact flagged

end SourceRecovery
