/-
Module: SourceRecovery.Proofs.FlaggedHeaders
Layer: Proofs
Purpose: Which definitions of a text are flagged, and that their ranges are ranges of its lines. A header is flagged
  exactly when it is the closest one above some marker, within reach of it. Each is found once, its range starts with
  the header, holds a marker below it, and ends within the text.
Imports: Mathlib.Data.List.Nodup, SourceRecovery.Proofs.HeaderLines, SourceRecovery.Proofs.LineBlocks
Trusted boundary: none
Main exports: HeaderAt, ClosestHeader, Definition.headerOfMarker?_iff, flaggedDefinitions_headers
Open obligations: none
-/
import Mathlib.Data.List.Nodup
import SourceRecovery.Proofs.HeaderLines
import SourceRecovery.Proofs.LineBlocks

namespace SourceRecovery

/-- A header stands on the line at a place. -/
def HeaderAt (lines : List String) (place : Nat) : Prop :=
  ∃ line header, lines[place]? = some line ∧ Header.OnLine header line

/-- The header at `start` is the closest one above the line at `place`, and a marker on that line is in reach of it. -/
structure ClosestHeader (lines : List String) (place start : Nat) : Prop where
  above : start < place
  near : place ≤ start + Definition.markerReach
  header : HeaderAt lines start
  between : ∀ k, start < k → k < place → ¬ HeaderAt lines k

/-! ### Ends within the text -/

namespace Scan

variable {lines : List String}

theorem blockEnd_le_length {header : Nat} (inRange : header < lines.length) : blockEnd lines header ≤ lines.length := by
  rcases blockEnd_cases lines header with alone | ⟨last, line, _, found, _, isEnd⟩
  · rw [alone]
    exact inRange
  · rw [isEnd]
    exact (List.getElem?_eq_some_iff.mp found).1

theorem markerEnd_le_length {place : Nat} {marker : String} (within : place ≤ lines.length) :
    markerEnd lines place marker ≤ lines.length := by
  unfold markerEnd
  cases isEnd : markerEndFrom? marker place (lines.drop place) with
  | none =>
      exact within
  | some stop =>
      obtain ⟨k, line, found, _, rfl, _⟩ := markerEndFrom?_eq_some_iff.mp isEnd
      rw [List.getElem?_drop] at found
      exact (List.getElem?_eq_some_iff.mp found).1

end Scan

/-! ### The closest header -/

namespace Definition

variable {lines : List String} {marker : String}

/-- The header of a marker is the closest one above it. -/
theorem headerOfMarker?_iff {place start : Nat} (inRange : place < lines.length) :
    (∃ header, headerOfMarker? lines place = some (start, header)) ↔ ClosestHeader lines place start := by
  have before {k : Nat} (above : k < place) (near : k < markerReach) := getElem?_before (Nat.le_of_lt inRange) above near
  constructor
  · rintro ⟨header, closest⟩
    obtain ⟨k, line, found, read, rfl, clear⟩ := closestHeader?_eq_some_iff.mp closest
    have within := (List.getElem?_eq_some_iff.mp found).1
    rw [List.length_take, List.length_reverse, List.length_take_of_le (Nat.le_of_lt inRange)] at within
    rw [before (by omega) (by omega)] at found
    refine ⟨by omega, by omega, ⟨line, header, found, Header.ofLine?_eq_some_iff.mp read⟩, ?_⟩
    rintro i after above ⟨other, otherHeader, isOther, onLine⟩
    have isBefore := before (k := place - 1 - i) (by omega) (by omega)
    rw [show place - 1 - (place - 1 - i) = i by omega, isOther] at isBefore
    have none := clear (place - 1 - i) (by omega) other isBefore
    rw [Header.ofLine?_eq_some_iff.mpr onLine] at none
    cases none
  · rintro ⟨above, near, ⟨line, header, found, onLine⟩, between⟩
    refine ⟨header, closestHeader?_eq_some_iff.mpr ⟨place - 1 - start, line, ?_, ?_, by omega, ?_⟩⟩
    · rw [before (by omega) (by omega), show place - 1 - (place - 1 - start) = start by omega]
      exact found
    · exact Header.ofLine?_eq_some_iff.mpr onLine
    · intro j earlier other isOther
      rw [before (by omega) (by omega)] at isOther
      apply Option.eq_none_iff_forall_ne_some.mpr
      intro otherHeader read
      exact between (place - 1 - j) (by omega) (by omega)
        ⟨other, otherHeader, isOther, Header.ofLine?_eq_some_iff.mp read⟩

/-! ### Ranges of definitions -/

namespace FlaggedAt

variable {place : Nat} {d : Definition}

/-- The header of a flagged definition is the closest one above its marker. -/
theorem closestHeader (flagged : FlaggedAt lines marker place d) : ClosestHeader lines place d.start := by
  obtain ⟨line, isLine, _⟩ := flagged.holds
  obtain ⟨header, closest, _⟩ := flagged.closest
  exact (headerOfMarker?_iff (List.getElem?_eq_some_iff.mp isLine).1).mp ⟨header, closest⟩

/-- A flagged definition has the width, the kind and the name of the header on its first line. -/
theorem onLine (flagged : FlaggedAt lines marker place d) :
    ∃ line, lines[d.start]? = some line ∧ Header.OnLine ⟨d.indent, d.kind, d.name⟩ line := by
  obtain ⟨line, isLine, _⟩ := flagged.holds
  obtain ⟨header, closest, isText⟩ := flagged.closest
  obtain ⟨_, headerLine, found, read⟩ := headerOfMarker?_eq_some (List.getElem?_eq_some_iff.mp isLine).1 closest
  have isHeader : header = ⟨d.indent, d.kind, d.name⟩ := by
    rw [isText]
    rfl
  rw [← isHeader]
  exact ⟨headerLine, found, Header.ofLine?_eq_some_iff.mp read⟩

/-- A flagged definition goes beyond its marker. -/
theorem lt_stop (flagged : FlaggedAt lines marker place d) : place < d.stop := by
  rw [flagged.stop_eq]
  calc place < place + 1 := Nat.lt_add_one place
    _ ≤ max (Scan.blockEnd lines d.start) (place + 1) := Nat.le_max_right _ _
    _ ≤ _ := Scan.le_markerEnd _

/-- A flagged definition ends within the text. -/
theorem stop_le_length (flagged : FlaggedAt lines marker place d) : d.stop ≤ lines.length := by
  obtain ⟨line, isLine, _⟩ := flagged.holds
  have inRange := (List.getElem?_eq_some_iff.mp isLine).1
  have within := Scan.blockEnd_le_length (Nat.lt_trans flagged.closestHeader.above inRange)
  rw [flagged.stop_eq]
  exact Scan.markerEnd_le_length (Nat.max_le.mpr ⟨within, inRange⟩)

end FlaggedAt

/-! ### What is found -/

/-- Definitions that were found stay. -/
theorem subset_addFlagged (found : List Definition) (place : Nat) (line : String) :
    found ⊆ addFlagged lines marker found place line := by
  unfold addFlagged
  split
  · split
    · split
      · exact List.Subset.refl found
      · exact List.subset_append_left found _
    · exact List.Subset.refl found
  · exact List.Subset.refl found

/-- No header is found twice. -/
theorem nodup_addFlagged {found : List Definition} (distinct : (found.map Definition.start).Nodup) (place : Nat)
    (line : String) : ((addFlagged lines marker found place line).map Definition.start).Nodup := by
  unfold addFlagged
  split
  · split
    case h_1 start header _ =>
        split
        case isTrue =>
            exact distinct
        case isFalse fresh =>
            rw [Bool.not_eq_true, List.any_eq_false] at fresh
            rw [List.map_append, List.map_singleton, ← List.concat_eq_append]
            refine List.Nodup.concat ?_ distinct
            intro member
            obtain ⟨d, isFound, isStart⟩ := List.mem_map.mp member
            exact fresh d isFound (beq_iff_eq.mpr isStart)
    case h_2 =>
        exact distinct
  · exact distinct

/-- The header of a marker line is found. -/
theorem exists_mem_addFlagged {found : List Definition} {place start : Nat} {line : String} {header : Header}
    (holds : Text.contains line marker = true) (closest : headerOfMarker? lines place = some (start, header)) :
    ∃ d ∈ addFlagged lines marker found place line, d.start = start := by
  rw [addFlagged, if_pos holds, closest]
  dsimp only
  split
  case isTrue known =>
      obtain ⟨d, isFound, isStart⟩ := List.any_eq_true.mp known
      exact ⟨d, isFound, beq_iff_eq.mp isStart⟩
  case isFalse =>
      exact ⟨_, List.mem_append_right found List.mem_cons_self, rfl⟩

/-- A scan keeps what was found, finds no header twice, and finds those of all markers it passes. -/
theorem flaggedFrom_spec (lines : List String) (marker : String) (rest : List String) (place : Nat)
    (found : List Definition) (distinct : (found.map Definition.start).Nodup) :
    found ⊆ flaggedFrom lines marker place rest found ∧
      ((flaggedFrom lines marker place rest found).map Definition.start).Nodup ∧
      ∀ k line start header, rest[k]? = some line → Text.contains line marker = true →
        headerOfMarker? lines (place + k) = some (start, header) →
          ∃ d ∈ flaggedFrom lines marker place rest found, d.start = start := by
  induction rest generalizing place found with
  | nil =>
      refine ⟨List.Subset.refl found, distinct, ?_⟩
      intro k line start header isLine
      cases isLine
  | cons first rest ih =>
      obtain ⟨kept, once, all⟩ := ih (place + 1) _ (nodup_addFlagged distinct place first)
      refine ⟨List.Subset.trans (subset_addFlagged found place first) kept, once, ?_⟩
      intro k line start header isLine holds closest
      cases k with
      | zero =>
          cases isLine
          obtain ⟨d, isFound, isStart⟩ := exists_mem_addFlagged holds closest
          exact ⟨d, kept isFound, isStart⟩
      | succ k =>
          apply all k line start header isLine holds
          rw [Nat.add_assoc, Nat.add_comm 1 k]
          exact closest

end Definition

/-- The range of a flagged definition is a range of lines that starts with its header and holds a marker below it. No
    header is found twice, and those that are found are the closest ones above a marker. -/
theorem flaggedDefinitions_headers (source marker : String) :
    (∀ d ∈ flaggedDefinitions source marker,
      d.start < d.stop ∧ d.stop ≤ (Text.lines source).length ∧
        (∃ line, (Text.lines source)[d.start]? = some line ∧ Header.OnLine ⟨d.indent, d.kind, d.name⟩ line) ∧
        ∃ place line, d.start < place ∧ place < d.stop ∧ (Text.lines source)[place]? = some line ∧
          Text.contains line marker = true) ∧
    ((flaggedDefinitions source marker).map Definition.start).Nodup ∧
    ∀ start, (∃ d ∈ flaggedDefinitions source marker, d.start = start) ↔
      ∃ place line, (Text.lines source)[place]? = some line ∧ Text.contains line marker = true ∧
        ClosestHeader (Text.lines source) place start := by
  obtain ⟨_, distinct, all⟩ :=
    Definition.flaggedFrom_spec (Text.lines source) marker (Text.lines source) 0 [] List.nodup_nil
  refine ⟨?_, distinct, ?_⟩
  · intro d member
    obtain ⟨place, flagged⟩ := exists_flaggedAt member
    obtain ⟨line, isLine, holds⟩ := flagged.holds
    have above := flagged.closestHeader.above
    have covers := flagged.lt_stop
    exact ⟨Nat.lt_trans above covers, flagged.stop_le_length, flagged.onLine, place, line, above, covers, isLine, holds⟩
  · intro start
    constructor
    · rintro ⟨d, member, rfl⟩
      obtain ⟨place, flagged⟩ := exists_flaggedAt member
      obtain ⟨line, isLine, holds⟩ := flagged.holds
      exact ⟨place, line, isLine, holds, flagged.closestHeader⟩
    · rintro ⟨place, line, isLine, holds, closest⟩
      have inRange := (List.getElem?_eq_some_iff.mp isLine).1
      obtain ⟨header, isHeader⟩ := (Definition.headerOfMarker?_iff inRange).mpr closest
      apply all place line start header isLine holds
      rw [Nat.zero_add]
      exact isHeader

end SourceRecovery
