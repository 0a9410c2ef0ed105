/-
Module: SourceRecovery.Proofs.GapCount
Layer: Proofs
Purpose: What the number of gaps of a text says. It does not depend on what a disassembler has listed, and a
  text without gaps is finished: it is acceptable source, holds no marker, and every pass-only definition
  for which bytecode has contents is the placeholder of a stub.
Imports: SourceRecovery.Outcome, SourceRecovery.Proofs.TextSearch
Trusted boundary: none
Main exports: Index.unlisted, countGaps_unlisted, FinishedText, finishedText_of_countGaps_eq_zero
Open obligations: none
-/
import SourceRecovery.Outcome
import SourceRecovery.Proofs.TextSearch

namespace SourceRecovery

/-- The index without the lines that a disassembler has given for its units. -/
def Index.unlisted (index : Index) : Index :=
  { index with listings := none }

variable [Source.Grammar]

/-- The lines of a disassembler are never looked at when gaps are counted. -/
theorem countGaps_unlisted (source : String) (index : Option Index) (settings : Settings) :
    countGaps source (index.map Index.unlisted) settings = countGaps source index settings := by
  cases index with
  | none =>
      rfl
  | some known =>
      rfl

/-- Indexes that differ in the lines of a disassembler only count the same gaps. -/
theorem countGaps_congr {index other : Option Index}
    (agree : index.map Index.unlisted = other.map Index.unlisted) (source : String)
    (settings : Settings) : countGaps source index settings = countGaps source other settings := by
  rw [← countGaps_unlisted source index, agree, countGaps_unlisted]

/-- A text in which nothing is missing, as far as bytecode tells. -/
structure FinishedText (source : String) (index : Option Index) (settings : Settings) : Prop where
  nonblank : Text.isBlankText source = false
  valid : Source.isValid source = true
  unmarked : Text.contains source settings.gapMarker = false
  /-- Only placeholders are left among the pass-only definitions that hide contents. -/
  stubs : ∀ known, index = some known →
    ∀ candidate ∈ suspectedStubs source known settings, candidate.definition.placeholder = true

/-- In a text without markers every suspected stub that is no placeholder counts. -/
theorem placeholder_of_unmarkedGaps_eq_zero {source : String} {known : Index} {settings : Settings}
    (unmarked : Text.contains source settings.gapMarker = false)
    (none : unmarkedGaps source (some known) settings = 0) :
    ∀ candidate ∈ suspectedStubs source known settings,
      candidate.definition.placeholder = true := by
  intro candidate member
  simp only [unmarkedGaps, List.length_eq_zero_iff, List.filter_eq_nil_iff] at none
  have notCounted := none candidate member
  cases isPlaceholder : candidate.definition.placeholder with
  | true =>
      rfl
  | false =>
      refine absurd ?_ notCounted
      simp only [isUnmarkedGap, isPlaceholder, Bool.and_eq_true, Bool.not_eq_true', Bool.not_false,
        List.any_eq_false, true_and]
      intro line lineMem found
      have ofText : line ∈ Text.lines source :=
        List.mem_of_mem_take (List.mem_of_mem_drop lineMem)
      rw [Text.contains_of_mem_lines ofText found] at unmarked
      simp at unmarked

/-- A text without gaps is finished. -/
theorem finishedText_of_countGaps_eq_zero {source : String} {index : Option Index}
    {settings : Settings} (none : countGaps source index settings = 0) :
    FinishedText source index settings := by
  unfold countGaps at none
  split at none
  · simp [maxGaps] at none
  · rename_i nonblank
    have valid : Source.isValid source = true := by
      cases isValid : Source.isValid source with
      | true =>
          rfl
      | false =>
          simp only [isValid, Bool.false_eq_true, if_false, maxGaps] at none
          omega
    simp only [valid, if_true, maxGaps] at none
    have noMarker : Scan.markerCount source settings.gapMarker = 0 := by omega
    have noStub : unmarkedGaps source index settings = 0 := by omega
    have unmarked : Text.contains source settings.gapMarker = false :=
      Text.not_contains_of_occurrences_eq_zero noMarker
    refine ⟨by simpa using nonblank, valid, unmarked, ?_⟩
    intro known isKnown
    subst isKnown
    exact placeholder_of_unmarkedGaps_eq_zero unmarked noStub

end SourceRecovery
