/-
Module: SourceRecovery.Proofs.RunOutcome
Layer: Proofs
Purpose: What a run reports about an artifact. Every stage hands on an outcome whose gaps are those of the
  text it carries, so the outcome of the whole run has them too, whatever the programs around the library
  do and whatever the grammar is; and a run without any text ends in the failure document.
Imports: SourceRecovery.Run, SourceRecovery.Proofs.GapCount
Trusted boundary: none
Main exports: Counted, repair_counted, recover_counted, Run.refine_counted, Run.loadedIndex,
  decompile_outcome
Open obligations: none
-/
import SourceRecovery.Run
import SourceRecovery.Proofs.GapCount

namespace SourceRecovery

variable {σ : Type}

/-- Asking the disassembler changes the listed lines only. -/
theorem Index.consult_unlisted (host : Host σ) (index : Index) (s : σ) :
    ((index.consult host).run s).1.unlisted = index.unlisted := by
  unfold Index.consult
  split
  · rfl
  · rfl

variable [Source.Grammar]

/-- The outcome reports no error, and the gaps of the very text it carries. -/
structure Counted (index : Option Index) (settings : Settings) (outcome : Outcome) : Prop where
  error : outcome.error = none
  gaps : outcome.gaps = countGaps outcome.source index settings

namespace Counted

/-- Only the units of the index count. -/
theorem congr {index other : Option Index} {settings : Settings} {outcome : Outcome}
    (agree : index.map Index.unlisted = other.map Index.unlisted)
    (counted : Counted index settings outcome) : Counted other settings outcome :=
  ⟨counted.error, by rw [counted.gaps, countGaps_congr agree]⟩

/-- A stage that counts its new text keeps the count right. -/
theorem withStage (index : Option Index) (settings : Settings) (outcome : Outcome)
    (stage source : String) :
    Counted index settings (outcome.withStage stage source (countGaps source index settings)) :=
  ⟨rfl, rfl⟩

/-- A complete outcome carries a finished text. -/
theorem finished {index : Option Index} {settings : Settings} {outcome : Outcome}
    (counted : Counted index settings outcome) (complete : outcome.isComplete = true) :
    FinishedText outcome.source index settings := by
  apply finishedText_of_countGaps_eq_zero
  rw [← counted.gaps]
  simp only [Outcome.isComplete, Bool.and_eq_true, beq_iff_eq] at complete
  exact complete.1

end Counted

/-! ### Stages -/

/-- Repair hands on the outcome it was given or counts its new text. -/
theorem repair_counted {outcome : Outcome} {index : Index} {settings : Settings}
    (counted : Counted (some index) settings outcome) :
    Counted (some index) settings (repair outcome index settings) := by
  unfold repair
  split
  · dsimp only
    split
    · exact Counted.withStage _ _ _ _ _
    · exact counted
  · exact counted

/-- A report of the agents changes nothing or its text is counted. -/
theorem applyReport_counted {outcome : Outcome} {index : Index} {settings : Settings}
    (report : RecoveryReport) (counted : Counted (some index) settings outcome) :
    Counted (some index) settings (applyReport outcome report index settings) := by
  unfold applyReport
  split
  · exact counted
  · exact Counted.withStage _ _ _ _ _

/-- The agents keep the count right, whatever they answer. -/
theorem recover_counted (host : Host σ) {outcome : Outcome} {index : Index} {settings : Settings}
    (counted : Counted (some index) settings outcome) (s : σ) :
    Counted (some index) settings ((recover host outcome index settings).run s).1 := by
  unfold recover
  split
  · exact applyReport_counted _ counted
  · exact counted

namespace Run

/-- The agents and the disassembler leave the count and the units as they are. -/
theorem askAgents_counted (host : Host σ) (settings : Settings) (useAgents : Bool) (index : Index)
    {outcome : Outcome} (counted : Counted (some index) settings outcome) (s : σ) :
    Counted (some index) settings ((askAgents host settings useAgents index outcome).run s).1.1 ∧
      ((askAgents host settings useAgents index outcome).run s).1.2.unlisted = index.unlisted := by
  unfold askAgents
  split
  · exact ⟨counted, rfl⟩
  · have consulted := Index.consult_unlisted host index s
    have agree : (some index).map Index.unlisted =
        (some ((index.consult host).run s).1).map Index.unlisted := by
      rw [Option.map_some, Option.map_some, consulted]
    have answered := recover_counted host (counted.congr agree) ((index.consult host).run s).2
    exact ⟨answered.congr agree.symm, consulted⟩

/-- Completing an outcome keeps its count right and the units of the index as they are. -/
theorem refine_counted (host : Host σ) (settings : Settings) (useAgents : Bool)
    (index : Option Index) {outcome : Outcome} (counted : Counted index settings outcome) (s : σ) :
    Counted index settings ((refine host settings useAgents index outcome).run s).1.1 ∧
      ((refine host settings useAgents index outcome).run s).1.2.map Index.unlisted =
        index.map Index.unlisted := by
  unfold refine
  cases index with
  | none =>
      exact ⟨counted, rfl⟩
  | some known =>
      dsimp only
      split
      · exact ⟨counted, rfl⟩
      · obtain ⟨answered, units⟩ :=
          askAgents_counted host settings useAgents known (repair_counted counted) s
        exact ⟨answered, congrArg some units⟩

/-! ### Runs -/

/-- What the host answers when a backend is run on the artifact, read as an outcome. -/
def rawOutcome (host : Host σ) (file : ArtifactFile) (settings : Settings) (spec : BackendSpec) : StateM σ Outcome := do
  return Backend.outcomeOf spec settings.gapMarker (← host.run (Backend.command spec file.path))

/-- The outcomes of backends that are run one after the other, with nothing between them. -/
def rawOutcomes (host : Host σ) (file : ArtifactFile) (settings : Settings)
    (specs : List BackendSpec) : StateM σ (List Outcome) :=
  specs.mapM (rawOutcome host file settings)

/-- The index that a run of backends loads for the artifact: it is loaded right after the first backend that
    yields text, and there is none when no backend does. -/
def loadedIndex (host : Host σ) (file : ArtifactFile) (settings : Settings) :
    List BackendSpec → StateM σ (Option Index)
  | [] => return none
  | spec :: specs => do
    let raw ← rawOutcome host file settings spec
    if raw.hasSource then loadIndex host file settings else loadedIndex host file settings specs

/-- What becomes of the text of a backend: it is counted with the index of the artifact and completed. -/
def completed (host : Host σ) (file : ArtifactFile) (settings : Settings) (useAgents : Bool)
    (slot : Option (Option Index)) (raw : Outcome) : StateM σ (Outcome × Option Index) := do
  let index ← (actions host file settings useAgents).once slot
  refine host settings useAgents index (counted raw index settings)

omit [Source.Grammar] in
/-- One step of a run after another. -/
theorem run_bind {α β : Type} (first : StateM σ α) (next : α → StateM σ β) (s : σ) :
    (first >>= next).run s = (next (first.run s).1).run (first.run s).2 :=
  rfl

omit [Source.Grammar] in
theorem run_pure {α : Type} (a : α) (s : σ) : (pure a : StateM σ α).run s = (a, s) :=
  rfl

/-- One backend of a run on a host: a text is completed, and without a text nothing else is done. -/
theorem run_step_actions (host : Host σ) (file : ArtifactFile) (settings : Settings) (useAgents : Bool)
    (spec : BackendSpec) (slot : Option (Option Index)) (s : σ) :
    ((actions host file settings useAgents).step spec slot).run s =
      let raw := (rawOutcome host file settings spec).run s
      if raw.1.hasSource then
        let done := (completed host file settings useAgents slot raw.1).run raw.2
        ((some done.1.1, some done.1.2), done.2)
      else ((none, slot), raw.2) := by
  have attempted : (actions host file settings useAgents).attempt spec = rawOutcome host file settings spec := rfl
  rw [Actions.step, attempted, run_bind]
  dsimp only
  split
  · rfl
  · rfl

/-- One backend of a run: without text the next one is tried; a text is completed, and either ends the run or
    competes with the best one so far. -/
theorem tryBackends_cons (host : Host σ) (file : ArtifactFile) (settings : Settings)
    (useAgents : Bool) (spec : BackendSpec) (specs : List BackendSpec)
    (slot : Option (Option Index)) (best : Option Outcome) (s : σ) :
    (tryBackends host file settings useAgents (spec :: specs) slot best).run s =
      let raw := (rawOutcome host file settings spec).run s
      if raw.1.hasSource then
        let done := (completed host file settings useAgents slot raw.1).run raw.2
        if done.1.1.isComplete then (done.1.1, done.2)
        else
          (tryBackends host file settings useAgents specs (some done.1.2)
            (keepBetter best done.1.1)).run done.2
      else (tryBackends host file settings useAgents specs slot best).run raw.2 := by
  rw [tryBackends, Actions.choose, run_bind, run_step_actions]
  generalize (rawOutcome host file settings spec).run s = raw
  dsimp only
  by_cases text : raw.1.hasSource = true
  · rw [if_pos text, if_pos text]
    generalize (completed host file settings useAgents slot raw.1).run raw.2 = done
    dsimp only
    by_cases complete : done.1.1.isComplete = true
    · rw [if_pos complete, if_pos complete]
      rfl
    · rw [if_neg complete, if_neg complete]
  · rw [if_neg text, if_neg text]

/-- The outcomes of a first backend and of the others after it. -/
theorem rawOutcomes_cons (host : Host σ) (file : ArtifactFile) (settings : Settings)
    (spec : BackendSpec) (specs : List BackendSpec) (s : σ) :
    ((rawOutcomes host file settings (spec :: specs)).run s).1 =
      let raw := (rawOutcome host file settings spec).run s
      raw.1 :: ((rawOutcomes host file settings specs).run raw.2).1 := by
  rw [rawOutcomes, List.mapM_cons, run_bind]
  rfl

/-- The index after a first backend. -/
theorem loadedIndex_cons (host : Host σ) (file : ArtifactFile) (settings : Settings)
    (spec : BackendSpec) (specs : List BackendSpec) (s : σ) :
    (loadedIndex host file settings (spec :: specs)).run s =
      let raw := (rawOutcome host file settings spec).run s
      if raw.1.hasSource then (loadIndex host file settings).run raw.2
      else (loadedIndex host file settings specs).run raw.2 := by
  rw [loadedIndex, run_bind]
  dsimp only
  split
  · rfl
  · rfl

/-- A completed text is counted with the index it was completed with, whose units stay as they are. -/
theorem completed_counted (host : Host σ) (file : ArtifactFile) (settings : Settings)
    (useAgents : Bool) (slot : Option (Option Index)) (raw : Outcome) (s : σ) :
    let index := (((actions host file settings useAgents).once slot).run s).1
    let done := ((completed host file settings useAgents slot raw).run s).1
    Counted index settings done.1 ∧ done.2.map Index.unlisted = index.map Index.unlisted := by
  intro index done
  have counted : Counted index settings (counted raw index settings) := ⟨rfl, rfl⟩
  exact refine_counted host settings useAgents index counted _

/-- The better of two counted outcomes is counted. -/
theorem keepBetter_counted {index : Option Index} {settings : Settings} {top outcome : Outcome}
    (topCounted : Counted index settings top) (counted : Counted index settings outcome) :
    ∃ kept, keepBetter (some top) outcome = some kept ∧ Counted index settings kept := by
  unfold keepBetter
  dsimp only
  split
  · exact ⟨outcome, rfl, counted⟩
  · exact ⟨top, rfl, topCounted⟩

/-- Once a counted outcome is at hand, the run ends with a counted one: with one that is complete, or with the
    best one. -/
theorem tryBackends_counted (host : Host σ) (file : ArtifactFile) (settings : Settings)
    (useAgents : Bool) {index : Option Index} (specs : List BackendSpec) :
    ∀ (loaded : Option Index) (top : Outcome) (s : σ),
      loaded.map Index.unlisted = index.map Index.unlisted →
      Counted index settings top →
      Counted index settings
        ((tryBackends host file settings useAgents specs (some loaded) (some top)).run s).1 := by
  -- The slot holds an index that may have been consulted since it was loaded, so it agrees with `index` on
  -- the units only.
  induction specs with
  | nil =>
      intro loaded top s _ topCounted
      exact topCounted
  | cons spec specs ih =>
      intro loaded top s agree topCounted
      rw [tryBackends_cons]
      dsimp only
      split
      · obtain ⟨counted, units⟩ := completed_counted host file settings useAgents (some loaded)
          ((rawOutcome host file settings spec).run s).1
          ((rawOutcome host file settings spec).run s).2
        have countedHere := counted.congr agree
        split
        · exact countedHere
        · obtain ⟨kept, keeps, keptCounted⟩ := keepBetter_counted topCounted countedHere
          rw [keeps]
          exact ih _ kept _ (units.trans agree) keptCounted
      · exact ih loaded top _ agree topCounted

/-- A run without an outcome so far: either no backend yields text and the run ends in the failure document,
    or some backend does and the run ends with an outcome counted with the index loaded then. -/
theorem tryBackends_outcome (host : Host σ) (file : ArtifactFile) (settings : Settings)
    (useAgents : Bool) (specs : List BackendSpec) :
    ∀ s : σ,
      ((∀ raw ∈ ((rawOutcomes host file settings specs).run s).1, raw.hasSource = false) ∧
        ((tryBackends host file settings useAgents specs none none).run s).1 =
          .failureDocument (artifactName file.path)) ∨
      ((∃ raw ∈ ((rawOutcomes host file settings specs).run s).1, raw.hasSource = true) ∧
        Counted ((loadedIndex host file settings specs).run s).1 settings
          ((tryBackends host file settings useAgents specs none none).run s).1) := by
  induction specs with
  | nil =>
      intro s
      exact Or.inl ⟨fun raw member => absurd member List.not_mem_nil, rfl⟩
  | cons spec specs ih =>
      intro s
      rw [tryBackends_cons, rawOutcomes_cons, loadedIndex_cons]
      generalize (rawOutcome host file settings spec).run s = raw
      dsimp only
      cases text : raw.1.hasSource with
      | true =>
          refine Or.inr ⟨⟨raw.1, by simp, text⟩, ?_⟩
          obtain ⟨counted, units⟩ :=
            completed_counted host file settings useAgents none raw.1 raw.2
          simp only [if_true]
          split
          · exact counted
          · exact tryBackends_counted host file settings useAgents specs _ _ _ units counted
      | false =>
          simp only [Bool.false_eq_true, if_false]
          rcases ih raw.2 with ⟨textless, failure⟩ | ⟨⟨other, otherMem, otherText⟩, counted⟩
          · refine Or.inl ⟨?_, failure⟩
            intro any member
            rcases List.mem_cons.mp member with here | later
            · rw [here, text]
            · exact textless any later
          · exact Or.inr ⟨⟨other, by simp [otherMem], otherText⟩, counted⟩

end Run

/-- The outcome of a run, for every grammar, every behaviour of the programs and with or without agents. It is
    the failure document exactly when no backend yields text. Otherwise it has no error, and its gaps are
    those of the text it carries, counted with the index loaded for the artifact; so a complete outcome
    carries a finished text. -/
theorem decompile_outcome (host : Host σ) (file : ArtifactFile) (useAgents : Bool)
    (settings : Settings) (s : σ) :
    let outcome := ((decompile host file useAgents settings).run s).1
    let failure := Outcome.failureDocument (Run.artifactName file.path)
    let index := ((Run.loadedIndex host file settings settings.backends).run s).1
    (outcome = failure ↔
      ∀ raw ∈ ((Run.rawOutcomes host file settings settings.backends).run s).1,
        raw.hasSource = false) ∧
    (outcome = failure ∨
      (outcome.error = none ∧ outcome.gaps = countGaps outcome.source index settings)) ∧
    (outcome.isComplete = true → FinishedText outcome.source index settings) := by
  intro outcome failure index
  have ends := Run.tryBackends_outcome host file settings useAgents settings.backends s
  change (_ ∧ outcome = failure) ∨ (_ ∧ Counted index settings outcome) at ends
  have failureError : failure.error ≠ none := Option.some_ne_none _
  generalize outcome = outcome, index = index at ends ⊢
  rcases ends with ⟨textless, isFailure⟩ | ⟨⟨raw, rawMem, rawText⟩, counted⟩
  · subst isFailure
    refine ⟨⟨fun _ => textless, fun _ => rfl⟩, Or.inl rfl, ?_⟩
    intro complete
    simp only [Outcome.isComplete, Bool.and_eq_true, Option.isNone_iff_eq_none] at complete
    exact absurd complete.2 failureError
  · refine ⟨⟨?_, ?_⟩, Or.inr ⟨counted.error, counted.gaps⟩, counted.finished⟩
    · intro isFailure
      exact absurd (isFailure ▸ counted.error) failureError
    · intro textless
      rw [textless raw rawMem] at rawText
      simp at rawText

end SourceRecovery
