/-
Module: SourceRecovery.Proofs.BackendChoice
Layer: Proofs
Purpose: Which outcome a run ends with. A backend that yields text has a refined outcome. A run ends with the first
  complete one, right after its backend, or once all backends were run with the earliest of those with the fewest
  gaps, or in the failure document. A run that writes down what it does shows which backends it has run, and that the
  index is loaded once when there is a text and never when there is none.
Imports: Mathlib.Data.List.Induction, SourceRecovery.Proofs.RunOutcome
Trusted boundary: none
Main exports: Run.refined, Run.refinedOutcomes, Run.Actions.noted, Run.Ends, Run.Actions.exists_course,
  Run.found_actions, decompile_ends
Open obligations: none
-/
import Mathlib.Data.List.Induction
import SourceRecovery.Proofs.RunOutcome

namespace SourceRecovery

namespace Run

variable {σ α β : Type}

/-- The refined outcomes of backends, none of which is left out. -/
def Actions.outcomes {m : Type → Type} [Monad m] (actions : Actions m) :
    List BackendSpec → Option (Option Index) → m (List Outcome)
  | [], _ => return []
  | spec :: specs, slot => do
    let done ← actions.step spec slot
    return done.1.toList ++ (← actions.outcomes specs done.2)

/-! ### Runs that write down what they do -/

/-- What a run writes down. -/
inductive Event where
  | backend (spec : BackendSpec)
  | load
deriving DecidableEq

/-- The backend that was run. -/
def Event.backend? : Event → Option BackendSpec
  | .backend spec => some spec
  | .load => none

/-- An action that writes down events. -/
def noting (events : List Event) (action : StateM σ α) : StateT (List Event) (StateM σ) α :=
  fun log => do return (← action, log ++ events)

/-- Actions that write down every backend that is run and every load of the index. -/
def Actions.noted (actions : Actions (StateM σ)) : Actions (StateT (List Event) (StateM σ)) where
  attempt spec := noting [.backend spec] (actions.attempt spec)
  load := noting [.load] actions.load
  refine index raw := noting [] (actions.refine index raw)

/-- From a state on, two computations do the same, and the second one writes down the events. -/
def Notes (s : σ) (plain : StateM σ α) (noted : StateT (List Event) (StateM σ) α) (events : List Event) : Prop :=
  ∀ log, (noted.run log).run s = (((plain.run s).1, log ++ events), (plain.run s).2)

namespace Notes

theorem noting (s : σ) (events : List Event) (action : StateM σ α) :
    Notes s action (Run.noting events action) events :=
  fun _ => rfl

theorem pure (s : σ) (a : α) : Notes s (Pure.pure a) (Pure.pure a) [] := by
  intro log
  rw [List.append_nil]
  rfl

theorem bind {s : σ} {first : StateM σ α} {notedFirst : StateT (List Event) (StateM σ) α} {next : α → StateM σ β}
    {notedNext : α → StateT (List Event) (StateM σ) β} {events more : List Event}
    (head : Notes s first notedFirst events)
    (tail : Notes (first.run s).2 (next (first.run s).1) (notedNext (first.run s).1) more) :
    Notes s (first >>= next) (notedFirst >>= notedNext) (events ++ more) := by
  intro log
  have later := tail (log ++ events)
  rw [← List.append_assoc, run_bind, StateT.run_bind, run_bind, head log]
  exact later

end Notes

/-! ### How a run ends -/

/-- Backends are run up to `spec`, which has the first complete outcome. Here `outcomes` has the refined outcomes of
    backends. -/
structure StopsAt (outcomes : List BackendSpec → List Outcome) (specs before : List BackendSpec) (spec : BackendSpec)
    (first : Outcome) : Prop where
  backends : before ++ [spec] <+: specs
  all : outcomes before ++ [first] <+: outcomes specs
  here : outcomes (before ++ [spec]) = outcomes before ++ [first]
  incomplete : ∀ outcome ∈ outcomes before, outcome.isComplete = false
  complete : first.isComplete = true

/-- The backends that a run tries, and the outcome it ends with. -/
inductive Ends (outcomes : List BackendSpec → List Outcome) (failure : Outcome) (specs : List BackendSpec) :
    List BackendSpec → Outcome → Prop where
  /-- The first complete outcome ends the run. -/
  | complete {before : List BackendSpec} {spec : BackendSpec} {first : Outcome}
      (stops : StopsAt outcomes specs before spec first) : Ends outcomes failure specs (before ++ [spec]) first
  /-- Without a complete outcome all backends are tried, and the earliest outcome with the fewest gaps is taken. -/
  | fewest {front back : List Outcome} {best : Outcome} (all : outcomes specs = front ++ best :: back)
      (incomplete : ∀ outcome ∈ outcomes specs, outcome.isComplete = false)
      (earlier : ∀ outcome ∈ front, best.gaps < outcome.gaps) (later : ∀ outcome ∈ back, best.gaps ≤ outcome.gaps) :
      Ends outcomes failure specs specs best
  /-- Without any outcome all backends are tried as well. -/
  | failure (none : outcomes specs = []) : Ends outcomes failure specs specs failure

/-- One more backend in front, whose outcome is not complete. -/
theorem StopsAt.cons {outcomes later : List BackendSpec → List Outcome} {specs before : List BackendSpec}
    {head spec : BackendSpec} {first : Outcome} {result : Option Outcome}
    (stops : StopsAt later specs before spec first)
    (more : ∀ specs, outcomes (head :: specs) = result.toList ++ later specs)
    (incomplete : ∀ outcome ∈ result, outcome.isComplete = false) :
    StopsAt outcomes (head :: specs) (head :: before) spec first where
  backends := by
    rw [List.cons_append, List.cons_prefix_cons]
    exact ⟨rfl, stops.backends⟩
  all := by
    rw [more, more, List.append_assoc, List.prefix_append_right_inj]
    exact stops.all
  here := by
    rw [List.cons_append, more, more, stops.here, List.append_assoc]
  incomplete outcome member := by
    rw [more, List.mem_append, Option.mem_toList] at member
    rcases member with here | behind
    · exact incomplete outcome here
    · exact stops.incomplete outcome behind
  complete := stops.complete

/-- A run that is under way, with the best outcome so far: it stops at the first complete outcome, or it goes through all
    backends and compares their outcomes with the best one. -/
inductive Course (outcomes : List BackendSpec → List Outcome) (failure : Outcome) (best : Option Outcome)
    (specs : List BackendSpec) : List BackendSpec → Outcome → Prop where
  | stopped {before : List BackendSpec} {spec : BackendSpec} {first : Outcome}
      (stops : StopsAt outcomes specs before spec first) : Course outcomes failure best specs (before ++ [spec]) first
  | exhausted (incomplete : ∀ outcome ∈ outcomes specs, outcome.isComplete = false) :
      Course outcomes failure best specs specs (((outcomes specs).foldl keepBetter best).getD failure)

theorem Course.cons {outcomes later : List BackendSpec → List Outcome} {failure outcome : Outcome}
    {best : Option Outcome} {specs tried : List BackendSpec} {head : BackendSpec} {result : Option Outcome}
    (course : Course later failure (result.toList.foldl keepBetter best) specs tried outcome)
    (more : ∀ specs, outcomes (head :: specs) = result.toList ++ later specs)
    (incomplete : ∀ outcome ∈ result, outcome.isComplete = false) :
    Course outcomes failure best (head :: specs) (head :: tried) outcome := by
  cases course with
  | stopped stops =>
      exact .stopped (stops.cons more incomplete)
  | exhausted others =>
      rw [← List.foldl_append, ← more]
      refine .exhausted fun outcome member => ?_
      rw [more, List.mem_append, Option.mem_toList] at member
      exact member.elim (incomplete outcome) (others outcome)

/-- The best of some outcomes is the earliest of those with the fewest gaps. -/
theorem foldl_keepBetter (outcomes : List Outcome) :
    outcomes = [] ∨ ∃ front best back, outcomes = front ++ best :: back ∧
      outcomes.foldl keepBetter none = some best ∧ (∀ outcome ∈ front, best.gaps < outcome.gaps) ∧
      ∀ outcome ∈ back, best.gaps ≤ outcome.gaps := by
  induction outcomes using List.reverseRecOn with
  | nil =>
      exact .inl rfl
  | append_singleton outcomes last ih =>
      right
      rw [List.foldl_append, List.foldl_cons, List.foldl_nil]
      rcases ih with none | ⟨front, best, back, all, isBest, earlier, later⟩
      · exact ⟨[], last, [], by rw [none], by rw [none]; rfl, by simp, by simp⟩
      · rw [isBest, keepBetter]
        by_cases fewer : last.gaps < best.gaps
        · refine ⟨outcomes, last, [], rfl, if_pos fewer, ?_, by simp⟩
          intro outcome member
          rw [all, List.mem_append, List.mem_cons] at member
          rcases member with before | same | behind
          · exact Nat.lt_trans fewer (earlier outcome before)
          · rw [same]
            exact fewer
          · exact Nat.lt_of_lt_of_le fewer (later outcome behind)
        · refine ⟨front, best, back ++ [last], by rw [all, List.append_assoc, List.cons_append], if_neg fewer, earlier, ?_⟩
          intro outcome member
          rcases List.mem_append.mp member with behind | isLast
          · exact later outcome behind
          · rw [List.mem_singleton.mp isLast]
            exact Nat.le_of_not_lt fewer

/-- A run from the beginning. -/
theorem Course.ends {outcomes : List BackendSpec → List Outcome} {failure outcome : Outcome}
    {specs tried : List BackendSpec} (course : Course outcomes failure none specs tried outcome) :
    Ends outcomes failure specs tried outcome := by
  cases course with
  | stopped stops =>
      exact .complete stops
  | exhausted incomplete =>
      rcases foldl_keepBetter (outcomes specs) with none | ⟨front, best, back, all, isBest, earlier, later⟩
      · rw [none]
        exact .failure none
      · rw [isBest]
        exact .fewest all incomplete earlier later

namespace Actions

/-- The refined outcomes of backends from a state on, with what is known of the index there. -/
def found (actions : Actions (StateM σ)) (slot : Option (Option Index)) (s : σ) (specs : List BackendSpec) :
    List Outcome :=
  ((actions.outcomes specs slot).run s).1

variable (actions : Actions (StateM σ)) (failure : Outcome) (spec : BackendSpec) (specs : List BackendSpec)
  (slot : Option (Option Index)) (best : Option Outcome) (s : σ)

/-- What one backend comes to: its result, and what is known of the index then. -/
theorem run_step :
    (actions.step spec slot).run s =
      let raw := (actions.attempt spec).run s
      if raw.1.hasSource then
        let index := (actions.once slot).run raw.2
        let done := (actions.refine index.1 raw.1).run index.2
        ((some done.1.1, some done.1.2), done.2)
      else ((none, slot), raw.2) := by
  rw [step, run_bind]
  dsimp only
  split
  · rfl
  · rfl

/-- The index is known once there was a text. -/
theorem isNone_step_slot :
    ((actions.step spec slot).run s).1.2.isNone = (slot.isNone && ((actions.step spec slot).run s).1.1.isNone) := by
  rw [run_step]
  dsimp only
  split
  · exact (Bool.and_false _).symm
  · exact (Bool.and_true _).symm

theorem found_cons :
    actions.found slot s (spec :: specs) = ((actions.step spec slot).run s).1.1.toList ++
      actions.found ((actions.step spec slot).run s).1.2 ((actions.step spec slot).run s).2 specs := by
  rw [found, outcomes, run_bind]
  rfl

/-- The events of one backend: it is run, and the index is loaded when there is a text and no index yet. -/
def stepEvents (result : Option Outcome) : List Event :=
  .backend spec :: if slot.isNone && result.isSome then [.load] else []

theorem notes_once : Notes s (actions.once slot) (actions.noted.once slot) (if slot.isNone then [.load] else []) := by
  cases slot with
  | none => exact Notes.noting s [.load] actions.load
  | some loaded => exact Notes.pure s loaded

theorem notes_step :
    Notes s (actions.step spec slot) (actions.noted.step spec slot)
      (stepEvents spec slot ((actions.step spec slot).run s).1.1) := by
  have ran := Notes.noting s [.backend spec] (actions.attempt spec)
  rw [stepEvents, run_step, ← List.singleton_append]
  refine ran.bind ?_
  dsimp only
  by_cases text : ((actions.attempt spec).run s).1.hasSource = true
  · simp only [if_pos text, Option.isSome_some, Bool.and_true]
    rw [← List.append_nil (if slot.isNone = true then [Event.load] else [])]
    refine (notes_once actions slot _).bind ?_
    exact (Notes.noting _ [] _).bind (Notes.pure _ _)
  · simp only [if_neg text, Option.isSome_none, Bool.and_false, Bool.false_eq_true, if_false]
    exact Notes.pure _ _

variable {actions spec slot s} in
/-- A run without a text, or with one that is not complete, is the run of the other backends. -/
theorem choose_of_incomplete (incomplete : ∀ outcome ∈ ((actions.step spec slot).run s).1.1, outcome.isComplete = false) :
    let done := (actions.step spec slot).run s
    let better := done.1.1.toList.foldl keepBetter best
    (actions.choose failure (spec :: specs) slot best).run s =
        (actions.choose failure specs done.1.2 better).run done.2 ∧
      ∀ events, Notes done.2 (actions.choose failure specs done.1.2 better)
          (actions.noted.choose failure specs done.1.2 better) events →
        Notes s (actions.choose failure (spec :: specs) slot best) (actions.noted.choose failure (spec :: specs) slot best)
          (stepEvents spec slot done.1.1 ++ events) := by
  have stepped := notes_step actions spec slot s
  cases result : ((actions.step spec slot).run s).1.1 with
  | none =>
      refine ⟨?_, fun events noted => ?_⟩
      · rw [choose, run_bind, result]
        rfl
      · refine stepped.bind ?_
        rw [result] at noted ⊢
        exact noted
  | some outcome =>
      have unfinished : ¬ outcome.isComplete = true := by
        rw [incomplete outcome result]
        exact Bool.false_ne_true
      refine ⟨?_, fun events noted => ?_⟩
      · rw [choose, run_bind, result]
        dsimp only
        rw [if_neg unfinished]
        rfl
      · refine stepped.bind ?_
        rw [result] at noted ⊢
        dsimp only
        rw [if_neg unfinished, if_neg unfinished]
        exact noted

variable {actions spec slot s} in
/-- A complete outcome ends the run. -/
theorem choose_of_complete {first : Outcome} (result : ((actions.step spec slot).run s).1.1 = some first)
    (complete : first.isComplete = true) :
    ((actions.choose failure (spec :: specs) slot best).run s).1 = first ∧
      Notes s (actions.choose failure (spec :: specs) slot best) (actions.noted.choose failure (spec :: specs) slot best)
        (stepEvents spec slot (some first)) := by
  have stepped := notes_step actions spec slot s
  constructor
  · rw [choose, run_bind, result]
    dsimp only
    rw [if_pos complete]
    rfl
  · rw [← result, ← List.append_nil (stepEvents _ _ _)]
    refine stepped.bind ?_
    rw [result]
    dsimp only
    rw [if_pos complete, if_pos complete]
    exact Notes.pure _ _

theorem filterMap_stepEvents (result : Option Outcome) :
    (stepEvents spec slot result).filterMap Event.backend? = [spec] := by
  unfold stepEvents
  split
  · rfl
  · rfl

theorem count_stepEvents (result : Option Outcome) :
    (stepEvents spec slot result).count .load = (slot.isNone && result.isSome).toNat := by
  unfold stepEvents
  cases slot.isNone && result.isSome <;> rfl

/-- The course of a run from any place on, and what it writes down: the backends it tries, and one load of the index when
    the index is not known and some backend has an outcome. -/
theorem exists_course :
    ∃ tried events,
      Course (actions.found slot s) failure best specs tried ((actions.choose failure specs slot best).run s).1 ∧
      Notes s (actions.choose failure specs slot best) (actions.noted.choose failure specs slot best) events ∧
      events.filterMap Event.backend? = tried ∧
      events.count .load = (slot.isNone && !(actions.found slot s specs).isEmpty).toNat := by
  induction specs generalizing slot best s with
  | nil =>
      refine ⟨[], [], .exhausted fun _ member => absurd member List.not_mem_nil, Notes.pure s _, rfl, ?_⟩
      exact (congrArg Bool.toNat (Bool.and_false slot.isNone)).symm
  | cons spec specs ih =>
      have more (specs : List BackendSpec) := found_cons actions spec specs slot s
      by_cases stopped : ∃ first, ((actions.step spec slot).run s).1.1 = some first ∧ first.isComplete = true
      · obtain ⟨first, result, complete⟩ := stopped
        obtain ⟨isFirst, noted⟩ := choose_of_complete failure specs best result complete
        rw [result] at more
        have stops : StopsAt (actions.found slot s) (spec :: specs) [] spec first := by
          refine ⟨⟨specs, rfl⟩, ?_, more [], fun _ member => absurd member List.not_mem_nil, complete⟩
          rw [more]
          exact List.prefix_append [first] _
        refine ⟨[spec], _, ?_, noted, filterMap_stepEvents _ _ _, ?_⟩
        · rw [isFirst]
          exact .stopped stops
        · rw [count_stepEvents, more]
          rfl
      · have incomplete : ∀ outcome ∈ ((actions.step spec slot).run s).1.1, outcome.isComplete = false := by
          intro outcome result
          exact Bool.eq_false_iff.mpr fun complete => stopped ⟨outcome, result, complete⟩
        obtain ⟨runs, goesOn⟩ := choose_of_incomplete failure specs best incomplete
        have known := isNone_step_slot actions spec slot s
        generalize (actions.step spec slot).run s = done at more incomplete runs goesOn known
        obtain ⟨tried, events, course, noted, ran, loads⟩ := ih done.1.2 (done.1.1.toList.foldl keepBetter best) done.2
        refine ⟨spec :: tried, _, ?_, goesOn events noted, ?_, ?_⟩
        · rw [runs]
          exact course.cons more incomplete
        · rw [List.filterMap_append, filterMap_stepEvents, ran, List.singleton_append]
        · rw [List.count_append, count_stepEvents, loads, more, known]
          cases done.1.1 with
          | none => simp
          | some outcome => simp

end Actions

/-! ### Runs on a host -/

section

variable [Source.Grammar] (host : Host σ) (file : ArtifactFile) (settings : Settings) (useAgents : Bool)

/-- The index as it is when agents are asked: with the lines of the disassembler, if there is any agent to be shown
    them. -/
def listed (known : Index) : StateM σ Index :=
  if settings.agents.isEmpty then return known else known.consult host

/-- The stages of a text. Its gaps are counted; it is repaired; the agents are asked about it when they are to be. The
    later stages need an index, and each of them is for an outcome that is not complete yet. -/
def refined : Option Index → Outcome → StateM σ (Outcome × Option Index)
  | none, raw => return (counted raw none settings, none)
  | some known, raw => do
    let first := counted raw (some known) settings
    if first.isComplete then return (first, some known)
    else
      let second := repair first known settings
      if second.isComplete || !useAgents then return (second, some known)
      else
        let known ← listed host settings known
        return (← recover host second known settings, some known)

/-- The refined outcomes of backends on a host. Every backend is run on the artifact, what the host answers is read as an
    outcome, and an outcome with a text goes through the stages, with the index that is loaded for the first text. -/
def refinedOutcomes : List BackendSpec → Option (Option Index) → StateM σ (List Outcome)
  | [], _ => return []
  | spec :: specs, slot => do
    let raw := Backend.outcomeOf spec settings.gapMarker (← host.run (Backend.command spec file.path))
    if raw.hasSource then
      let index ← match slot with
        | some loaded => pure loaded
        | none => loadIndex host file settings
      let done ← refined host settings useAgents index raw
      return done.1 :: (← refinedOutcomes specs (some done.2))
    else refinedOutcomes specs slot

theorem askAgents_eq (known : Index) {outcome : Outcome} (unfinished : (outcome.isComplete || !useAgents) = false) :
    askAgents host settings useAgents known outcome = do
      let known ← listed host settings known
      return (← recover host outcome known settings, known) := by
  rw [askAgents, listed, unfinished, Bool.false_or]
  cases agents : settings.agents.isEmpty with
  | true =>
      -- without agents nothing is asked and the outcome stays
      simp only [recover, agents, Bool.not_true, Bool.and_false, Bool.false_eq_true, if_false, if_true]
      rfl
  | false =>
      simp only [Bool.false_eq_true, if_false]

theorem refine_counted_eq_refined (index : Option Index) (raw : Outcome) :
    refine host settings useAgents index (counted raw index settings) = refined host settings useAgents index raw := by
  cases index with
  | none => rfl
  | some known =>
      rw [refine, refined]
      dsimp only
      split
      · rfl
      · cases settled : (repair (counted raw (some known) settings) known settings).isComplete || !useAgents with
        | true =>
            rw [askAgents, settled, Bool.true_or]
            rfl
        | false =>
            rw [askAgents_eq host settings useAgents known settled]
            rfl

/-- One backend in front of the others: its text goes through the stages. -/
theorem run_refinedOutcomes_cons (spec : BackendSpec) (specs : List BackendSpec) (slot : Option (Option Index)) (s : σ) :
    ((refinedOutcomes host file settings useAgents (spec :: specs) slot).run s).1 =
      let raw := (rawOutcome host file settings spec).run s
      if raw.1.hasSource then
        let done := (completed host file settings useAgents slot raw.1).run raw.2
        done.1.1 :: ((refinedOutcomes host file settings useAgents specs (some done.1.2)).run done.2).1
      else ((refinedOutcomes host file settings useAgents specs slot).run raw.2).1 := by
  have completes (raw : Outcome) : completed host file settings useAgents slot raw =
      (actions host file settings useAgents).once slot >>= fun index => refined host settings useAgents index raw := by
    simp only [completed, refine_counted_eq_refined]
  have answered : (rawOutcome host file settings spec).run s =
      (Backend.outcomeOf spec settings.gapMarker ((host.run (Backend.command spec file.path)).run s).1,
        ((host.run (Backend.command spec file.path)).run s).2) := rfl
  rw [refinedOutcomes, run_bind, answered]
  dsimp only
  generalize Backend.outcomeOf spec settings.gapMarker ((host.run (Backend.command spec file.path)).run s).1 = raw
  split
  · rw [completes]
    cases slot with
    | none => rfl
    | some loaded => rfl
  · rfl

/-- The run sees the refined outcomes of its backends. -/
theorem found_actions (slot : Option (Option Index)) (s : σ) (specs : List BackendSpec) :
    (actions host file settings useAgents).found slot s specs =
      ((refinedOutcomes host file settings useAgents specs slot).run s).1 := by
  induction specs generalizing slot s with
  | nil => rfl
  | cons spec specs ih =>
      rw [Actions.found_cons, run_step_actions, run_refinedOutcomes_cons]
      generalize (rawOutcome host file settings spec).run s = raw
      dsimp only
      by_cases text : raw.1.hasSource = true
      · rw [if_pos text, if_pos text]
        exact congrArg (List.cons _) (ih _ _)
      · rw [if_neg text, if_neg text]
        exact ih slot raw.2

end

end Run

/-- How a run ends, for every grammar, all backends and every behaviour of the programs. Let the outcomes be those of the
    backends with a text, each refined as far as it goes. The run ends with the first complete outcome, and then no
    backend behind that one is run; without a complete outcome it ends with the earliest of those with the fewest gaps;
    without any outcome it ends in the failure document. The same run with actions that write down what they do has the
    same end: it writes down the backends that were to be tried, and one load of the index if there is an outcome, none
    otherwise. -/
theorem decompile_ends [Source.Grammar] {σ : Type} (host : Host σ) (file : ArtifactFile) (useAgents : Bool)
    (settings : Settings) (s : σ) :
    let outcomes specs := ((Run.refinedOutcomes host file settings useAgents specs none).run s).1
    let failure := Outcome.failureDocument (Run.artifactName file.path)
    let run := (decompile host file useAgents settings).run s
    let noted := (Run.actions host file settings useAgents).noted.choose failure settings.backends none none
    ∃ tried events,
      Run.Ends outcomes failure settings.backends tried run.1 ∧
      (noted.run []).run s = ((run.1, events), run.2) ∧
      events.filterMap Run.Event.backend? = tried ∧
      events.count .load = if (outcomes settings.backends).isEmpty then 0 else 1 := by
  intro outcomes failure run noted
  have found : (Run.actions host file settings useAgents).found none s = outcomes := by
    funext specs
    exact Run.found_actions host file settings useAgents none s specs
  obtain ⟨tried, events, course, notes, ran, loads⟩ :=
    (Run.actions host file settings useAgents).exists_course failure settings.backends none none s
  rw [found] at course loads
  refine ⟨tried, events, course.ends, notes [], ran, ?_⟩
  rw [loads]
  cases (outcomes settings.backends).isEmpty <;> rfl

end SourceRecovery
