/-
Module: SourceRecovery.Proofs.WorkerSchedules
Layer: Proofs
Purpose: A directory run in every order of its workers. A schedule says whose turn it is; at its turns, a worker lets
  the runner see its artifact, makes a directory, writes a text and records the outcome. The world in which this
  happens is any, and so is the storage: each operation may fail at any time. Whatever the schedule, an artifact is
  recorded with the outcome that the runner made of it at the first turn, checked, or with the error with which an
  operation failed at the second or third turn.
Imports: Mathlib.Data.List.Induction, SourceRecovery.Directory, SourceRecovery.Proofs.RunCounts
Trusted boundary: none
Main exports: Directory.Crew, Directory.Crew.after, Directory.Crew.AtTurn, Directory.Crew.Recorded, Directory.Moves,
  Directory.Crew.sound_after
Open obligations: none
-/
import Mathlib.Data.List.Induction
import SourceRecovery.Directory
import SourceRecovery.Proofs.RunCounts

namespace SourceRecovery.Directory

variable {σ : Type}

/-! ### Workers -/

/-- An artifact in the hands of a worker. -/
structure Job where
  artifact : String
  stage : Stage
deriving DecidableEq, Repr

/-- The artifact and its outcome, when it is counted. -/
def Job.counted? (job : Job) : Option (String × Outcome) :=
  match job.stage with
  | .counted outcome => some (job.artifact, outcome)
  | _ => none

/-- Workers with their artifacts, and what they share. -/
structure Pool (σ : Type) where
  jobs : List Job
  statistics : Statistics := {}
  world : σ

namespace Pool

/-- Every artifact is counted. -/
def Done (pool : Pool σ) : Prop :=
  ∀ job ∈ pool.jobs, job.counted?.isSome = true

instance (pool : Pool σ) : Decidable pool.Done :=
  inferInstanceAs (Decidable (∀ job ∈ pool.jobs, job.counted?.isSome = true))

/-- The artifacts that are counted, with their outcomes. -/
def outcomes (pool : Pool σ) : List (String × Outcome) :=
  pool.jobs.filterMap Job.counted?

theorem outcomes_append (front back : List Job) (job : Job) (statistics : Statistics) (world : σ) :
    outcomes { jobs := front ++ job :: back, statistics, world } =
      front.filterMap Job.counted? ++ (job.counted?.toList ++ back.filterMap Job.counted?) := by
  unfold outcomes
  cases found : job.counted? <;> simp [found]

end Pool

/-- What the statistics see of an outcome. -/
def recordOf (result : String × Outcome) : Status × String :=
  (Status.ofOutcome result.2, result.2.backend)

/-- Workers, one for each artifact, with what they work with and the world that they begin in. -/
structure Crew (σ : Type) where
  directory : Directory
  storage : Storage σ
  runner : String → StateM σ (Option Outcome)
  artifacts : List String
  world : σ

namespace Crew

variable (crew : Crew σ)

/-- What the runner would make of an artifact in a world. -/
def made (artifact : String) (world : σ) : Option Outcome :=
  ((crew.runner artifact).run world).1

/-- What would come of making the directory for the text of an artifact in a world. -/
def folderMade (artifact : String) (world : σ) : Except String Unit :=
  ((crew.storage.makeFolder (crew.directory.target artifact)).run world).1

/-- What would come of writing the text of an artifact in a world. -/
def textWritten (artifact text : String) (world : σ) : Except String Unit :=
  ((crew.storage.write (crew.directory.target artifact) text).run world).1

/-- The workers before they do anything. -/
def start : Pool σ :=
  { jobs := crew.artifacts.map fun artifact => ⟨artifact, .waiting⟩, world := crew.world }

variable [Source.Grammar]

/-- The workers after one of them has done the next thing for its artifact. -/
def step (pool : Pool σ) (turn : Nat) : Pool σ :=
  match pool.jobs[turn]? with
  | none => pool
  | some job =>
    let next := (crew.directory.advance crew.storage crew.runner job.artifact job.stage pool.statistics).run pool.world
    { jobs := pool.jobs.set turn { job with stage := next.1.1 }, statistics := next.1.2, world := next.2 }

/-- The workers after turns in the order of a schedule. -/
def run (pool : Pool σ) (schedule : List Nat) : Pool σ :=
  schedule.foldl crew.step pool

/-- The workers after a schedule, from the start. -/
def after (schedule : List Nat) : Pool σ :=
  crew.run crew.start schedule

theorem after_append_singleton (schedule : List Nat) (turn : Nat) :
    crew.after (schedule ++ [turn]) = crew.step (crew.after schedule) turn := by
  unfold after run
  rw [List.foldl_append, List.foldl_cons, List.foldl_nil]

/-! ### What happened at a turn -/

/-- A worker has had a turn, the first one being its turn zero, and found such a world. -/
def AtTurn (schedule : List Nat) (worker turn : Nat) (found : σ → Prop) : Prop :=
  ∃ before, before ++ [worker] <+: schedule ∧ before.count worker = turn ∧ found (crew.after before).world

/-- The outcome with which an artifact is recorded: what the runner has made of it, checked, once the directory was
    made and the text written, or that with an error. -/
inductive Recorded (schedule : List Nat) (worker : Nat) (artifact : String) : Outcome → Prop where
  | kept {outcome : Outcome}
      (ran : crew.AtTurn schedule worker 0 fun world => settle (crew.made artifact world) = outcome)
      (prepared : crew.AtTurn schedule worker 1 fun world => crew.folderMade artifact world = .ok ())
      (filled : crew.AtTurn schedule worker 2 fun world => crew.textWritten artifact outcome.source world = .ok ()) :
      Recorded schedule worker artifact outcome
  | blocked {outcome : Outcome} {message : String}
      (ran : crew.AtTurn schedule worker 0 fun world => settle (crew.made artifact world) = outcome)
      (blocked : crew.AtTurn schedule worker 1 fun world => crew.folderMade artifact world = .error message) :
      Recorded schedule worker artifact (refused outcome message)
  | spoiled {outcome : Outcome} {message : String}
      (ran : crew.AtTurn schedule worker 0 fun world => settle (crew.made artifact world) = outcome)
      (prepared : crew.AtTurn schedule worker 1 fun world => crew.folderMade artifact world = .ok ())
      (spoiled : crew.AtTurn schedule worker 2 fun world =>
        crew.textWritten artifact outcome.source world = .error message) :
      Recorded schedule worker artifact (refused outcome message)

section Turns

variable {crew} {schedule : List Nat} {worker turn : Nat} {found : σ → Prop}

theorem atTurn_last (turns : schedule.count worker = turn) (here : found (crew.after schedule).world) :
    crew.AtTurn (schedule ++ [worker]) worker turn found :=
  ⟨schedule, List.prefix_rfl, turns, here⟩

theorem AtTurn.append (happened : crew.AtTurn schedule worker turn found) (more : List Nat) :
    crew.AtTurn (schedule ++ more) worker turn found := by
  obtain ⟨before, early, turns, here⟩ := happened
  exact ⟨before, early.trans (List.prefix_append schedule more), turns, here⟩

theorem Recorded.append {artifact : String} {outcome : Outcome}
    (recorded : crew.Recorded schedule worker artifact outcome) (more : List Nat) :
    crew.Recorded (schedule ++ more) worker artifact outcome := by
  cases recorded with
  | kept ran prepared filled => exact .kept (ran.append more) (prepared.append more) (filled.append more)
  | blocked ran blocked => exact .blocked (ran.append more) (blocked.append more)
  | spoiled ran prepared spoiled => exact .spoiled (ran.append more) (prepared.append more) (spoiled.append more)

end Turns

end Crew

variable [Source.Grammar] {crew : Crew σ}

/-! ### What a turn can do -/

/-- What a worker can do for an artifact at its turn: the stage, the statistics and the world before and after it. -/
inductive Moves (crew : Crew σ) (artifact : String) : Stage → Statistics → σ → Stage → Statistics → σ → Prop where
  | ran {statistics : Statistics} {world next : σ} :
      Moves crew artifact .waiting statistics world (.settled (settle (crew.made artifact world))) statistics next
  | prepared {statistics : Statistics} {world next : σ} {outcome : Outcome}
      (answer : crew.folderMade artifact world = .ok ()) :
      Moves crew artifact (.settled outcome) statistics world (.ready outcome) statistics next
  | blocked {statistics : Statistics} {world next : σ} {outcome : Outcome} {message : String}
      (answer : crew.folderMade artifact world = .error message) :
      Moves crew artifact (.settled outcome) statistics world (.written (refused outcome message)) statistics next
  | filled {statistics : Statistics} {world next : σ} {outcome : Outcome}
      (answer : crew.textWritten artifact outcome.source world = .ok ()) :
      Moves crew artifact (.ready outcome) statistics world (.written outcome) statistics next
  | spoiled {statistics : Statistics} {world next : σ} {outcome : Outcome} {message : String}
      (answer : crew.textWritten artifact outcome.source world = .error message) :
      Moves crew artifact (.ready outcome) statistics world (.written (refused outcome message)) statistics next
  | recorded {statistics : Statistics} {world : σ} {outcome : Outcome} :
      Moves crew artifact (.written outcome) statistics world (.counted outcome)
        (statistics.record (Status.ofOutcome outcome) outcome.backend) world
  | idle {statistics : Statistics} {world : σ} {outcome : Outcome} :
      Moves crew artifact (.counted outcome) statistics world (.counted outcome) statistics world

theorem moves_advance (crew : Crew σ) (artifact : String) (stage : Stage) (statistics : Statistics) (world : σ) :
    let next := (crew.directory.advance crew.storage crew.runner artifact stage statistics).run world
    Moves crew artifact stage statistics world next.1.1 next.1.2 next.2 := by
  cases stage with
  | waiting =>
      exact .ran
  | settled outcome =>
      have stage : ((crew.directory.advance crew.storage crew.runner artifact (.settled outcome) statistics).run
          world).1 = (attempted .ready outcome (crew.folderMade artifact world), statistics) := rfl
      dsimp only
      rw [stage]
      cases answer : crew.folderMade artifact world with
      | ok done => exact .prepared answer
      | error message => exact .blocked answer
  | ready outcome =>
      have stage : ((crew.directory.advance crew.storage crew.runner artifact (.ready outcome) statistics).run
          world).1 = (attempted .written outcome (crew.textWritten artifact outcome.source world), statistics) := rfl
      dsimp only
      rw [stage]
      cases answer : crew.textWritten artifact outcome.source world with
      | ok done => exact .filled answer
      | error message => exact .spoiled answer
  | written outcome =>
      exact .recorded
  | counted outcome =>
      exact .idle

/-! ### What the turns keep -/

/-- What is known about an artifact at a stage: how many turns its worker has had, and what happened at them. -/
def Stage.Fits (crew : Crew σ) (schedule : List Nat) (worker : Nat) (artifact : String) : Stage → Prop
  | .waiting => schedule.count worker = 0
  | .settled outcome => schedule.count worker = 1 ∧
    crew.AtTurn schedule worker 0 fun world => settle (crew.made artifact world) = outcome
  | .ready outcome => schedule.count worker = 2 ∧
    (crew.AtTurn schedule worker 0 fun world => settle (crew.made artifact world) = outcome) ∧
    crew.AtTurn schedule worker 1 fun world => crew.folderMade artifact world = .ok ()
  | .written outcome => schedule.count worker ≤ 3 ∧ crew.Recorded schedule worker artifact outcome
  | .counted outcome => crew.Recorded schedule worker artifact outcome

section Turns

variable {schedule : List Nat} {worker : Nat} {artifact : String} {stage later : Stage}

/-- The turn of another worker changes nothing about an artifact. -/
theorem Stage.Fits.other {turn : Nat} (fits : stage.Fits crew schedule worker artifact) (other : turn ≠ worker) :
    stage.Fits crew (schedule ++ [turn]) worker artifact := by
  have turns : (schedule ++ [turn]).count worker = schedule.count worker := by
    rw [List.count_append, List.count_singleton, if_neg (by simpa using other), Nat.add_zero]
  cases stage with
  | waiting => exact turns.trans fits
  | settled outcome => exact ⟨turns.trans fits.1, fits.2.append _⟩
  | ready outcome => exact ⟨turns.trans fits.1, fits.2.1.append _, fits.2.2.append _⟩
  | written outcome => exact ⟨turns.symm ▸ fits.1, fits.2.append _⟩
  | counted outcome => exact Crew.Recorded.append fits _

/-- One turn of the worker. -/
theorem Moves.fits {statistics after : Statistics} {next : σ}
    (moves : Moves crew artifact stage statistics (crew.after schedule).world later after next)
    (fits : stage.Fits crew schedule worker artifact) : later.Fits crew (schedule ++ [worker]) worker artifact := by
  have turns : (schedule ++ [worker]).count worker = schedule.count worker + 1 := by
    rw [List.count_append, List.count_singleton_self]
  cases moves with
  | ran =>
      exact ⟨by rw [turns, fits], Crew.atTurn_last fits rfl⟩
  | prepared answer =>
      exact ⟨by rw [turns, fits.1], fits.2.append _, Crew.atTurn_last fits.1 answer⟩
  | blocked answer =>
      exact ⟨by rw [turns, fits.1]; decide, .blocked (fits.2.append _) (Crew.atTurn_last fits.1 answer)⟩
  | filled answer =>
      obtain ⟨two, ran, prepared⟩ := fits
      exact ⟨by rw [turns, two], .kept (ran.append _) (prepared.append _) (Crew.atTurn_last two answer)⟩
  | spoiled answer =>
      obtain ⟨two, ran, prepared⟩ := fits
      exact ⟨by rw [turns, two], .spoiled (ran.append _) (prepared.append _) (Crew.atTurn_last two answer)⟩
  | recorded => exact fits.2.append _
  | idle => exact Crew.Recorded.append fits _

end Turns

/-- At its turn, a worker adds its outcome to what is counted, or nothing. -/
theorem Moves.counts {front back : List Job} {artifact : String} {stage later : Stage} {statistics after : Statistics}
    {world next : σ} (moves : Moves crew artifact stage statistics world later after next)
    (counts : statistics.Counts
      ((Pool.outcomes { jobs := front ++ ⟨artifact, stage⟩ :: back, statistics, world }).map recordOf)) :
    after.Counts
      ((Pool.outcomes { jobs := front ++ ⟨artifact, later⟩ :: back, statistics := after, world := next }).map
        recordOf) := by
  rw [Pool.outcomes_append] at *
  cases moves with
  | @recorded _ _ outcome =>
      have more := counts.record (Status.ofOutcome outcome) outcome.backend
      refine more.perm ?_
      simp only [Job.counted?, Option.toList_none, Option.toList_some, List.nil_append, List.singleton_append,
        List.map_append, List.map_cons]
      exact List.perm_middle.symm
  | ran => exact counts
  | prepared answer => exact counts
  | blocked answer => exact counts
  | filled answer => exact counts
  | spoiled answer => exact counts
  | idle => exact counts

namespace Crew

theorem step_append (front back : List Job) (artifact : String) (stage : Stage) (statistics : Statistics) (world : σ) :
    crew.step { jobs := front ++ ⟨artifact, stage⟩ :: back, statistics, world } front.length =
      let next := (crew.directory.advance crew.storage crew.runner artifact stage statistics).run world
      { jobs := front ++ ⟨artifact, next.1.1⟩ :: back, statistics := next.1.2, world := next.2 } := by
  simp [step]

/-- What holds after every schedule. -/
structure Sound (crew : Crew σ) (schedule : List Nat) (pool : Pool σ) : Prop where
  artifacts : pool.jobs.map Job.artifact = crew.artifacts
  fits : ∀ (worker : Nat) (job : Job), pool.jobs[worker]? = some job →
    job.stage.Fits crew schedule worker job.artifact
  counts : pool.statistics.Counts (pool.outcomes.map recordOf)

theorem sound_start (crew : Crew σ) : crew.Sound [] crew.start where
  artifacts := by
    simp [start, Function.comp_def]
  fits worker job found := by
    obtain ⟨artifact, -, rfl⟩ := List.mem_map.mp (List.mem_of_getElem? found)
    rfl
  counts := by
    have nobody : crew.start.outcomes = [] := by
      simp [Pool.outcomes, start, List.filterMap_map, Job.counted?, Function.comp_def]
    rw [nobody]
    exact .nil

/-- A turn of one worker, whose artifact stands between others. -/
theorem Sound.moves {schedule : List Nat} {front back : List Job} {artifact : String} {stage later : Stage}
    {statistics after : Statistics} {world next : σ} (reached : (crew.after schedule).world = world)
    (sound : crew.Sound schedule { jobs := front ++ ⟨artifact, stage⟩ :: back, statistics, world })
    (moves : Moves crew artifact stage statistics world later after next) :
    crew.Sound (schedule ++ [front.length])
      { jobs := front ++ ⟨artifact, later⟩ :: back, statistics := after, world := next } where
  artifacts := by
    have old := sound.artifacts
    rw [List.map_append, List.map_cons] at old ⊢
    exact old
  fits worker job found := by
    have replaced : front ++ ⟨artifact, later⟩ :: back =
        (front ++ ⟨artifact, stage⟩ :: back).set front.length ⟨artifact, later⟩ := by simp
    subst reached
    rw [replaced] at found
    by_cases same : front.length = worker
    · subst same
      rw [List.getElem?_set_self (by simp)] at found
      cases found
      exact moves.fits (sound.fits front.length ⟨artifact, stage⟩ (by simp))
    · rw [List.getElem?_set_ne same] at found
      exact (sound.fits worker job found).other same
  counts := moves.counts sound.counts

/-- Every schedule keeps what holds at the start. -/
theorem sound_after (crew : Crew σ) (schedule : List Nat) : crew.Sound schedule (crew.after schedule) := by
  induction schedule using List.reverseRecOn with
  | nil => exact crew.sound_start
  | append_singleton schedule turn sound =>
      rw [after_append_singleton]
      generalize reached : crew.after schedule = pool at sound
      obtain ⟨jobs, statistics, world⟩ := pool
      by_cases inside : turn < jobs.length
      · obtain ⟨front, job, back, rfl, rfl⟩ : ∃ front job back, jobs = front ++ job :: back ∧ front.length = turn :=
          ⟨jobs.take turn, jobs[turn], jobs.drop (turn + 1), by simp, by simp; omega⟩
        rw [step_append]
        exact sound.moves (by rw [reached]) (moves_advance crew job.artifact job.stage statistics world)
      · -- there is no such worker
        have nobody : jobs[turn]? = none := List.getElem?_eq_none (Nat.le_of_not_lt inside)
        have same : crew.step ⟨jobs, statistics, world⟩ turn = ⟨jobs, statistics, world⟩ := by
          rw [step, nobody]
        rw [same]
        refine ⟨sound.artifacts, fun worker job found => (sound.fits worker job found).other ?_, sound.counts⟩
        rintro rfl
        rw [nobody] at found
        cases found

end Crew

end SourceRecovery.Directory
