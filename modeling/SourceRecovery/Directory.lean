/-
Module: SourceRecovery.Directory
Layer: Run
Purpose: All artifacts below a directory. Each artifact is looked after on its own: its text is checked,
  written to its place in the output tree and counted, whatever became of the others.
Imports: SourceRecovery.Run, SourceRecovery.Statistics
Trusted boundary: none
Main exports: discover, Directory.settle, Directory.advance, Directory.process, Directory.run, runDirectory,
  decompileDirectory
Open obligations: none
-/
import SourceRecovery.Run
import SourceRecovery.Statistics

namespace SourceRecovery

variable {σ : Type} [Source.Grammar]

/-- The paths that have the extension, in order. -/
def discover (paths : List String) (extension : String) : List String :=
  (paths.filter fun path => Path.extension? path == some extension).mergeSort Path.le

/-- Where artifacts lie and where their texts go. -/
structure Directory where
  sourceRoot : String
  outputRoot : String
  extension : String
deriving DecidableEq, Repr

namespace Directory

/-- The outcome that counts for an artifact: what the runner has made of it, checked, or a failure when the
    runner broke down. -/
def settle : Option Outcome → Outcome
  | some outcome => outcome.flagInvalid
  | none => .failed Outcome.noBackend "Pipeline panicked"

/-- The path for the text of an artifact. -/
def target (directory : Directory) (artifact : String) : String :=
  Path.counterpart artifact directory.sourceRoot directory.outputRoot directory.extension

/-- An outcome whose text could not be written. -/
def refused (outcome : Outcome) (message : String) : Outcome :=
  outcome.withError ("Write failed: " ++ message)

/-- How far a worker is with an artifact. -/
inductive Stage where
  /-- The runner has not seen the artifact yet. -/
  | waiting
  /-- What the runner has made of the artifact is checked. -/
  | settled (outcome : Outcome)
  /-- The directory for the text is there. -/
  | ready (outcome : Outcome)
  /-- The text is written, or could not be. -/
  | written (outcome : Outcome)
  /-- The outcome is in the statistics. -/
  | counted (outcome : Outcome)
deriving DecidableEq, Repr

/-- The stage after an operation on the output tree on behalf of an outcome. -/
def attempted (stage : Outcome → Stage) (outcome : Outcome) : Except String Unit → Stage
  | .ok _ => stage outcome
  | .error message => .written (refused outcome message)

/-- The next thing that a worker does for an artifact. Workers share the statistics, the output tree and whatever the
    runner works on. -/
def advance (directory : Directory) (storage : Storage σ) (runner : String → StateM σ (Option Outcome))
    (artifact : String) : Stage → Statistics → StateM σ (Stage × Statistics)
  | .waiting, statistics => do
    return (.settled (settle (← runner artifact)), statistics)
  | .settled outcome, statistics => do
    return (attempted .ready outcome (← storage.makeFolder (directory.target artifact)), statistics)
  | .ready outcome, statistics => do
    return (attempted .written outcome (← storage.write (directory.target artifact) outcome.source), statistics)
  | .written outcome, statistics =>
    return (.counted outcome, statistics.record (Status.ofOutcome outcome) outcome.backend)
  | .counted outcome, statistics => return (.counted outcome, statistics)

/-- The statistics after one more artifact, on which a worker has nothing left to do. -/
def process (directory : Directory) (storage : Storage σ) (runner : String → StateM σ (Option Outcome))
    (statistics : Statistics) (artifact : String) : StateM σ Statistics := do
  let advance := directory.advance storage runner artifact
  let (stage, statistics) ← advance .waiting statistics
  let (stage, statistics) ← advance stage statistics
  let (stage, statistics) ← advance stage statistics
  let (_, statistics) ← advance stage statistics
  return statistics

/-- A run of all artifacts with an arbitrary runner and an arbitrary storage; nothing is there when the source directory
    is missing. -/
def run (directory : Directory) (storage : Storage σ) (settings : Settings) (paths : Option (List String))
    (runner : String → StateM σ (Option Outcome)) : StateM σ (Except Failure Statistics) := do
  match paths with
  | none => return .error (.inputOutput ("source directory not found: " ++ directory.sourceRoot))
  | some paths =>
    match ← storage.recreate directory.outputRoot with
    | .error message => return .error (.inputOutput message)
    | .ok _ =>
      let artifacts := discover paths settings.artifactExtension
      return .ok (← artifacts.foldlM (directory.process storage runner) {})

/-- Counts and output files of a run. -/
structure Progress where
  statistics : Statistics := {}
  outputs : Files := {}
deriving DecidableEq, Repr, Inhabited

/-- The output tree in memory; paths are seen from its root. -/
def files (directory : Directory) : Storage Files :=
  Files.storage fun path => (Path.relativeTo? path directory.outputRoot).getD path

end Directory

/-- A run of all artifacts with an arbitrary runner, whose output tree is kept in memory. -/
def runDirectory (directory : Directory) (settings : Settings)
    (paths : Option (List String)) (runner : String → StateM σ (Option Outcome)) :
    StateM σ (Except Failure Directory.Progress) :=
  fun world =>
    let (result, world, outputs) :=
      (directory.run directory.files.beside settings paths fun artifact => Storage.onFirst (runner artifact)).run
        (world, {})
    (result.map fun statistics => ⟨statistics, outputs⟩, world)

/-- A run of all artifacts. -/
def decompileDirectory (host : Host σ) (directory : Directory) (files : Option (List ArtifactFile))
    (useAgents : Bool) (settings : Settings) : StateM σ (Except Failure Directory.Progress) :=
  runDirectory directory settings (files.map fun known => known.map ArtifactFile.path)
    fun artifact => do
      let known := (files.getD []).find? fun file => file.path == artifact
      return some (← decompile host (known.getD ⟨artifact, none⟩) useAgents settings)

end SourceRecovery
