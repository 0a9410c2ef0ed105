/-
Module: SourceRecovery.Backend
Layer: Run
Purpose: A decompiler at work on an artifact. Its output is never believed: markers are counted and the text
  is checked, whatever the program reports.
Imports: SourceRecovery.Host, SourceRecovery.Outcome
Trusted boundary: none
Main exports: Backend.textIn, Backend.outcomeOfText, runBackend
Open obligations: none
-/
import SourceRecovery.Host
import SourceRecovery.Outcome

namespace SourceRecovery

variable {σ : Type} [Source.Grammar]

namespace Backend

/-- What a decompiler prints for a version it does not know. -/
def unsupportedBanner : String :=
  "Unsupported Python version"

/-- The number of characters of an error that are kept. -/
def snippetLength : Nat :=
  200

/-- The front of a text without white space around it. -/
def snippet (text : String) : String :=
  String.ofList ((Text.trim text).toList.take snippetLength)

/-- What a decompiler has said about its failure. -/
def complaint (done : Completion) : String :=
  if Text.isBlankText done.stderr then "Empty output" else snippet done.stderr

/-- A program has printed the banner. -/
def printsBanner (done : Completion) : Bool :=
  Text.contains done.stdout unsupportedBanner || Text.contains done.stderr unsupportedBanner

/-- The text of a program that has ended by itself. -/
def textOfExit (spec : BackendSpec) (done : Completion) : Except Failure String :=
  if spec.rejectsBanner && printsBanner done then .error (.unsupported unsupportedBanner)
  else if (!done.success && !spec.acceptNonzero) || Text.isBlankText done.stdout then
    .error (.backendCrash spec.id (complaint done))
  else .ok done.stdout

/-- The text in what a decompiler has done, or why there is none. -/
def textIn (spec : BackendSpec) : Except SpawnFault Completion → Except Failure String
  | .error .notFound => .error (.backendUnavailable spec.programName)
  | .error fault => .error (.inputOutput fault.message)
  | .ok done =>
    match done.exit with
    | .timedOut => .error (.backendTimeout spec.id)
    | .signaled => .error (.backendCrash spec.id "terminated by signal")
    | .exited _ => textOfExit spec done

/-- A line that holds more than a comment. -/
def isCodeLine (line : String) : Bool :=
  !Text.isBlankText line && !Text.startsWith (Text.trim line) "#"

/-- The outcome of a text: comments alone are a failure, and a text that is not acceptable source has a gap
    at least. -/
def outcomeOfText (backend text marker : String) : Outcome :=
  if (Text.lines text).any isCodeLine then
    let markers := Scan.markerCount text marker
    { source := text, backend, gaps := if Source.isValid text then markers else max markers 1 }
  else .failed backend "Only comments in output"

/-- The outcome of what a decompiler has done. -/
def outcomeOf (spec : BackendSpec) (marker : String) (result : Except SpawnFault Completion) :
    Outcome :=
  match textIn spec result with
  | .ok text => outcomeOfText spec.id text marker
  | .error failure => .failed spec.id failure.message

/-- The command for an artifact. -/
def command (spec : BackendSpec) (artifact : String) : Command :=
  { program := spec.programName
    args := spec.arguments ++ [artifact]
    milliseconds := spec.timeout * 1000 }

end Backend

/-- The outcome of a decompiler for an artifact. -/
def runBackend (host : Host σ) (spec : BackendSpec) (artifact marker : String) :
    StateM σ Outcome := do
  return Backend.outcomeOf spec marker (← host.run (Backend.command spec artifact))

end SourceRecovery
