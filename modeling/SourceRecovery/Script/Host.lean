/-
Module: SourceRecovery.Script.Host
Layer: Script
Purpose: A host on which scripts are run. Programs are polled at fixed times; one that has not ended when its
  time is over, or whose output stays open after that, has timed out and its output is lost.
Imports: SourceRecovery.Script.Evaluator, SourceRecovery.Host
Trusted boundary: none
Main exports: Script.host
Open obligations: none
-/
import SourceRecovery.Script.Evaluator
import SourceRecovery.Host

namespace SourceRecovery.Script

/-- The time between two looks at a program, in milliseconds. -/
def pollInterval : Nat :=
  50

/-- The first look at or after a time. -/
def nextPoll (time : Nat) : Nat :=
  (time + pollInterval - 1) / pollInterval * pollInterval

/-- The program is running when its time is over, or its output is open then. -/
def isLate (shell : Shell) (allowed : Nat) : Bool :=
  nextPoll allowed ≤ shell.clock
    || max allowed (nextPoll shell.clock + pollInterval) ≤ shell.held

/-- What a shell has done in the time it had. -/
def completion (shell : Shell) (allowed : Nat) : Completion :=
  if isLate shell allowed then { stdout := "", stderr := "", exit := .timedOut }
  else
    { stdout := Text.Utf8.decodeLossy shell.out
      stderr := Text.Utf8.decodeLossy shell.err
      exit := if shell.stop == some .killed then .signaled else .exited shell.status }

/-- Where programs lie. -/
def programDirectories : List String :=
  ["/bin/", "/usr/bin/"]

/-- Directories, which cannot be run. -/
def knownDirectories : List String :=
  ["/", "/bin", "/dev", "/etc", "/tmp", "/usr", "/usr/bin", ".", ".."]

/-- The name of a program without the directory it lies in. -/
def programName (program : String) : String :=
  match programDirectories.findSome? fun directory =>
      Text.Chars.dropPattern? directory.toList program.toList with
  | some name => String.ofList name
  | none => program

/-- The names of the programs that are there. -/
def programNames : List String :=
  ["sh", "true", "false", "echo", "printf", "cat", "head", "tail", "tr", "basename", "dirname", "test",
   "[", "sleep"]

/-- The shell after a program was run. -/
def runProgramNamed (files : StoredFiles) (name : String) (args : List String) : Shell :=
  let bytes := args.map textBytes
  match name, args, bytes with
  | "sh", "-c" :: script :: _, _ :: _ :: rest => runScript files script rest
  | "sh", _, _ => {}
  | _, _, _ =>
    match runTool? files name bytes [] with
    | some result => Shell.after {} result
    | none => {}

/-- A host on which scripts and a few programs can be run. -/
def host (files : StoredFiles) : Host Unit where
  run command :=
    let name := programName command.program
    if programNames.contains name then
      return .ok (completion (runProgramNamed files name command.args) command.milliseconds)
    else if knownDirectories.contains command.program then return .error .permissionDenied
    else return .error .notFound

end SourceRecovery.Script
