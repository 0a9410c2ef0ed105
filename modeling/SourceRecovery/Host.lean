/-
Module: SourceRecovery.Host
Layer: Host
Purpose: The programs around the library. A host runs a command and may change its own state by doing so;
  nothing else is assumed about it, so that statements about runs hold whatever the programs do.
Imports: SourceRecovery.Failure
Trusted boundary: times. The time that a program gets is any natural number here. A time whose end a clock of 64 bits
  cannot hold breaks a run down before it has an outcome; such runs are not modelled, and no statement about an outcome
  is about them.
Main exports: Command, Exit, Completion, SpawnFault, Host
Open obligations: none
-/
import SourceRecovery.Failure

namespace SourceRecovery

/-- A program with its arguments and the time it gets, in milliseconds. -/
structure Command where
  program : String
  args : List String
  milliseconds : Nat
deriving DecidableEq, Repr

/-- How a program ended. -/
inductive Exit where
  | exited (code : Int)
  | signaled
  /-- The program, or what it left running, kept its output open for longer than it had time. -/
  | timedOut
deriving DecidableEq, Repr

/-- The words for the end of a program. -/
def Exit.describe : Exit → String
  | .exited code => "Exited(" ++ toString code ++ ")"
  | .signaled => "Signaled"
  | .timedOut => "TimedOut"

/-- What a program has written, and how it ended. -/
structure Completion where
  stdout : String
  stderr : String
  exit : Exit
deriving DecidableEq, Repr

/-- The program ended and reported success. -/
def Completion.success (completion : Completion) : Bool :=
  completion.exit = .exited 0

/-- Why a program could not be started. -/
inductive SpawnFault where
  | notFound
  | permissionDenied
deriving DecidableEq, Repr

/-- The words for a program that could not be started. -/
def SpawnFault.message : SpawnFault → String
  | .notFound => "No such file or directory (os error 2)"
  | .permissionDenied => "Permission denied (os error 13)"

/-- A host with a state of its own. -/
structure Host (σ : Type) where
  run : Command → StateM σ (Except SpawnFault Completion)

end SourceRecovery
