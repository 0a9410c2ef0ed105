/-
Module: SourceRecovery.Outcome
Layer: Core
Purpose: What a stage makes of an artifact: a text, who made it, how many gaps it has, and what went wrong.
  A stage gives back the outcome it was given or a new one that names the stage.
Imports: SourceRecovery.Analysis.Completeness
Trusted boundary: none
Main exports: Outcome, Outcome.withStage, Status, flagInvalid
Open obligations: none
-/
import SourceRecovery.Analysis.Completeness

namespace SourceRecovery

/-- What a stage makes of an artifact. -/
structure Outcome where
  source : String
  backend : String
  gaps : Nat
  error : Option String := none
deriving DecidableEq, Repr, Inhabited

namespace Outcome

/-- An outcome without text. -/
def failed (backend error : String) : Outcome :=
  { source := "", backend, gaps := maxGaps, error := some error }

/-- The backend of an outcome that no backend has made. -/
def noBackend : String :=
  "none"

/-- The text for an artifact of which no backend could make one. -/
def failureDocument (artifact : String) : Outcome :=
  { source := "# Decompilation failed for " ++ artifact ++ "\n"
    backend := noBackend
    gaps := maxGaps
    error := some "All tools failed" }

/-- A text made by a later stage. -/
def withStage (outcome : Outcome) (stage source : String) (gaps : Nat) : Outcome :=
  { source, backend := outcome.backend ++ "+" ++ stage, gaps }

/-- The same outcome with something that went wrong. -/
def withError (outcome : Outcome) (error : String) : Outcome :=
  { outcome with error := some error }

/-- There is a text. -/
def hasSource (outcome : Outcome) : Bool :=
  !Text.isBlankText outcome.source

/-- Nothing is missing and nothing went wrong. -/
def isComplete (outcome : Outcome) : Bool :=
  outcome.gaps == 0 && outcome.error.isNone

/-- The line before a text that is not acceptable source. -/
def invalidBanner : String :=
  "# SYNTAX ERROR - Decompilation produced invalid Python"

/-- A text that is not acceptable source is kept behind a banner, and the outcome is a failure. -/
def flagInvalid [Source.Grammar] (outcome : Outcome) : Outcome :=
  if outcome.hasSource then
    match Source.check outcome.source with
    | .ok _ => outcome
    | .error problem =>
      { outcome with
        source := invalidBanner ++ "\n" ++ outcome.source
        gaps := max outcome.gaps 1
        error := some (Failure.invalidSource problem.message).message }
  else outcome

end Outcome

/-- How an artifact fared. -/
inductive Status where
  | complete
  | incomplete
  | failed
deriving DecidableEq, Repr

namespace Status

/-- The status of an outcome. -/
def ofOutcome (outcome : Outcome) : Status :=
  if outcome.error.isSome then .failed
  else if outcome.gaps = 0 then .complete
  else .incomplete

/-- The word for a status. -/
def label : Status → String
  | .complete => "complete"
  | .incomplete => "incomplete"
  | .failed => "failed"

/-- The sign for a status. -/
def symbol : Status → String
  | .complete => "+"
  | .incomplete => "~"
  | .failed => "x"

end Status

end SourceRecovery
