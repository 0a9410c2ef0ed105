/-
Module: SourceRecovery.Failure
Layer: Core
Purpose: What can go wrong in the library, by cause, and the one place where causes are put into words.
Imports: SourceRecovery.Text.Diagnostic
Trusted boundary: none
Main exports: Failure, Failure.message
Open obligations: none
-/
import SourceRecovery.Text.Diagnostic

namespace SourceRecovery

/-- A failure by its cause. -/
inductive Failure where
  /-- The artifact or the output of a tool has a form this library does not read. -/
  | unsupported (detail : String)
  /-- The artifact or listing breaks the rules of its form. -/
  | corrupt (detail : String)
  /-- No code unit has the name. -/
  | notFound (name : String)
  /-- Several code units have the name. -/
  | ambiguous (name : String) (candidates : List String)
  /-- The program of a backend does not exist. -/
  | backendUnavailable (program : String)
  /-- A backend did not finish in time. -/
  | backendTimeout (backend : String)
  /-- A backend finished without usable output. -/
  | backendCrash (backend detail : String)
  /-- A text is not acceptable source. -/
  | invalidSource (detail : String)
  /-- An agent cannot be asked or gave no usable answer. -/
  | agentUnavailable (detail : String)
  /-- An agent did not answer in time. -/
  | agentTimeout (agent : String)
  /-- Settings that are readable but not usable. -/
  | settings (detail : String)
  /-- A file or program could not be used. -/
  | inputOutput (detail : String)
  /-- Settings that are not readable. -/
  | json
deriving DecidableEq, Repr

namespace Failure

/-- The wording of a failure. -/
def message : Failure → String
  | .unsupported detail => "Unsupported format: " ++ detail
  | .corrupt detail => "Corrupt artifact: " ++ detail
  | .notFound name => "Code object not found: " ++ name
  | .ambiguous name candidates =>
    "Ambiguous lookup for " ++ name ++ ": "
      ++ Text.Diagnostic.bracketed (candidates.map Text.Diagnostic.quoteText)
  | .backendUnavailable program => "Backend unavailable: " ++ program
  | .backendTimeout backend => "Backend " ++ backend ++ " timed out"
  | .backendCrash backend detail => "Backend " ++ backend ++ " crashed: " ++ detail
  | .invalidSource detail => "Syntax error: " ++ detail
  | .agentUnavailable detail => "Agent unavailable: " ++ detail
  | .agentTimeout agent => "Agent " ++ agent ++ " timed out"
  | .settings detail => "Config error: " ++ detail
  | .inputOutput detail => "IO error: " ++ detail
  | .json => "JSON error"

end Failure

end SourceRecovery
