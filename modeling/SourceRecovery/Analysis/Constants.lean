/-
Module: SourceRecovery.Analysis.Constants
Layer: Analysis
Purpose: Module constants that a text has lost: the names that the module body stores and the text does not
  bind. Private names, dotted names and a few that compilers store on their own are left out.
Imports: SourceRecovery.Analysis.Replay, SourceRecovery.Index.Basic, SourceRecovery.Source.Binding,
  SourceRecovery.Text.Sorted
Trusted boundary: none
Main exports: missingConstants
Open obligations: none
-/
import SourceRecovery.Analysis.Replay
import SourceRecovery.Index.Basic
import SourceRecovery.Source.Binding
import SourceRecovery.Text.Sorted

namespace SourceRecovery

/-- Stored names that are never missing. -/
def ignoredNames : List String :=
  ["annotations", "object", "type", "Exception", "BaseException"]

/-- A name whose absence counts. -/
def isReportable (name : String) : Bool :=
  !ignoredNames.contains name && !Text.startsWith name "_" && !Text.contains name "."

/-- The names that the module body stores and a text does not bind, in the order of their code points; none
    when the text is not acceptable source. -/
def missingConstants [Source.Grammar] (source : String) (index : Index) : List String :=
  match Source.boundNames? source with
  | none => []
  | some bound =>
    Text.sortedDistinct
      (index.rootUnit.storedNames.filter fun name => !bound.contains name && isReportable name)

end SourceRecovery
