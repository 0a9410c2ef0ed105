/-
Module: SourceRecovery.Repair.Patch
Layer: Repair
Purpose: Changes of a text by lines: a block moved in, a range of lines replaced, constants added at the end.
Imports: SourceRecovery.Text.Basic
Trusted boundary: none
Main exports: indentBlock, splice, appendConstants
Open obligations: none
-/
import SourceRecovery.Text.Basic

namespace SourceRecovery.Patch

/-- A line moved in; a blank line becomes empty. -/
def indentLine (columns : Nat) (line : String) : String :=
  if Text.isBlankText line then "" else Text.repeated ' ' columns ++ line

/-- A block moved in. -/
def indentBlock (text : String) (columns : Nat) : String :=
  Text.join ((Text.split text).map (indentLine columns))

/-- Lines with those from `start` to before `stop` replaced by the lines of a text. What lies beyond the last
    line does not count. -/
def splice (lines : List String) (start stop : Nat) (replacement : String) : List String :=
  let stop := min stop lines.length
  let start := min start stop
  lines.take start ++ Text.split replacement ++ lines.drop stop

/-- A text with constants added at its end, an empty line before each. -/
def appendConstants (source : String) (constants : List String) : String :=
  Text.trimEnd source ++ "\n\n" ++ Text.joinWith "\n\n" constants ++ "\n"

end SourceRecovery.Patch
