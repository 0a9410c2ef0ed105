/-
Module: SourceRecovery.Agent.Recovery
Layer: Agent
Purpose: What agents make of the definitions that bytecode alone could not finish. A text that is not
  acceptable source is mended or replaced as a whole first. Every unfinished definition is then asked for on
  its own, from the last one to the first one. The new text is taken when it is acceptable source, and the
  old one is kept otherwise.
Imports: SourceRecovery.Agent.Query, SourceRecovery.Agent.Prompt, SourceRecovery.Repair.Basic
Trusted boundary: none
Main exports: ItemState, RecoveryReport, stripLeftoverMarkers, recoverDocument, recover
Open obligations: none
-/
import SourceRecovery.Agent.Query
import SourceRecovery.Agent.Prompt
import SourceRecovery.Repair.Basic

namespace SourceRecovery

variable {σ : Type} [Source.Grammar]

/-- How far the recovery of an item has come. -/
inductive ItemState where
  | pending
  | prompted
  | accepted
  | rejected
deriving DecidableEq, Repr

namespace ItemState

/-- An item is asked about when there is something to ask. -/
def afterPrompt : Option String → ItemState
  | some _ => .prompted
  | none => .rejected

/-- An item that was asked about is settled by the answer. -/
def afterAnswer : Option String → ItemState
  | some _ => .accepted
  | none => .rejected

end ItemState

/-- What recovery has made of a text: the text, the number of documents and items that agents have given,
    and how each item ended. -/
structure RecoveryReport where
  source : String
  recovered : Nat
  items : List (String × ItemState)
deriving DecidableEq, Repr

/-- Nothing was recovered. -/
def RecoveryReport.unchanged (source : String) : RecoveryReport :=
  { source, recovered := 0, items := [] }

namespace Recovery

/-- The name of the stage. -/
def stage : String :=
  "llm"

/-! Questions -/

/-- What an agent is shown around a function: the imports, and the class it belongs to. -/
def functionContext (item : IncompleteItem) (context : String) : String :=
  match item.enclosing with
  | some cls => context ++ "\n\nclass " ++ cls ++ ":\n    # method context"
  | none => context

/-- The base of a class for its question. -/
def classBase (item : IncompleteItem) (index : Index) (settings : Settings) : String :=
  match item.unit with
  | some unit => Stub.stubBase item index unit settings
  | none => if item.bases.isEmpty then "object" else Text.joinWith ", " item.bases

/-- The question for an item. Nothing is asked about an item that fits several units, or about a function
    whose unit is not known. -/
def itemPrompt? (item : IncompleteItem) (index : Index) (settings : Settings) (context : String) :
    Option String :=
  if item.ambiguous then none
  else
    match item.kind with
    | .function =>
      item.unit.map fun unit =>
        Prompt.functionPrompt ((index.unit unit).signature item.name) (index.disassembly unit)
          (functionContext item context)
    | .cls =>
      some (Prompt.classPrompt item.name (classBase item index settings) item.members
        (index.disassembly (item.unit.getD index.root)) context)

/-! Markers that are left over -/

/-- The start of a note that a decompiler leaves at the end of a text. -/
def opcodeNote : String :=
  "Unsupported opcode:"

/-- A line that is such a note, with or without comment signs. -/
def isOpcodeNote (line : String) : Bool :=
  let text := Text.Chars.trimStart ((Text.trim line).toList.dropWhile (· == '#'))
  Text.Chars.startsWith opcodeNote.toList text

/-- Lines from the last one on without the notes before the first line that is neither blank nor a note. -/
def dropNotes : List String → List String
  | [] => []
  | line :: lines =>
    if Text.isBlankText line then line :: dropNotes lines
    else if isOpcodeNote line then dropNotes lines
    else line :: lines

/-- A text without the lines that hold the marker and without the notes at its end. -/
def withoutMarkers (source marker : String) : String :=
  let lines := (Text.split source).filter fun line => !Text.contains line marker
  Text.join (dropNotes lines.reverse).reverse

end Recovery

/-- A text without its markers, when that leaves acceptable source in which nothing looks unfinished; the
    text itself otherwise. -/
def stripLeftoverMarkers (source : String) (index : Index) (settings : Settings) : String :=
  if Text.contains source settings.gapMarker then
    let stripped := Recovery.withoutMarkers source settings.gapMarker
    if Source.isValid stripped && !hasSuspectedStubs stripped index settings then stripped
    else source
  else source

namespace Recovery

/-! Items -/

/-- The recovery of items under way. -/
structure Progress where
  lines : List String
  recovered : Nat
  states : List (String × ItemState)
deriving DecidableEq, Repr

/-- Lines after an answer for an item. -/
def applyAnswer (item : IncompleteItem) (lines : List String) : Option String → List String
  | some code => Patch.splice lines item.start item.stop (Patch.indentBlock code item.indent)
  | none => lines

/-- The recovery after an item was settled by an answer. -/
def Progress.settle (progress : Progress) (item : IncompleteItem) (answer : Option String) :
    Progress :=
  { lines := applyAnswer item progress.lines answer
    recovered := progress.recovered + (if answer.isSome then 1 else 0)
    states := progress.states ++ [(item.name, .afterAnswer answer)] }

/-- The recovery after an item about which nothing could be asked. -/
def Progress.skip (progress : Progress) (item : IncompleteItem) : Progress :=
  { progress with states := progress.states ++ [(item.name, .afterPrompt none)] }

/-- The recovery of items, one after the other. -/
def recoverItems (host : Host σ) (index : Index) (settings : Settings) (context : String) :
    List IncompleteItem → Progress → StateM σ Progress
  | [], progress => return progress
  | item :: items, progress => do
    match itemPrompt? item index settings context with
    | none => recoverItems host index settings context items (progress.skip item)
    | some prompt =>
      let answer ← bestResponse host settings.agents prompt
      recoverItems host index settings context items (progress.settle item answer)

/-! Documents -/

/-- A whole text from the agents, when it is acceptable source. -/
def wholeDocument (host : Host σ) (settings : Settings) (prompt : String) :
    StateM σ (Option String) := do
  return (← bestResponse host settings.agents prompt).filter Source.isValid

/-- The report once all items are settled: the new text counts when it is acceptable source. -/
def commit (source : String) (index : Index) (settings : Settings) (progress : Progress) :
    RecoveryReport :=
  let text := stripLeftoverMarkers (Text.join progress.lines) index settings
  if Source.isValid text then
    { source := text, recovered := progress.recovered, items := progress.states }
  else .unchanged source

/-- The report for a text without unfinished definitions: when markers are left the agents are asked for the
    whole text, which must not have any. -/
def recoverMarked (host : Host σ) (index : Index) (settings : Settings) (working : String)
    (recovered : Nat) : StateM σ RecoveryReport := do
  let unchanged : RecoveryReport := { source := working, recovered, items := [] }
  if Scan.markerCount working settings.gapMarker = 0 then return unchanged
  let prompt := Prompt.wholeFilePrompt working (index.disassembly index.root)
  match ← wholeDocument host settings prompt with
  | some code =>
    if Text.contains code settings.gapMarker then return unchanged
    else return { source := code, recovered := recovered + 1, items := [] }
  | none => return unchanged

/-- The report for acceptable source, where `source` is what was given in the beginning and `recovered` the
    number of documents taken so far. -/
def recoverWorking (host : Host σ) (index : Index) (settings : Settings) (source working : String)
    (recovered : Nat) : StateM σ RecoveryReport := do
  match itemsFromEnd working index settings with
  | [] => recoverMarked host index settings working recovered
  | items =>
    let context := Scan.importContext working settings.contextLines
    let start : Progress := { lines := Text.split working, recovered, states := [] }
    return commit source index settings (← recoverItems host index settings context items start)

/-- The report for a text that is not acceptable source, when no agent could mend it: a text made anew, or
    nothing. -/
def replaceDocument (host : Host σ) (index : Index) (settings : Settings) (source : String) :
    StateM σ RecoveryReport := do
  let prompt := Prompt.wholeFilePrompt source (index.disassembly index.root)
  match ← wholeDocument host settings prompt with
  | some code => return { source := code, recovered := 1, items := [] }
  | none => return .unchanged source

end Recovery

open Recovery in
/-- What agents make of a text. -/
def recoverDocument (host : Host σ) (source : String) (index : Index) (settings : Settings) :
    StateM σ RecoveryReport := do
  match Source.check source with
  | .ok _ => recoverWorking host index settings source source 0
  | .error problem =>
    let prompt := Prompt.syntaxFixPrompt source problem.message (index.disassembly index.root)
    match ← wholeDocument host settings prompt with
    | some mended => recoverWorking host index settings source mended 1
    | none => replaceDocument host index settings source

/-- The outcome of a report: a new text counts when something was recovered, the text has changed, and it is
    acceptable source. -/
def applyReport (outcome : Outcome) (report : RecoveryReport) (index : Index) (settings : Settings) :
    Outcome :=
  if report.recovered = 0 || report.source == outcome.source || !Source.isValid report.source then
    outcome
  else
    outcome.withStage Recovery.stage report.source (countGaps report.source (some index) settings)

/-- The outcome after the agents were asked. -/
def recover (host : Host σ) (outcome : Outcome) (index : Index) (settings : Settings) :
    StateM σ Outcome := do
  if outcome.hasSource && !settings.agents.isEmpty then
    return applyReport outcome (← recoverDocument host outcome.source index settings) index settings
  else return outcome

end SourceRecovery
