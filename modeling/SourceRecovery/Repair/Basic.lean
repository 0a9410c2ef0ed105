/-
Module: SourceRecovery.Repair.Basic
Layer: Repair
Purpose: Repair of a text from bytecode. Unfinished definitions become stubs and lost constants are added;
  the new text is taken when it has no more gaps than before and is better or different.
Imports: SourceRecovery.Repair.Stub, SourceRecovery.Analysis.Constants, SourceRecovery.Outcome,
  SourceRecovery.Value.Assignment
Trusted boundary: none
Main exports: Repair.stage, Repair.patched, repair
Open obligations: none
-/
import SourceRecovery.Repair.Stub
import SourceRecovery.Analysis.Constants
import SourceRecovery.Outcome
import SourceRecovery.Value.Assignment

namespace SourceRecovery

variable [Source.Grammar]

/-- The items of a text from the last one to the first one. -/
def itemsFromEnd (source : String) (index : Index) (settings : Settings) : List IncompleteItem :=
  (incompleteItems source (some index) settings).mergeSort fun a b => b.start ≤ a.start

namespace Repair

/-- The name of the stage. -/
def stage : String :=
  "bytecode"

/-- Lines with an item replaced by its stub, when it has one. -/
def stubItem (index : Index) (settings : Settings) (lines : List String) (item : IncompleteItem) :
    List String :=
  match Stub.build? item index settings with
  | some stub => Patch.splice lines item.start item.stop stub
  | none => lines

/-- A text with its unfinished definitions replaced by stubs. -/
def stubbed (source : String) (index : Index) (settings : Settings) : String :=
  Text.join
    ((itemsFromEnd source index settings).foldl (stubItem index settings) (Text.split source))

/-- The assignments of the constants that a text has lost. -/
def lostConstants (source : String) (index : Index) : List String :=
  (Replay.recover index.rootUnit (missingConstants source index)).map fun (name, value) =>
    value.assignment name

/-- A text with stubs, and with the constants it has lost. -/
def patched (source : String) (index : Index) (settings : Settings) : String :=
  let text := stubbed source index settings
  match lostConstants text index with
  | [] => text
  | constants => Patch.appendConstants text constants

end Repair

/-- The outcome after repair from bytecode. -/
def repair (outcome : Outcome) (index : Index) (settings : Settings) : Outcome :=
  if outcome.hasSource then
    let before := countGaps outcome.source (some index) settings
    let text := Repair.patched outcome.source index settings
    let after := countGaps text (some index) settings
    if after ≤ before && (after < before || text != outcome.source) then
      outcome.withStage Repair.stage text after
    else outcome
  else outcome

end SourceRecovery
