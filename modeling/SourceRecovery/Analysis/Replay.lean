/-
Module: SourceRecovery.Analysis.Replay
Layer: Analysis
Purpose: Values that a module body stores, rebuilt from its instructions. The run of literal-building
  instructions right before a store is replayed on a stack of values, and it has to leave exactly one
  literal. Where a name is stored several times the last store decides.
Imports: SourceRecovery.Bytecode.CodeUnit
Trusted boundary: none
Main exports: Replay.step, Replay.traceValue, Replay.recover
Open obligations: none
-/
import SourceRecovery.Bytecode.CodeUnit

namespace SourceRecovery.Replay

/-- The longest run that is replayed. -/
def maxRun : Nat :=
  4096

/-- A stack of values, the topmost first. -/
abbrev Stack := List Value

/-- The topmost `count` values in the order in which they were pushed, and the stack below them. -/
def pop? (count : Nat) (stack : Stack) : Option (List Value × Stack) :=
  if count ≤ stack.length then some ((stack.take count).reverse, stack.drop count) else none

/-- The stack with the value in the `slot`-th place from the top changed; the topmost one is in place one. -/
def change? (slot : Nat) (f : Value → Option Value) : Stack → Option Stack
  | [] => none
  | top :: below =>
    match slot with
    | 0 => none
    | 1 => (f top).map (· :: below)
    | slot + 1 => (change? slot f below).map (top :: ·)

/-- A set with a value added, unless an equal one is there. -/
def addToSet (items : List Value) (value : Value) : List Value :=
  if items.any fun item => item.same value then items else items ++ [value]

/-- Keys and values that alternate, as pairs. -/
def pairUp : List Value → List (Value × Value)
  | key :: value :: rest => (key, value) :: pairUp rest
  | _ => []

/-- A list with values added at its end. -/
def extendList (added : List Value) : Value → Option Value
  | .list items => some (.list (items ++ added))
  | _ => none

/-- A set with values added. -/
def extendSet (added : List Value) : Value → Option Value
  | .set items => some (.set (added.foldl addToSet items))
  | _ => none

/-- A dictionary with pairs put in. -/
def extendDict (added : List (Value × Value)) : Value → Option Value
  | .dict pairs => some (.dict (Value.insertAll pairs added))
  | _ => none

/-- A dictionary from its keys, which the topmost value holds, and the values below it. -/
def buildKeyed? (count : Nat) : Stack → Option Stack
  | [] => none
  | top :: stack => do
    let keys ← top.items?
    if keys.length = count then
      let (values, below) ← pop? count stack
      return .dict (Value.insertAll [] (keys.zip values)) :: below
    else none

/-- The stack after a literal-building instruction; other instructions and instructions that do not find
    what they need have no result. -/
def step (u : CodeUnit) (stack : Stack) (ins : Instruction) : Option Stack :=
  let count := ins.arg.toNat
  match ins.op with
  | .loadConst => (u.constAt? ins.arg).map (· :: stack)
  | .buildTuple => (pop? count stack).map fun (items, below) => .tuple items :: below
  | .buildList => (pop? count stack).map fun (items, below) => .list items :: below
  | .buildSet =>
    (pop? count stack).map fun (items, below) => .set (items.foldl addToSet []) :: below
  | .buildMap =>
    (pop? (2 * count) stack).map fun (items, below) =>
      .dict (Value.insertAll [] (pairUp items)) :: below
  | .buildConstKeyMap => buildKeyed? count stack
  | .mapAdd =>
    match stack with
    | value :: key :: below => change? count (extendDict [(key, value)]) below
    | _ => none
  | .dictUpdate =>
    match stack with
    | .dict added :: below => change? count (extendDict added) below
    | _ => none
  | .listExtend =>
    match stack with
    | top :: below => top.items?.bind fun items => change? count (extendList items) below
    | [] => none
  | .setUpdate =>
    match stack with
    | top :: below => top.items?.bind fun items => change? count (extendSet items) below
    | [] => none
  | .listAppend =>
    match stack with
    | value :: below => change? count (extendList [value]) below
    | [] => none
  | .setAdd =>
    match stack with
    | value :: below => change? count (extendSet [value]) below
    | [] => none
  | _ => none

/-- The stack after a run of instructions. -/
def run (u : CodeUnit) (stack : Stack) (instructions : List Instruction) : Option Stack :=
  instructions.foldlM (step u) stack

/-- The run of literal-building instructions at the end of those before a store, which are given with the
    last one first. -/
def literalRun (earlier : List Instruction) : List Instruction :=
  ((earlier.take maxRun).takeWhile fun ins => ins.op.buildsLiteral).reverse

/-- The literal that a run leaves as the only value. -/
def runValue? (u : CodeUnit) (instructions : List Instruction) : Option Value :=
  match run u [] instructions with
  | some [value] => if value.isLiteral then some value else none
  | _ => none

/-- The literal that a store after the given instructions, last one first, takes from the stack. -/
def traceValue (u : CodeUnit) : (earlier : List Instruction) → Option Value
  | [] => none
  | last :: before =>
    if last.op = .loadConst then
      (u.constAt? last.arg).filter Value.isLiteral
    else
      match literalRun (last :: before) with
      | [] => none
      | instructions => runValue? u instructions

/-- Named values in a row, a name at most once. -/
abbrev Bindings := List (String × Value)

/-- A name keeps its place when it gets a new value. -/
def bind (name : String) (value : Value) : Bindings → Bindings
  | [] => [(name, value)]
  | entry :: rest => if entry.1 == name then (name, value) :: rest else entry :: bind name value rest

/-- The bindings after an instruction with those before it, last one first: a store of a wanted name binds
    the value that can be rebuilt, and unbinds the name when none can. -/
def observe (u : CodeUnit) (wanted : List String) (earlier : List Instruction) (ins : Instruction)
    (found : Bindings) : Bindings :=
  match if ins.op.stores then u.nameAt? ins.arg else none with
  | none => found
  | some name =>
    if wanted.contains name then
      match traceValue u earlier with
      | some value => bind name value found
      | none => found.filter fun entry => entry.1 != name
    else found

/-- The bindings after the remaining instructions. -/
def recoverFrom (u : CodeUnit) (wanted : List String) :
    (earlier remaining : List Instruction) → Bindings → Bindings
  | _, [], found => found
  | earlier, ins :: rest, found =>
    recoverFrom u wanted (ins :: earlier) rest (observe u wanted earlier ins found)

/-- The values of the wanted names, as far as they can be rebuilt. -/
def recover (u : CodeUnit) (wanted : List String) : Bindings :=
  recoverFrom u wanted [] u.instructions []

end SourceRecovery.Replay
