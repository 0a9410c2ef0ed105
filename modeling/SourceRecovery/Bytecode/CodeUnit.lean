/-
Module: SourceRecovery.Bytecode.CodeUnit
Layer: Bytecode
Purpose: Code units, that is functions, class bodies, comprehensions and module bodies, and the modules
  they make up. The units of a module are held in one list, every unit after the units nested in it, and
  refer to each other by position.
Imports: SourceRecovery.Bytecode.Instruction, SourceRecovery.Value.Basic, SourceRecovery.Text.Basic
Trusted boundary: none
Main exports: CodeUnit, CodeUnit.parameterList, CodeUnit.signature, CompiledModule
Open obligations: none
-/
import SourceRecovery.Bytecode.Instruction
import SourceRecovery.Value.Basic
import SourceRecovery.Text.Basic

namespace SourceRecovery

/-- A compiled body. -/
structure CodeUnit where
  name : String
  qualname : String
  /-- The key of the unit in its index; empty until an index is built. -/
  path : String := ""
  filename : String := ""
  version : Version
  firstLine : UInt32 := 0
  argCount : UInt32 := 0
  posOnlyCount : UInt32 := 0
  kwOnlyCount : UInt32 := 0
  stackSize : UInt32 := 0
  flags : UInt32 := 0
  /-- The instruction words; empty when the unit comes from a listing. -/
  code : List UInt8 := []
  /-- The length of the instruction words in bytes. -/
  codeSize : Nat := 0
  instructions : List Instruction := []
  consts : List Value := []
  names : List String := []
  varNames : List String := []
  freeVars : List String := []
  cellVars : List String := []
  /-- The positions of the units nested directly in this one. -/
  children : List Nat := []
deriving Inhabited

namespace CodeUnit

/-- A unit with a name and nothing else. -/
def empty (name : String) (version : Version) : CodeUnit :=
  { name, qualname := name, version }

/-- Some unit is nested in this one. -/
def hasNestedCode (u : CodeUnit) : Bool :=
  !u.children.isEmpty || u.consts.any fun value => value.code?.isSome

/-- The unit collects further positional arguments. -/
def hasVarArgs (u : CodeUnit) : Bool :=
  u.flags &&& 0x04 != 0

/-- The unit collects further keyword arguments. -/
def hasVarKeywords (u : CodeUnit) : Bool :=
  u.flags &&& 0x08 != 0

/-- The unit is the body of a coroutine. -/
def isCoroutine (u : CodeUnit) : Bool :=
  u.flags &&& 0x80 != 0

/-- The name an instruction's argument stands for. -/
def nameAt? (u : CodeUnit) (arg : UInt32) : Option String :=
  u.names[arg.toNat]?

/-- The constant an instruction's argument stands for. -/
def constAt? (u : CodeUnit) (arg : UInt32) : Option Value :=
  u.consts[arg.toNat]?

/-- The names the unit stores, in the order of its instructions, repetitions kept. -/
def storedNames (u : CodeUnit) : List String :=
  (u.instructions.filter fun ins => ins.op.stores).filterMap fun ins => u.nameAt? ins.arg

/-- The variable at a position, or a stand-in for one that the unit does not name. -/
def varNameOr (u : CodeUnit) (position : Nat) (fallback : String) : String :=
  u.varNames[position]?.getD fallback

/-- The positional parameters, with a slash after the last one that cannot be given by name. -/
def positionalParameters (u : CodeUnit) : List String :=
  let total := u.argCount.toNat
  let posOnly := min u.posOnlyCount.toNat total
  let params := (List.range total).map fun i => u.varNameOr i ("arg" ++ toString i)
  if posOnly = 0 then params else params.take posOnly ++ "/" :: params.drop posOnly

/-- The parameters after the star. -/
def keywordParameters (u : CodeUnit) : List String :=
  (List.range u.kwOnlyCount.toNat).map fun i =>
    u.varNameOr (u.argCount.toNat + i) ("kwarg" ++ toString i)

/-- The star with the name of the collected positional arguments, or alone before keyword parameters. -/
def starParameter (u : CodeUnit) : List String :=
  if u.hasVarArgs then
    ["*" ++ u.varNameOr (u.argCount.toNat + u.kwOnlyCount.toNat) "args"]
  else if 0 < u.kwOnlyCount then ["*"]
  else []

/-- The name of the collected keyword arguments, which follows all others in the table of variables. -/
def doubleStarParameter (u : CodeUnit) : List String :=
  let position := u.argCount.toNat + u.kwOnlyCount.toNat + (if u.hasVarArgs then 1 else 0)
  if u.hasVarKeywords then ["**" ++ u.varNameOr position "kwargs"] else []

/-- The parameters as they stand between the parentheses of a definition. -/
def parameterList (u : CodeUnit) : String :=
  Text.joinWith ", "
    (u.positionalParameters ++ u.starParameter ++ u.keywordParameters ++ u.doubleStarParameter)

/-- The header of a definition of the unit under a name, without the colon. -/
def signature (u : CodeUnit) (name : String) : String :=
  (if u.isCoroutine then "async def " else "def ") ++ name ++ "(" ++ u.parameterList ++ ")"

end CodeUnit

/-- A module: its units, every one after those nested in it, and the position of the module body. -/
structure CompiledModule where
  version : Version
  units : List CodeUnit
  root : Nat
deriving Inhabited

end SourceRecovery
