/-
Module: SourceRecovery.Proofs.ArtifactWriting
Layer: Proofs
Purpose: Artifacts that are written from a plan. A unit is planned by its fields and its constants, which are
  values or further units. The plan says what the artifact is in the layout of a version, which units a
  module has when it is written so, and how deep its objects nest.
Imports: SourceRecovery.Bytecode.Artifact, SourceRecovery.Proofs.ObjectEncoding
Trusted boundary: none
Main exports: UnitFields, PlannedConst, Artifact.write, PlannedConst.units, PlannedConst.depth,
  PlannedConst.Storable
Open obligations: none
-/
import SourceRecovery.Bytecode.Artifact
import SourceRecovery.Proofs.ObjectEncoding

namespace SourceRecovery

/-! ### Plans -/

/-- The fields of a unit that a plan chooses, its constants apart. -/
structure UnitFields where
  name : String
  argCount : UInt32 := 0
  flags : UInt32 := 0
  stackSize : UInt32 := 0
  code : List UInt8 := []
  names : List String := []
  varNames : List String := []

/-- A constant of a planned unit: a value, or a further unit with its own constants. -/
inductive PlannedConst where
  | value (v : Value)
  | unit (fields : UnitFields) (consts : List PlannedConst)

/-- A row of names as a value. -/
def Value.ofNames (names : List String) : Value :=
  .tuple (names.map .str)

/-! ### Bytes -/

namespace ObjectStream

/-- An object of a kind, without a number. -/
def writeObject (kind : Char) (contents : List UInt8) : List UInt8 :=
  littleBytes 1 kind.toNat ++ contents

/-- Bytes with their length before them. -/
def writeCounted (bytes : List UInt8) : List UInt8 :=
  littleBytes 4 bytes.length ++ bytes

/-- A row of `count` objects. -/
def writeRow (kind : Char) (count : Nat) (parts : List UInt8) : List UInt8 :=
  writeObject kind (littleBytes 4 count ++ parts)

mutual

/-- The object of a value. Integers take eight bytes, and what has no object of its own becomes nothing. -/
def writeValue : Value → List UInt8
  | .none => writeObject 'N' []
  | .bool true => writeObject 'T' []
  | .bool false => writeObject 'F' []
  | .ellipsis => writeObject '.' []
  | .int n => writeObject 'I' (signedBytes 8 n.toInt)
  | .float x => writeObject 'g' (littleBytes 8 x.bits.toNat)
  | .complex re im => writeObject 'y' (littleBytes 8 re.bits.toNat ++ littleBytes 8 im.bits.toNat)
  | .str s => writeObject 'u' (writeCounted (Text.Utf8.encode s))
  | .bytes bs => writeObject 's' (writeCounted bs)
  | .tuple items => writeRow '(' items.length (writeValues items)
  | .list items => writeRow '[' items.length (writeValues items)
  | .set items => writeRow '<' items.length (writeValues items)
  | .frozenset items => writeRow '>' items.length (writeValues items)
  | .dict pairs => writeObject '\x7b' (writePairs pairs ++ littleBytes 1 48)
  | .code _ | .raw _ => writeObject 'N' []

/-- The objects of a row of values. -/
def writeValues : List Value → List UInt8
  | [] => []
  | v :: rest => writeValue v ++ writeValues rest

/-- The objects of keys and values in turn. -/
def writePairs : List (Value × Value) → List UInt8
  | [] => []
  | (k, v) :: rest => writeValue k ++ (writeValue v ++ writePairs rest)

end

/-- The numbers at the front of a unit. Versions before the modern ones count the variables too. -/
def writeCounts (version : Version) (fields : UnitFields) : List UInt8 :=
  littleBytes 4 fields.argCount.toNat ++ (littleBytes 4 0 ++ (littleBytes 4 0
    ++ ((if version.isModern then [] else littleBytes 4 fields.varNames.length)
    ++ (littleBytes 4 fields.stackSize.toNat ++ littleBytes 4 fields.flags.toNat))))

/-- The variables of a unit, all of them its own: one table with kinds in modern versions, three tables
    before. -/
def writeVariables (version : Version) (fields : UnitFields) : List UInt8 :=
  if version.isModern then
    writeValue (.ofNames fields.varNames)
      ++ writeValue (.bytes (List.replicate fields.varNames.length 0x20))
  else
    writeValue (.ofNames fields.varNames) ++ (writeValue (.ofNames []) ++ writeValue (.ofNames []))

/-- The end of a unit: its file, its name, its qualified name in modern versions, its first line, and the
    tables of lines and of exceptions, which are empty. -/
def writeEnding (version : Version) (fields : UnitFields) : List UInt8 :=
  writeValue (.str "module.py") ++ (writeValue (.str fields.name)
    ++ ((if version.isModern then writeValue (.str fields.name) else [])
    ++ (littleBytes 4 1 ++ (writeValue (.bytes [])
    ++ (if version.isModern then writeValue (.bytes []) else [])))))

mutual

/-- The object of a planned constant. -/
def writeConst (version : Version) : PlannedConst → List UInt8
  | .value v => writeValue v
  | .unit fields consts =>
    writeObject 'c'
      (writeCounts version fields ++ (writeValue (.bytes fields.code)
        ++ (writeRow '(' consts.length (writeConsts version consts)
        ++ (writeValue (.ofNames fields.names)
        ++ (writeVariables version fields ++ writeEnding version fields)))))

/-- The objects of a row of planned constants. -/
def writeConsts (version : Version) : List PlannedConst → List UInt8
  | [] => []
  | c :: rest => writeConst version c ++ writeConsts version rest

end

end ObjectStream

namespace Artifact

/-- The magic number of a version. -/
def magicOf (version : Version) : Nat :=
  if version = ⟨3, 8⟩ then 3413
  else if version = ⟨3, 9⟩ then 3425
  else if version = ⟨3, 10⟩ then 3439
  else if version = ⟨3, 11⟩ then 3495
  else 3531

/-- The artifact of a module body with the fields and constants. -/
def write (version : Version) (fields : UnitFields) (consts : List PlannedConst) : List UInt8 :=
  ObjectStream.littleBytes 2 (magicOf version) ++ [13, 10] ++ List.replicate 12 0
    ++ ObjectStream.writeConst version (.unit fields consts)

/-- The versions that artifacts can be read for. -/
def supportedVersions : List Version :=
  [⟨3, 8⟩, ⟨3, 9⟩, ⟨3, 10⟩, ⟨3, 11⟩, ⟨3, 12⟩]

end Artifact

/-! ### Units -/

namespace PlannedConst

mutual

/-- The number of units that a constant brings. -/
def unitCount : PlannedConst → Nat
  | .value _ => 0
  | .unit _ consts => unitCounts consts + 1

/-- The number of units that a row of constants brings. -/
def unitCounts : List PlannedConst → Nat
  | [] => 0
  | c :: rest => c.unitCount + unitCounts rest

end

/-- What stands for a constant when `first` units come before those it brings: a unit comes after the units
    nested in it, and its position stands for it. -/
def valueAt (first : Nat) : PlannedConst → Value
  | .value v => v
  | .unit _ consts => .code (first + unitCounts consts)

/-- What stands for a row of constants. -/
def valuesAt (first : Nat) : List PlannedConst → List Value
  | [] => []
  | c :: rest => c.valueAt first :: valuesAt (first + c.unitCount) rest

/-- The positions of the units among a row of constants. -/
def childrenAt (first : Nat) : List PlannedConst → List Nat
  | [] => []
  | .value _ :: rest => childrenAt first rest
  | .unit fields consts :: rest =>
    (first + unitCounts consts) :: childrenAt (first + (unit fields consts).unitCount) rest

/-- The unit with the fields and constants, when `first` units come before those it brings. -/
def unitAt (version : Version) (first : Nat) (fields : UnitFields) (consts : List PlannedConst) :
    CodeUnit where
  name := fields.name
  qualname := fields.name
  filename := "module.py"
  version := version
  firstLine := 1
  argCount := fields.argCount
  stackSize := fields.stackSize
  flags := fields.flags
  code := fields.code
  codeSize := fields.code.length
  instructions := Instruction.decode version fields.code
  consts := valuesAt first consts
  names := fields.names
  varNames := fields.varNames
  children := childrenAt first consts

mutual

/-- The units that a constant brings, every one after the units nested in it. -/
def units (version : Version) (first : Nat) : PlannedConst → List CodeUnit
  | .value _ => []
  | .unit fields consts => unitsOf version first consts ++ [unitAt version first fields consts]

/-- The units that a row of constants brings. -/
def unitsOf (version : Version) (first : Nat) : List PlannedConst → List CodeUnit
  | [] => []
  | c :: rest => c.units version first ++ unitsOf version (first + c.unitCount) rest

end

end PlannedConst

/-! ### Nesting and lengths -/

namespace Value

mutual

/-- The depth of nesting: one for a value without parts, and one more than its deepest part for a
    container. -/
def depth : Value → Nat
  | .tuple items | .list items | .set items | .frozenset items => depthOfItems items + 1
  | .dict pairs => depthOfPairs pairs + 1
  | _ => 1

/-- The depth of the deepest value of a row. -/
def depthOfItems : List Value → Nat
  | [] => 0
  | v :: rest => max v.depth (depthOfItems rest)

/-- The depth of the deepest key or value of a row of pairs. -/
def depthOfPairs : List (Value × Value) → Nat
  | [] => 0
  | (k, v) :: rest => max k.depth (max v.depth (depthOfPairs rest))

end

mutual

/-- The value has an object of its own: no code unit and no raw text occurs in it, lengths fit into four
    bytes with a sign, and keys of dictionaries differ. -/
def Storable : Value → Prop
  | .none | .bool _ | .int _ | .float _ | .complex _ _ | .ellipsis => True
  | .str s => (Text.Utf8.encode s).length < 2 ^ 31
  | .bytes bs => bs.length < 2 ^ 31
  | .tuple items | .list items | .set items | .frozenset items =>
    items.length < 2 ^ 31 ∧ AllStorable items
  | .dict pairs => DistinctKeys pairs ∧ PairsStorable pairs
  | .code _ | .raw _ => False

/-- Every value of a row has an object of its own. -/
def AllStorable : List Value → Prop
  | [] => True
  | v :: rest => Storable v ∧ AllStorable rest

/-- Every key and every value of a row of pairs has an object of its own. -/
def PairsStorable : List (Value × Value) → Prop
  | [] => True
  | (k, v) :: rest => Storable k ∧ Storable v ∧ PairsStorable rest

end

end Value

/-- The fields of a unit can be written. -/
structure UnitFields.Storable (fields : UnitFields) : Prop where
  name : (Value.str fields.name).Storable
  code : (Value.bytes fields.code).Storable
  names : (Value.ofNames fields.names).Storable
  varNames : (Value.ofNames fields.varNames).Storable

namespace PlannedConst

mutual

/-- The depth of nesting of the object of a constant. Code, texts and tables of a unit lie one level below
    it, and so does the row of its constants. -/
def depth : PlannedConst → Nat
  | .value v => v.depth
  | .unit fields consts =>
    max (max (Value.ofNames fields.names).depth (Value.ofNames fields.varNames).depth)
      (depthOfAll consts + 1) + 1

/-- The depth of the deepest constant of a row. -/
def depthOfAll : List PlannedConst → Nat
  | [] => 0
  | c :: rest => max c.depth (depthOfAll rest)

end

mutual

/-- A constant can be written. -/
def Storable : PlannedConst → Prop
  | .value v => v.Storable
  | .unit fields consts => fields.Storable ∧ consts.length < 2 ^ 31 ∧ AllStorable consts

/-- Every constant of a row can be written. -/
def AllStorable : List PlannedConst → Prop
  | [] => True
  | c :: rest => c.Storable ∧ AllStorable rest

end

end PlannedConst

end SourceRecovery
