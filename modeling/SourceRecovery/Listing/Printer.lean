/-
Module: SourceRecovery.Listing.Printer
Layer: Listing
Purpose: Listings of modules. A listing is a banner with the version and a block for the module body. A
  block has a line per field and a section per table, each four columns further in, and a unit among the
  constants is a block again. Past a hundred levels a nested unit is only named.
Imports: SourceRecovery.Bytecode.CodeUnit, SourceRecovery.Value.Printer
Trusted boundary: none
Main exports: Listing.writeUnit, Listing.ofUnit, Listing.ofModule
Open obligations: none
-/
import SourceRecovery.Bytecode.CodeUnit
import SourceRecovery.Value.Printer

namespace SourceRecovery.Listing

/-- Units may nest this deep in a listing. -/
def maxLevels : Nat :=
  100

/-- A text filled with blanks up to a width. -/
def padEnd (width : Nat) (s : String) : String :=
  s ++ Text.repeated ' ' (width - s.length)

/-- A number as eight hexadecimal digits, letters as capitals. -/
def flagDigits (flags : UInt32) : String :=
  String.ofList ((Text.hexDigits 8 flags.toNat).map Char.toUpper)

/-- The fields of a unit, each with its key. -/
def fields (u : CodeUnit) : List (String × String) :=
  [("File Name", u.filename),
   ("Object Name", u.name),
   ("Qualified Name", u.qualname),
   ("Arg Count", toString u.argCount.toNat),
   ("Pos Only Arg Count", toString u.posOnlyCount.toNat),
   ("KW Only Arg Count", toString u.kwOnlyCount.toNat),
   ("Stack Size", toString u.stackSize.toNat),
   ("Flags", "0x" ++ flagDigits u.flags)]

/-- The line of a field, without its margin. -/
def fieldLine (field : String × String) : String :=
  field.1 ++ ": " ++ field.2

/-- Lines moved in by a number of columns. -/
def moveIn (columns : Nat) (lines : List String) : List String :=
  lines.map fun line => Text.repeated ' ' columns ++ line

/-- A section: its title, and its lines four columns further in. -/
def sectionLines (title : String) (lines : List String) : List String :=
  ("[" ++ title ++ "]") :: moveIn 4 lines

/-- A table of names: a quoted name per line. -/
def nameLines (title : String) (names : List String) : List String :=
  sectionLines title (names.map fun name => String.ofList (Value.writeText name))

/-- What an instruction's argument stands for. -/
def argumentDetail? (units : List CodeUnit) (u : CodeUnit) (ins : Instruction) : Option String :=
  match ins.op with
  | .loadConst =>
    (u.constAt? ins.arg).map fun value =>
      match value with
      | .code child =>
        match units[child]? with
        | some nested => "<CODE> " ++ nested.name
        | none => ""
      | other => other.literal
  | .loadName | .storeName | .storeGlobal => u.nameAt? ins.arg
  | _ => none

/-- The line of an instruction: offset, mnemonic, argument, and what the argument stands for. -/
def instructionLine (units : List CodeUnit) (u : CodeUnit) (ins : Instruction) : String :=
  padEnd 8 (toString ins.offset) ++ padEnd 30 ins.op.name ++ toString ins.arg.toNat
    ++ (match argumentDetail? units u ins with
        | some detail => ": " ++ detail
        | none => "")

/-- The lines of a constant: a unit is written by `nested`, all else on one line. -/
def constantLines (nested : Nat → Option (List String)) (value : Value) : List String :=
  match value.code?.bind nested with
  | some lines => lines
  | none => [value.literal]

/-- The fields and tables of a unit. A unit nested in it is written by `nested`. -/
def bodyLines (nested : Nat → Option (List String)) (units : List CodeUnit) (u : CodeUnit) :
    List String :=
  (fields u).map fieldLine
    ++ nameLines "Names" u.names
    ++ nameLines "Var Names" u.varNames
    ++ nameLines "Free Vars" u.freeVars
    ++ nameLines "Cell Vars" u.cellVars
    ++ sectionLines "Constants" (u.consts.flatMap (constantLines nested))
    ++ sectionLines "Disassembly" (u.instructions.map (instructionLine units u))

/-- The lines of the block of a unit. -/
def unitLines (nested : Nat → Option (List String)) (units : List CodeUnit) (u : CodeUnit) :
    List String :=
  sectionLines "Code" (bodyLines nested units u)

/-- The block of the unit at a position, with `levels` levels of nesting to spare; a position without a unit
    has no lines. -/
def blockLines (units : List CodeUnit) : (levels : Nat) → (position : Nat) → List String
  | 0, position =>
    match units[position]? with
    | some u => unitLines (fun _ => none) units u
    | none => []
  | levels + 1, position =>
    match units[position]? with
    | some u => unitLines (fun child => some (blockLines units levels child)) units u
    | none => []

/-- The block of the unit at a position, without white space at its end. -/
def ofUnit (units : List CodeUnit) (position : Nat) : String :=
  Text.trimEnd (Text.join (blockLines units maxLevels position))

/-- The banner line: the file of the module body and the version. -/
def banner (m : CompiledModule) : String :=
  (match m.units[m.root]? with
   | some u => u.filename
   | none => "") ++ " (Python " ++ m.version.text ++ ")"

/-- The listing of a module. -/
def ofModule (m : CompiledModule) : String :=
  Text.join (banner m :: blockLines m.units maxLevels m.root ++ [""])

end SourceRecovery.Listing
