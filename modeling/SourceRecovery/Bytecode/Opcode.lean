/-
Module: SourceRecovery.Bytecode.Opcode
Layer: Bytecode
Purpose: The operations that constant recovery and the search for class members look at, by byte and by
  mnemonic. Every other operation keeps its byte.
Imports: SourceRecovery.Bytecode.Version, SourceRecovery.Number.Text
Trusted boundary: none
Main exports: Opcode, Opcode.ofByte, Opcode.ofName, Opcode.name, Opcode.buildsLiteral
Open obligations: none
-/
import SourceRecovery.Bytecode.Version
import SourceRecovery.Number.Text

namespace SourceRecovery

/-- An operation of the interpreter. -/
inductive Opcode where
  | cache
  | resume
  | loadConst
  | loadName
  | storeName
  | storeGlobal
  | buildTuple
  | buildList
  | buildSet
  | buildMap
  | buildConstKeyMap
  | mapAdd
  | dictUpdate
  | listExtend
  | setUpdate
  | listAppend
  | setAdd
  | returnValue
  | returnConst
  | extendedArg
  | other (byte : UInt8)
deriving DecidableEq, Repr, Inhabited

namespace Opcode

/-- The operation of a byte; some bytes have their meaning only from a version on. -/
def ofByte (version : Version) (byte : UInt8) : Opcode :=
  match byte with
  | 0 => if version.atLeast 3 11 then .cache else .other 0
  | 83 => .returnValue
  | 90 => .storeName
  | 97 => .storeGlobal
  | 100 => .loadConst
  | 101 => .loadName
  | 102 => .buildTuple
  | 103 => .buildList
  | 104 => .buildSet
  | 105 => .buildMap
  | 121 => if version.atLeast 3 12 then .returnConst else .other 121
  | 144 => .extendedArg
  | 145 => .listAppend
  | 146 => .setAdd
  | 147 => .mapAdd
  | 151 => if version.atLeast 3 11 then .resume else .other 151
  | 156 => .buildConstKeyMap
  | 162 => if version.atLeast 3 9 then .listExtend else .other 162
  | 163 => if version.atLeast 3 9 then .setUpdate else .other 163
  | 165 => if version.atLeast 3 9 then .dictUpdate else .other 165
  | byte => .other byte

/-- The operations with a mnemonic of their own. -/
def named : List (String × Opcode) :=
  [("CACHE", .cache), ("RESUME", .resume), ("LOAD_CONST", .loadConst), ("LOAD_NAME", .loadName),
   ("STORE_NAME", .storeName), ("STORE_GLOBAL", .storeGlobal), ("BUILD_TUPLE", .buildTuple),
   ("BUILD_LIST", .buildList), ("BUILD_SET", .buildSet), ("BUILD_MAP", .buildMap),
   ("BUILD_CONST_KEY_MAP", .buildConstKeyMap), ("MAP_ADD", .mapAdd), ("DICT_UPDATE", .dictUpdate),
   ("LIST_EXTEND", .listExtend), ("SET_UPDATE", .setUpdate), ("LIST_APPEND", .listAppend),
   ("SET_ADD", .setAdd), ("RETURN_VALUE", .returnValue), ("RETURN_CONST", .returnConst),
   ("EXTENDED_ARG", .extendedArg)]

/-- The operation of a numbered mnemonic; a mnemonic that means nothing here is the last byte. -/
def ofNumbered (name : List Char) : Opcode :=
  match Text.Chars.dropPattern? "OPCODE_".toList name with
  | none => .other 255
  | some digits =>
    match readUnsigned 10 256 digits with
    | .ok n => .other (UInt8.ofNat n)
    | .error _ => .other 255

/-- The operation of a mnemonic. -/
def ofName (name : String) : Opcode :=
  match named.lookup name with
  | some op => op
  | none => ofNumbered name.toList

/-- The mnemonic of an operation. -/
def name : Opcode → String
  | .cache => "CACHE"
  | .resume => "RESUME"
  | .loadConst => "LOAD_CONST"
  | .loadName => "LOAD_NAME"
  | .storeName => "STORE_NAME"
  | .storeGlobal => "STORE_GLOBAL"
  | .buildTuple => "BUILD_TUPLE"
  | .buildList => "BUILD_LIST"
  | .buildSet => "BUILD_SET"
  | .buildMap => "BUILD_MAP"
  | .buildConstKeyMap => "BUILD_CONST_KEY_MAP"
  | .mapAdd => "MAP_ADD"
  | .dictUpdate => "DICT_UPDATE"
  | .listExtend => "LIST_EXTEND"
  | .setUpdate => "SET_UPDATE"
  | .listAppend => "LIST_APPEND"
  | .setAdd => "SET_ADD"
  | .returnValue => "RETURN_VALUE"
  | .returnConst => "RETURN_CONST"
  | .extendedArg => "EXTENDED_ARG"
  | .other byte => "OPCODE_" ++ toString byte.toNat

/-- The operations that only build a literal from what lies on the stack. -/
def buildsLiteral : Opcode → Bool
  | .loadConst | .buildTuple | .buildList | .buildSet | .buildMap | .buildConstKeyMap | .mapAdd
  | .dictUpdate | .listExtend | .setUpdate | .listAppend | .setAdd => true
  | _ => false

/-- The operations that bind a name of the unit. -/
def stores : Opcode → Bool
  | .storeName | .storeGlobal => true
  | _ => false

end Opcode

end SourceRecovery
