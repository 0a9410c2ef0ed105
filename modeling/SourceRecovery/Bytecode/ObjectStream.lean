/-
Module: SourceRecovery.Bytecode.ObjectStream
Layer: Bytecode
Purpose: The object stream of an artifact. An object is a byte that names its kind, followed by its
  contents. The high bit of the byte gives the object a number, by which later objects refer to it; the
  number is taken before the contents are read. A code unit goes to the end of the list of units, and what
  the stream then holds is its position. Every reader gives what it has read together with the bytes that
  remain; a fault records how many bytes were left.
Imports: SourceRecovery.Bytecode.CodeUnit, SourceRecovery.Value.Diagnostic, SourceRecovery.Text.Utf8
Trusted boundary: none
Main exports: StreamState, StreamFault, ObjectStream.readObject
Open obligations: none
-/
import SourceRecovery.Bytecode.CodeUnit
import SourceRecovery.Value.Diagnostic
import SourceRecovery.Text.Utf8

namespace SourceRecovery

/-- What can be wrong with an object stream. -/
inductive StreamCause where
  | truncated
  | badLength (length : Int)
  | badFloatText (text : String)
  | tooDeep
  | danglingReference (number : Nat)
  | unknownKind (kind : Char)
  | badIntegerSize (size : Int)
  | notText (what : String) (value : Value)
  | notBytes (what : String) (value : Value)
  | notTuple (what : String) (value : Value)
  | entryNotText (what : String) (value : Value)
  | variableKindsMismatch

/-- A fault: its cause, and the number of bytes that were left when it was met. -/
structure StreamFault where
  cause : StreamCause
  left : Nat

/-- The wording of a cause. -/
def StreamCause.text : StreamCause → String
  | .truncated => "truncated stream"
  | .badLength length => "implausible length " ++ String.ofList (Value.writeInt length)
  | .badFloatText text => "bad float text " ++ Text.Diagnostic.quoteText text
  | .tooDeep => "object nesting too deep"
  | .danglingReference number => "dangling back-reference " ++ toString number
  | .unknownKind kind => "unknown type code " ++ Text.Diagnostic.quoteChar kind
  | .badIntegerSize size => "implausible long size " ++ String.ofList (Value.writeInt size)
  | .notText what value => what ++ " is not a string: " ++ value.literal
  | .notBytes what value => what ++ " is not bytes: " ++ value.literal
  | .notTuple what value => what ++ " is not a tuple: " ++ value.literal
  | .entryNotText what value => what ++ " entry is not a string: " ++ value.literal
  | .variableKindsMismatch => "localsplus names/kinds length mismatch"

/-- The wording of a fault in a stream of `total` bytes. -/
def StreamFault.text (total : Nat) (fault : StreamFault) : String :=
  fault.cause.text ++ " at stream offset " ++ toString (total - fault.left)

/-- Where a reader stands: the bytes that remain, the numbered objects (those under way have no value yet),
    and the units read so far. -/
structure StreamState where
  rest : List UInt8
  refs : List (Option Value) := []
  units : List CodeUnit := []

/-- A reader of an object stream. -/
abbrev StreamReader := StateT StreamState (Except StreamFault)

namespace ObjectStream

/-- Objects may nest this deep. -/
def maxDepth : Nat :=
  200

/-- A fault at the current place. -/
def fault {α : Type} (cause : StreamCause) : StreamReader α :=
  fun s => .error ⟨cause, s.rest.length⟩

/-- The next `count` bytes. -/
def take (count : Nat) : StreamReader (List UInt8) :=
  fun s =>
    let bytes := s.rest.take count
    if bytes.length = count then .ok (bytes, { s with rest := s.rest.drop count })
    else .error ⟨.truncated, s.rest.length⟩

/-- The number whose bytes stand lowest first. -/
def littleEndian : List UInt8 → Nat
  | [] => 0
  | b :: bs => b.toNat + 256 * littleEndian bs

/-- A number of `width` bits read as a signed one. -/
def signed (width n : Nat) : Int :=
  if n < Nat.pow 2 (width - 1) then n else (n : Int) - Nat.pow 2 width

/-- One byte. -/
def readByte : StreamReader Nat := do
  return littleEndian (← take 1)

/-- Four bytes as an unsigned number. -/
def readWord : StreamReader UInt32 := do
  return UInt32.ofNat (littleEndian (← take 4))

/-- Four bytes as a signed number. -/
def readSigned : StreamReader Int := do
  return signed 32 (littleEndian (← take 4))

/-- Eight bytes as a floating-point number. -/
def readDouble : StreamReader Double := do
  return ⟨UInt64.ofNat (littleEndian (← take 8))⟩

/-- A length that what remains of the stream can hold. -/
def readLength : StreamReader Nat := do
  let length ← readSigned
  if length < 0 || (← get).rest.length < length.toNat then fault (.badLength length)
  else return length.toNat

/-- The next `count` bytes as text. -/
def readText (count : Nat) : StreamReader String := do
  return Text.Utf8.decodeLossy (← take count)

/-- A floating-point number as text, with its length in one byte before it. -/
def readFloatText : StreamReader Double := do
  let text ← readText (← readByte)
  match Double.read (Text.Chars.trim text.toList) with
  | .ok x => return x
  | .error _ => fault (.badFloatText text)

/-- The lowest bit of a digit of fifteen bits, counted in 32 bits. -/
def digitPlace (position : Nat) : UInt32 :=
  15 * UInt32.ofNat position

/-- What a digit at a place adds to a sum of 128 bits. -/
def digitPart (place : UInt32) (digit : UInt16) : BitVec 128 :=
  digit.toBitVec.setWidth 128 <<< place.toNat

/-- A signed sum of 128 bits with one more digit. From the place 120 on only zeros leave a sum, and there is
    none when the addition overflows. -/
def addDigit (total : BitVec 128) (place : UInt32) (digit : UInt16) : Option (BitVec 128) :=
  if place < 120 then
    if total.saddOverflow (digitPart place digit) then none else some (total + digitPart place digit)
  else if digit = 0 then some total
  else none

/-- A sum with the digits from a position on, lowest first, each in two bytes. -/
def sumDigits : (position : Nat) → (total : BitVec 128) → List UInt8 → Option (BitVec 128)
  | position, total, low :: high :: rest =>
    match addDigit total (digitPlace position) (UInt16.ofNat (littleEndian [low, high])) with
    | some sum => sumDigits (position + 1) sum rest
    | none => none
  | _, total, _ => some total

/-- A signed number of 128 bits as one of 64 bits, when it fits. -/
def narrow? (n : BitVec 128) : Option Int64 :=
  if -(Nat.pow 2 63 : Int) ≤ n.toInt && n.toInt < Nat.pow 2 63 then some (Int64.ofInt n.toInt) else none

/-- The value of a sum of digits whose number is signed; without a sum, or when it does not fit, it stays
    raw. -/
def integerValue (size : Int) (sum : Option (BitVec 128)) : Value :=
  match (sum.map fun total => if size < 0 then -total else total).bind narrow? with
  | some n => .int n
  | none => .raw ("<int of " ++ toString size.natAbs ++ " digits>")

/-- An integer of any size: a signed number of digits, then the digits. One of more than 64 bits stays
    raw. -/
def readInteger : StreamReader Value := do
  let size ← readSigned
  let count := size.natAbs
  if (← get).rest.length < count * 2 then fault (.badIntegerSize size)
  else return integerValue size (sumDigits 0 0 (← take (count * 2)))

/-- `count` objects. -/
def readMany (object : StreamReader Value) : (count : Nat) → StreamReader (List Value)
  | 0 => return []
  | count + 1 => do
    let first ← object
    return first :: (← readMany object count)

/-- The pairs of a dictionary, up to the byte that ends it. Every pair uses up two bytes at least, so the
    number of bytes that remain is enough fuel. -/
def readPairs (object : StreamReader Value) : (fuel : Nat) → StreamReader (List (Value × Value))
  | 0 => fault .truncated
  | fuel + 1 => do
    let s ← get
    if s.rest.head? = some 48 then
      set { s with rest := s.rest.drop 1 }
      return []
    else
      let key ← object
      let value ← object
      return (key, value) :: (← readPairs object fuel)

/-- A text; a byte string is read as one. -/
def readString (object : StreamReader Value) (what : String) : StreamReader String := do
  match ← object with
  | .str s => return s
  | .bytes bs => return Text.Utf8.decodeLossy bs
  | value => fault (.notText what value)

/-- A byte string. -/
def readBytes (object : StreamReader Value) (what : String) : StreamReader (List UInt8) := do
  match ← object with
  | .bytes bs => return bs
  | value => fault (.notBytes what value)

/-- The entries of a tuple. -/
def readTuple (object : StreamReader Value) (what : String) : StreamReader (List Value) := do
  match ← object with
  | .tuple items => return items
  | value => fault (.notTuple what value)

/-- The texts of a row of values. -/
def textsOf (what : String) : List Value → StreamReader (List String)
  | [] => return []
  | .str s :: rest => do return s :: (← textsOf what rest)
  | value :: _ => fault (.entryNotText what value)

/-- A tuple of texts. -/
def readNames (object : StreamReader Value) (what : String) : StreamReader (List String) := do
  textsOf what (← readTuple object what)

/-- The tables of variables: those of the unit itself, those it takes from outside, and those it shares
    with units inside. -/
structure Variables where
  own : List String
  free : List String
  cell : List String

/-- The names whose kind has the bit. -/
def namesWith (bit : UInt8) (names : List String) (kinds : List UInt8) : List String :=
  ((names.zip kinds).filter fun entry => entry.2 &&& bit != 0).map Prod.fst

/-- The variables of a unit: one table with kinds in modern versions, three tables before. -/
def readVariables (object : StreamReader Value) (version : Version) : StreamReader Variables := do
  if version.isModern then
    let names ← readNames object "co_localsplusnames"
    let kinds ← readBytes object "co_localspluskinds"
    if kinds.length = names.length then
      return ⟨namesWith 0x20 names kinds, namesWith 0x80 names kinds, namesWith 0x40 names kinds⟩
    else fault .variableKindsMismatch
  else
    let own ← readNames object "co_varnames"
    let free ← readNames object "co_freevars"
    let cell ← readNames object "co_cellvars"
    return ⟨own, free, cell⟩

/-- A unit goes to the end of the list; its position is the result. -/
def addUnit (unit : CodeUnit) : StreamReader Nat :=
  fun s => .ok (s.units.length, { s with units := s.units ++ [unit] })

/-- The fields of a code unit, in the order of the version. -/
def readUnit (object : StreamReader Value) (version : Version) : StreamReader Nat := do
  let argCount ← readWord
  let posOnlyCount ← readWord
  let kwOnlyCount ← readWord
  unless version.isModern do
    let _ ← readWord
  let stackSize ← readWord
  let flags ← readWord
  let code ← readBytes object "co_code"
  let consts ← readTuple object "co_consts"
  let names ← readNames object "co_names"
  let tables ← readVariables object version
  let filename ← readString object "co_filename"
  let name ← readString object "co_name"
  let qualname ← if version.isModern then readString object "co_qualname" else pure name
  let firstLine ← readWord
  let _ ← object
  if version.isModern then
    let _ ← object
  addUnit
    { name, qualname, filename, version, firstLine, argCount, posOnlyCount, kwOnlyCount, stackSize, flags
      code
      codeSize := code.length
      instructions := Instruction.decode version code
      consts, names
      varNames := tables.own
      freeVars := tables.free
      cellVars := tables.cell
      children := consts.filterMap Value.code? }

/-- A number for the object that starts here. -/
def reserve : StreamReader Nat :=
  fun s => .ok (s.refs.length, { s with refs := s.refs ++ [none] })

/-- The value of a numbered object, now that it has been read. -/
def finish (number : Nat) (value : Value) : StreamReader Unit :=
  modify fun s => { s with refs := s.refs.set number (some value) }

/-- The object with a given number. -/
def readReference : StreamReader Value := do
  let number := (← readWord).toNat
  match (← get).refs[number]? with
  | some (some value) => return value
  | _ => fault (.danglingReference number)

/-- The contents of an object of a kind other than a reference. -/
def readContents (object : StreamReader Value) (version : Version) (kind : Char) :
    StreamReader Value := do
  match kind with
  | 'N' => return .none
  | 'F' => return .bool false
  | 'T' => return .bool true
  | 'S' => return .raw "StopIteration"
  | '.' => return .ellipsis
  | 'i' => return .int (Int64.ofInt (← readSigned))
  | 'I' => return .int (Int64.ofInt (signed 64 (littleEndian (← take 8))))
  | 'l' => readInteger
  | 'f' => return .float (← readFloatText)
  | 'g' => return .float (← readDouble)
  | 'x' =>
    let re ← readFloatText
    let im ← readFloatText
    return .complex re im
  | 'y' =>
    let re ← readDouble
    let im ← readDouble
    return .complex re im
  | 's' => return .bytes (← take (← readLength))
  | 't' | 'u' | 'a' | 'A' => return .str (← readText (← readLength))
  | 'z' | 'Z' => return .str (← readText (← readByte))
  | '(' => return .tuple (← readMany object (← readLength))
  | ')' => return .tuple (← readMany object (← readByte))
  | '[' => return .list (← readMany object (← readLength))
  | '<' => return .set (← readMany object (← readLength))
  | '>' => return .frozenset (← readMany object (← readLength))
  | '\x7b' =>
    let pairs ← readPairs object ((← get).rest.length + 1)
    return .dict (Value.insertAll [] pairs)
  | 'c' => return .code (← readUnit object version)
  | kind => fault (.unknownKind kind)

/-- An object whose parts are read by `object`. -/
def readWith (object : StreamReader Value) (version : Version) : StreamReader Value := do
  let byte ← readByte
  let kind := Char.ofNat (byte % 128)
  if byte < 128 then
    if kind = 'r' then readReference else readContents object version kind
  else
    let number ← reserve
    if kind = 'r' then readReference
    else
      let value ← readContents object version kind
      finish number value
      return value

/-- An object with room for `room` levels of nesting. -/
def readObject (version : Version) : (room : Nat) → StreamReader Value
  | 0 => fault .tooDeep
  | room + 1 => readWith (readObject version room) version

end ObjectStream

end SourceRecovery
