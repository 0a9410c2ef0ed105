/-
Module: SourceRecovery.Proofs.ObjectEncoding
Layer: Proofs
Purpose: What it means for bytes to encode a value in an object stream. One value has many encodings: any of
  its objects may carry a number, an object that is finished may be written as a reference to its number,
  and integers, texts and tuples have longer and shorter forms.
Imports: Mathlib.Algebra.Group.Int.Defs, Mathlib.Algebra.Group.Nat.Defs, SourceRecovery.Bytecode.ObjectStream,
  SourceRecovery.Proofs.DictionaryKeys
Trusted boundary: none
Main exports: ObjectStream.Scalar, ObjectStream.Contents, ObjectStream.Object, ObjectStream.Encodes
Open obligations: none
-/
import Mathlib.Algebra.Group.Int.Defs
import Mathlib.Algebra.Group.Nat.Defs
import SourceRecovery.Bytecode.ObjectStream
import SourceRecovery.Proofs.DictionaryKeys

namespace SourceRecovery.ObjectStream

/-! ### Numbers -/

/-- A number in `count` bytes, lowest first. -/
def littleBytes : (count n : Nat) → List UInt8
  | 0, _ => []
  | count + 1, n => UInt8.ofNat n :: littleBytes count (n / 256)

/-- A signed number in `count` bytes, lowest first, in two's complement. -/
def signedBytes (count : Nat) (n : Int) : List UInt8 :=
  littleBytes count (n % (256 ^ count : Nat)).toNat

/-- The number of digits of fifteen bits, lowest first. -/
def fifteenBitNumber : List Nat → Nat
  | [] => 0
  | digit :: rest => digit + 2 ^ 15 * fifteenBitNumber rest

/-! ### Encodings -/

/-- The bytes are the contents of an object of the kind that has no parts. -/
inductive Scalar : (kind : Char) → Value → List UInt8 → Prop
  | none : Scalar 'N' .none []
  | true : Scalar 'T' (.bool true) []
  | false : Scalar 'F' (.bool false) []
  | ellipsis : Scalar '.' .ellipsis []
  | short (n : Int64) (least : -2 ^ 31 ≤ n.toInt) (below : n.toInt < 2 ^ 31) :
      Scalar 'i' (.int n) (signedBytes 4 n.toInt)
  | long (n : Int64) : Scalar 'I' (.int n) (signedBytes 8 n.toInt)
  | digits (n : Int64) (digits : List Nat) (small : ∀ digit ∈ digits, digit < 2 ^ 15)
      (count : digits.length < 2 ^ 31) (isNumber : n.toInt = fifteenBitNumber digits) :
      Scalar 'l' (.int n) (signedBytes 4 digits.length ++ digits.flatMap (littleBytes 2))
  | negativeDigits (n : Int64) (digits : List Nat) (small : ∀ digit ∈ digits, digit < 2 ^ 15)
      (count : digits.length < 2 ^ 31) (isNumber : n.toInt = -fifteenBitNumber digits) :
      Scalar 'l' (.int n) (signedBytes 4 (-digits.length) ++ digits.flatMap (littleBytes 2))
  | float (x : Double) : Scalar 'g' (.float x) (littleBytes 8 x.bits.toNat)
  | complex (re im : Double) :
      Scalar 'y' (.complex re im) (littleBytes 8 re.bits.toNat ++ littleBytes 8 im.bits.toNat)
  | bytes (bs : List UInt8) (size : bs.length < 2 ^ 31) :
      Scalar 's' (.bytes bs) (littleBytes 4 bs.length ++ bs)
  | text (kind : Char) (s : String) (isText : kind ∈ ['t', 'u', 'a', 'A'])
      (size : (Text.Utf8.encode s).length < 2 ^ 31) :
      Scalar kind (.str s) (littleBytes 4 (Text.Utf8.encode s).length ++ Text.Utf8.encode s)
  | shortText (kind : Char) (s : String) (isText : kind ∈ ['z', 'Z'])
      (size : (Text.Utf8.encode s).length < 2 ^ 8) :
      Scalar kind (.str s) (littleBytes 1 (Text.Utf8.encode s).length ++ Text.Utf8.encode s)

/-- The kinds of objects that are a row of objects with its length before it. -/
inductive Row : (kind : Char) → (List Value → Value) → Prop
  | tuple : Row '(' .tuple
  | list : Row '[' .list
  | set : Row '<' .set
  | frozenset : Row '>' .frozenset

/-- The numbered objects so far; those under way have no value yet. -/
abbrev Table := List (Option Value)

/-- What encodes a value: `part table value bytes numbered` says that the bytes are an encoding of the value
    when the objects of the table are numbered already, and that they number further objects, whose values
    are `numbered`, in the order of their first bytes. -/
abbrev Encoding := Table → Value → List UInt8 → List Value → Prop

/-- The bytes encode a row of values, one behind the other. -/
inductive Items (part : Encoding) : Table → List Value → List UInt8 → List Value → Prop
  | nil (table : Table) : Items part table [] [] []
  | cons {table : Table} {v : Value} {items : List Value} {bytes more : List UInt8}
      {numbered others : List Value} (first : part table v bytes numbered)
      (rest : Items part (table ++ numbered.map some) items more others) :
      Items part table (v :: items) (bytes ++ more) (numbered ++ others)

/-- Keys and values in turn. -/
def entries (pairs : List (Value × Value)) : List Value :=
  pairs.flatMap fun entry => [entry.1, entry.2]

/-- The bytes are the contents of an object of the kind. -/
inductive Contents (part : Encoding) : Table → (kind : Char) → Value → List UInt8 → List Value → Prop
  | scalar {table : Table} {kind : Char} {v : Value} {bytes : List UInt8} (written : Scalar kind v bytes) :
      Contents part table kind v bytes []
  | row {table : Table} {kind : Char} {make : List Value → Value} {items : List Value}
      {bytes : List UInt8} {numbered : List Value} (isRow : Row kind make) (size : items.length < 2 ^ 31)
      (written : Items part table items bytes numbered) :
      Contents part table kind (make items) (littleBytes 4 items.length ++ bytes) numbered
  | shortTuple {table : Table} {items : List Value} {bytes : List UInt8} {numbered : List Value}
      (size : items.length < 2 ^ 8) (written : Items part table items bytes numbered) :
      Contents part table ')' (.tuple items) (littleBytes 1 items.length ++ bytes) numbered
  | dict {table : Table} {pairs : List (Value × Value)} {bytes : List UInt8} {numbered : List Value}
      (distinct : Value.DistinctKeys pairs) (written : Items part table (entries pairs) bytes numbered) :
      Contents part table '\x7b' (.dict pairs) (bytes ++ littleBytes 1 48) numbered

/-- The bytes are an object: its kind and its contents, or a reference to a finished object. An object with a
    number takes it before its contents. -/
inductive Object (part : Encoding) : Encoding
  | plain {table : Table} {kind : Char} {v : Value} {bytes : List UInt8} {numbered : List Value}
      (contents : Contents part table kind v bytes numbered) :
      Object part table v (littleBytes 1 kind.toNat ++ bytes) numbered
  | flagged {table : Table} {kind : Char} {v : Value} {bytes : List UInt8} {numbered : List Value}
      (contents : Contents part (table ++ [none]) kind v bytes numbered) :
      Object part table v (littleBytes 1 (kind.toNat + 128) ++ bytes) (v :: numbered)
  | reference {table : Table} {v : Value} {number : Nat} (finished : table[number]? = some (some v))
      (size : number < 2 ^ 32) :
      Object part table v (littleBytes 1 'r'.toNat ++ littleBytes 4 number) []

/-- The bytes encode the value, with objects nested at most `room` deep. -/
def Encodes : (room : Nat) → Encoding
  | 0 => fun _ _ _ _ => False
  | room + 1 => Object (Encodes room)

end SourceRecovery.ObjectStream
