/-
Module: SourceRecovery.Value.Printer
Layer: Value
Purpose: Values as source literals. Texts take single quotes unless that costs an escape that double quotes
  save; control characters and white space other than the blank are escaped; floating-point numbers have
  the fewest digits that read back; a tuple of one entry keeps its comma and an empty set its call form.
Imports: SourceRecovery.Value.Basic, SourceRecovery.Number.Text, SourceRecovery.Text.Basic
Trusted boundary: none
Main exports: Value.write, Value.literal, writeDouble, writeText, writeBytes
Open obligations: none
-/
import SourceRecovery.Value.Basic
import SourceRecovery.Number.Text
import SourceRecovery.Text.Basic

namespace SourceRecovery.Value

/-- An integer in decimal digits, with a sign when negative. -/
def writeInt (n : Int) : List Char :=
  match n with
  | .ofNat m => Nat.toDigits 10 m
  | .negSucc m => '-' :: Nat.toDigits 10 (m + 1)

/-- A floating-point number; values without a numeral are written as calls. -/
def writeDouble (x : Double) : List Char :=
  if x.isNaN then "float('nan')".toList
  else if x.isInfinite then
    if x.isNegative then "-float('inf')".toList else "float('inf')".toList
  else x.writeFinite .literal

/-- A part of a complex number: a whole number goes without its decimal place. -/
def writePart (x : Double) : List Char :=
  let text := writeDouble x
  if Text.Chars.endsWith ['.', '0'] text then text.take (text.length - 2) else text

/-- A complex number. Only a real part of positive zero is left out. -/
def writeComplex (re im : Double) : List Char :=
  let imaginary := writePart im
  if re.isZero && !re.isNegative then imaginary ++ ['j']
  else
    let sign := if imaginary.head? == some '-' then [] else ['+']
    '(' :: (writePart re ++ sign ++ imaginary ++ ['j', ')'])

/-- Single quotes, or double quotes when only single quotes occur inside. -/
def pickQuote (hasSingle hasDouble : Bool) : Char :=
  if hasSingle && !hasDouble then '"' else '\''

/-- A character by its code point, in the shortest of the three escape forms. -/
def codePointEscape (c : Char) : List Char :=
  let code := c.toNat
  if code ≤ 0xff then '\\' :: 'x' :: Text.hexDigits 2 code
  else if code ≤ 0xffff then '\\' :: 'u' :: Text.hexDigits 4 code
  else '\\' :: 'U' :: Text.hexDigits 8 code

/-- A character of a text between quotes. -/
def escapeChar (quote c : Char) : List Char :=
  if c == '\\' then ['\\', '\\']
  else if c == '\n' then ['\\', 'n']
  else if c == '\r' then ['\\', 'r']
  else if c == '\t' then ['\\', 't']
  else if c == quote then ['\\', c]
  else if Text.isControl c || (Text.isBlank c && c != ' ') then codePointEscape c
  else [c]

/-- A text in quotes. -/
def writeText (s : String) : List Char :=
  let cs := s.toList
  let quote := pickQuote (cs.contains '\'') (cs.contains '"')
  quote :: (cs.flatMap (escapeChar quote) ++ [quote])

/-- A byte of a byte string between quotes: visible ASCII as it is, the rest by number. -/
def escapeByte (quote : Char) (b : UInt8) : List Char :=
  let c := Char.ofNat b.toNat
  if c == '\\' then ['\\', '\\']
  else if c == '\n' then ['\\', 'n']
  else if c == '\r' then ['\\', 'r']
  else if c == '\t' then ['\\', 't']
  else if c == quote then ['\\', c]
  else if 0x20 ≤ b.toNat && b.toNat ≤ 0x7e then [c]
  else '\\' :: 'x' :: Text.hexDigits 2 b.toNat

/-- A byte string in quotes. -/
def writeBytes (bs : List UInt8) : List Char :=
  let quote := pickQuote (bs.contains 39) (bs.contains 34)
  'b' :: quote :: (bs.flatMap (escapeByte quote) ++ [quote])

mutual

/-- The value as a source literal. Code units and raw text have no literal and are only shown. -/
def write : Value → List Char
  | .none => "None".toList
  | .bool b => if b then "True".toList else "False".toList
  | .int n => writeInt n.toInt
  | .float x => writeDouble x
  | .complex re im => writeComplex re im
  | .str s => writeText s
  | .bytes bs => writeBytes bs
  | .ellipsis => "...".toList
  | .tuple items => '(' :: (writeItems items ++ (if items.length = 1 then [',', ')'] else [')']))
  | .list items => '[' :: (writeItems items ++ [']'])
  | .set items =>
    if items.isEmpty then "set()".toList else '\x7b' :: (writeItems items ++ ['\x7d'])
  | .frozenset items =>
    if items.isEmpty then "frozenset()".toList
    else "frozenset(\x7b".toList ++ writeItems items ++ ['\x7d', ')']
  | .dict pairs => '\x7b' :: (writePairs pairs ++ ['\x7d'])
  | .code unit => "<code object #".toList ++ Nat.toDigits 10 unit ++ ['>']
  | .raw text => text.toList

/-- Values with a comma and a blank between any two. -/
def writeItems : List Value → List Char
  | [] => []
  | v :: rest => write v ++ writeMore rest

/-- The values after the first one. -/
def writeMore : List Value → List Char
  | [] => []
  | v :: rest => ',' :: ' ' :: (write v ++ writeMore rest)

/-- Pairs with a comma and a blank between any two. -/
def writePairs : List (Value × Value) → List Char
  | [] => []
  | (k, v) :: rest => write k ++ ':' :: ' ' :: (write v ++ writeMorePairs rest)

/-- The pairs after the first one. -/
def writeMorePairs : List (Value × Value) → List Char
  | [] => []
  | (k, v) :: rest => ',' :: ' ' :: (write k ++ ':' :: ' ' :: (write v ++ writeMorePairs rest))

end

/-- The value as a source literal. -/
def literal (v : Value) : String :=
  String.ofList v.write

end SourceRecovery.Value
