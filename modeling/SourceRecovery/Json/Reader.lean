/-
Module: SourceRecovery.Json.Reader
Layer: Json
Purpose: Reading JSON text. Every reader gives a document and the text that remains after it. The fuel of
  the nested readers is computed from the length of the text.
Imports: SourceRecovery.Json.Basic, SourceRecovery.Number.Text
Trusted boundary: none
Main exports: Json.read?
Open obligations: none
-/
import SourceRecovery.Json.Basic
import SourceRecovery.Number.Text

namespace SourceRecovery.Json

/-- The four characters that may stand between tokens. -/
def isSpace (c : Char) : Bool :=
  c == ' ' || c == '\t' || c == '\n' || c == '\r'

/-- The text after white space. -/
def skip (cs : List Char) : List Char :=
  cs.dropWhile isSpace

/-- One or more digits. -/
def readDigits? (cs : List Char) : Option (List Char × List Char) :=
  let digits := cs.takeWhile Text.isAsciiDigit
  if digits.isEmpty then none else some (digits, cs.dropWhile Text.isAsciiDigit)

/-- The integer part of a number: a zero, or digits that start with another one. -/
def readWhole? : List Char → Option (List Char × List Char)
  | '0' :: rest => some (['0'], rest)
  | cs => readDigits? cs

/-- The decimal places of a number, if any. -/
def readPlaces? : List Char → Option (List Char × List Char)
  | '.' :: rest => (readDigits? rest).map fun read => ('.' :: read.1, read.2)
  | cs => some ([], cs)

/-- The exponent of a number, if any. -/
def readExponent? : List Char → Option (List Char × List Char)
  | mark :: rest =>
    if mark == 'e' || mark == 'E' then
      match rest with
      | '+' :: digits => (readDigits? digits).map fun read => (mark :: '+' :: read.1, read.2)
      | '-' :: digits => (readDigits? digits).map fun read => (mark :: '-' :: read.1, read.2)
      | _ => (readDigits? rest).map fun read => (mark :: read.1, read.2)
    else some ([], mark :: rest)
  | [] => some ([], [])

/-- A number, kept as its text. -/
def readNumber? (cs : List Char) : Option (Json × List Char) := do
  let (sign, unsigned) :=
    match cs with
    | '-' :: rest => (['-'], rest)
    | _ => ([], cs)
  let (whole, afterWhole) ← readWhole? unsigned
  let (places, afterPlaces) ← readPlaces? afterWhole
  let (exponent, rest) ← readExponent? afterPlaces
  return (.number (String.ofList (sign ++ whole ++ places ++ exponent)), rest)

/-- A unit of a string: a character, or a surrogate that needs its partner. -/
inductive StringUnit where
  | char (c : Char)
  | high (code : Nat)
  | low (code : Nat)

/-- The unit with a given code. -/
def StringUnit.ofCode (code : Nat) : StringUnit :=
  if 0xd800 ≤ code && code < 0xdc00 then .high code
  else if 0xdc00 ≤ code && code < 0xe000 then .low code
  else .char (Char.ofNat code)

/-- What follows a backslash. -/
def readEscape? : List Char → Option (StringUnit × List Char)
  | '"' :: rest => some (.char '"', rest)
  | '\\' :: rest => some (.char '\\', rest)
  | '/' :: rest => some (.char '/', rest)
  | 'b' :: rest => some (.char '\x08', rest)
  | 'f' :: rest => some (.char '\x0c', rest)
  | 'n' :: rest => some (.char '\n', rest)
  | 'r' :: rest => some (.char '\r', rest)
  | 't' :: rest => some (.char '\t', rest)
  | 'u' :: a :: b :: c :: d :: rest =>
    (digitsValue? 16 0 [a, b, c, d]).map fun code => (.ofCode code, rest)
  | _ => none

/-- The units of a string after its opening quote. -/
def readUnits? : (fuel : Nat) → List Char → Option (List StringUnit × List Char)
  | 0, _ => none
  | _ + 1, [] => none
  | fuel + 1, c :: cs =>
    if c == '"' then some ([], cs)
    else if c == '\\' then
      match readEscape? cs with
      | none => none
      | some (unit, rest) => (readUnits? fuel rest).map fun read => (unit :: read.1, read.2)
    else if c.toNat < 32 then none
    else (readUnits? fuel cs).map fun read => (.char c :: read.1, read.2)

/-- The text of a row of units, when every surrogate has its partner. -/
def textOfUnits? : List StringUnit → Option (List Char)
  | [] => some []
  | .char c :: rest => (textOfUnits? rest).map (c :: ·)
  | .high high :: .low low :: rest =>
    (textOfUnits? rest).map (Char.ofNat (0x10000 + (high - 0xd800) * 0x400 + (low - 0xdc00)) :: ·)
  | _ => none

/-- A string after its opening quote. -/
def readString? (cs : List Char) : Option (Json × List Char) := do
  let (units, rest) ← readUnits? (cs.length + 1) cs
  match textOfUnits? units with
  | some chars => return (.str (String.ofList chars), rest)
  | none => return (.halfPair, rest)

/-- A given word. -/
def readWord? (word : String) (json : Json) (cs : List Char) : Option (Json × List Char) :=
  (Text.Chars.dropPattern? word.toList cs).map fun rest => (json, rest)

mutual

/-- A document. -/
def readValue? : (fuel : Nat) → List Char → Option (Json × List Char)
  | 0, _ => none
  | fuel + 1, cs =>
    match skip cs with
    | [] => none
    | '"' :: rest => readString? rest
    | '[' :: rest =>
      match skip rest with
      | ']' :: final => some (.array [], final)
      | inside => (readItems? fuel inside).map fun read => (.array read.1, read.2)
    | '\x7b' :: rest =>
      match skip rest with
      | '\x7d' :: final => some (.object [], final)
      | inside => (readFields? fuel inside).map fun read => (.object read.1, read.2)
    | 't' :: rest => readWord? "rue" (.bool true) rest
    | 'f' :: rest => readWord? "alse" (.bool false) rest
    | 'n' :: rest => readWord? "ull" .null rest
    | text => readNumber? text

/-- The entries of an array, up to its closing bracket. -/
def readItems? : (fuel : Nat) → List Char → Option (List Json × List Char)
  | 0, _ => none
  | fuel + 1, cs =>
    match readValue? fuel cs with
    | none => none
    | some (item, afterItem) =>
      match skip afterItem with
      | ']' :: rest => some ([item], rest)
      | ',' :: rest => (readItems? fuel rest).map fun read => (item :: read.1, read.2)
      | _ => none

/-- The fields of an object, up to its closing brace. -/
def readFields? : (fuel : Nat) → List Char → Option (List (String × Json) × List Char)
  | 0, _ => none
  | fuel + 1, cs =>
    match skip cs with
    | '"' :: afterQuote =>
      match readString? afterQuote with
      | some (.str name, afterName) =>
        match skip afterName with
        | ':' :: afterColon =>
          match readValue? fuel afterColon with
          | none => none
          | some (value, afterValue) =>
            match skip afterValue with
            | '\x7d' :: rest => some ([(name, value)], rest)
            | ',' :: rest => (readFields? fuel rest).map fun read => ((name, value) :: read.1, read.2)
            | _ => none
        | _ => none
      | _ => none
    | _ => none

end

/-- The document that makes up a whole text, white space apart. -/
def read? (text : String) : Option Json :=
  let cs := text.toList
  match readValue? (2 * cs.length + 2) cs with
  | some (json, rest) => if (skip rest).isEmpty then some json else none
  | none => none

end SourceRecovery.Json
