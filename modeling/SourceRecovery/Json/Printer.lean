/-
Module: SourceRecovery.Json.Printer
Layer: Json
Purpose: JSON text without white space and in ASCII alone: everything else is an escape, a code point above
  the basic plane a pair of them.
Imports: SourceRecovery.Json.Basic, SourceRecovery.Text.Basic
Trusted boundary: none
Main exports: Json.write
Open obligations: none
-/
import SourceRecovery.Json.Basic
import SourceRecovery.Text.Basic

namespace SourceRecovery.Json

/-- A code unit by four hexadecimal digits. -/
def unitEscape (code : Nat) : List Char :=
  '\\' :: 'u' :: Text.hexDigits 4 code

/-- A character of a string. -/
def escape (c : Char) : List Char :=
  let code := c.toNat
  if c == '"' then ['\\', '"']
  else if c == '\\' then ['\\', '\\']
  else if 32 ≤ code && code < 127 then [c]
  else if code < 0x10000 then unitEscape code
  else
    unitEscape (0xd800 + (code - 0x10000) / 0x400) ++ unitEscape (0xdc00 + (code - 0x10000) % 0x400)

/-- A string in quotes. -/
def writeString (s : String) : List Char :=
  '"' :: (s.toList.flatMap escape ++ ['"'])

mutual

/-- The text of a document. -/
def write : Json → List Char
  | .null => "null".toList
  | .bool b => if b then "true".toList else "false".toList
  | .number text => text.toList
  | .str s => writeString s
  | .halfPair => "null".toList
  | .array items => '[' :: (writeItems items ++ [']'])
  | .object fields => '\x7b' :: (writeFields fields ++ ['\x7d'])

/-- The entries of an array, with commas between. -/
def writeItems : List Json → List Char
  | [] => []
  | [item] => write item
  | item :: rest => write item ++ ',' :: writeItems rest

/-- The fields of an object, with commas between. -/
def writeFields : List (String × Json) → List Char
  | [] => []
  | [(name, value)] => writeString name ++ ':' :: write value
  | (name, value) :: rest => writeString name ++ ':' :: (write value ++ ',' :: writeFields rest)

end

/-- The document as a string of text. -/
def text (json : Json) : String :=
  String.ofList json.write

end SourceRecovery.Json
