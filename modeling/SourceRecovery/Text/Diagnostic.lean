/-
Module: SourceRecovery.Text.Diagnostic
Layer: Text
Purpose: Quoting for diagnostics. A quoted text shows visible characters as they are and everything else
  as an escape, so that a message stays on one line whatever text it reports.
Imports: SourceRecovery.Text.Basic
Trusted boundary: none
Main exports: quoteText, quoteChar
Open obligations: none
-/
import SourceRecovery.Text.Basic

namespace SourceRecovery.Text.Diagnostic

/-- A character by its code point, in braces. -/
def codePointEscape (c : Char) : List Char :=
  "\\u\x7b".toList ++ Nat.toDigits 16 c.toNat ++ ['\x7d']

/-- A character inside a quotation by `quote`. -/
def escape (quote c : Char) : List Char :=
  if c == '\x00' then ['\\', '0']
  else if c == '\t' then ['\\', 't']
  else if c == '\r' then ['\\', 'r']
  else if c == '\n' then ['\\', 'n']
  else if c == '\\' then ['\\', '\\']
  else if c == quote then ['\\', c]
  else if extendsGrapheme c then codePointEscape c
  else if isVisible c then [c]
  else codePointEscape c

/-- A text in double quotes. -/
def quoteText (s : String) : String :=
  String.ofList ('"' :: (s.toList.flatMap (escape '"') ++ ['"']))

/-- A character in single quotes. -/
def quoteChar (c : Char) : String :=
  String.ofList ('\'' :: (escape '\'' c ++ ['\'']))

/-- A list of entries already written, in square brackets. -/
def bracketed (entries : List String) : String :=
  "[" ++ Text.joinWith ", " entries ++ "]"

end SourceRecovery.Text.Diagnostic
