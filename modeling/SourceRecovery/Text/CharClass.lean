/-
Module: SourceRecovery.Text.CharClass
Layer: Text
Purpose: The character classes that the readers, printers and line scanners share. Each class is decided
  by arithmetic on ASCII and by the tables of the character database beyond it.
Imports: SourceRecovery.Text.LetterTables, SourceRecovery.Text.DisplayTables,
  SourceRecovery.Text.IdentifierTables
Trusted boundary: the imported tables
Main exports: isBlank, isControl, isAlphabetic, isAlphanumeric, isDecimalDigit, isWord, isNameStart,
  isNameContinue, isVisible, extendsGrapheme
Open obligations: none
-/
import SourceRecovery.Text.LetterTables
import SourceRecovery.Text.DisplayTables
import SourceRecovery.Text.IdentifierTables

namespace SourceRecovery.Text

/-- Some closed range of the table holds the code point. -/
def inRanges (table : List (Nat × Nat)) (code : Nat) : Bool :=
  table.any fun range => range.1 ≤ code && code ≤ range.2

/-- White space: the five ASCII controls from tab to carriage return, the space, the next-line control,
    and the Unicode separators. -/
def isBlank (c : Char) : Bool :=
  let code := c.toNat
  (9 ≤ code && code ≤ 13) || code == 32 || code == 0x85 || code == 0xa0 || code == 0x1680
    || (0x2000 ≤ code && code ≤ 0x200a) || code == 0x2028 || code == 0x2029 || code == 0x202f
    || code == 0x205f || code == 0x3000

/-- Control characters: the two blocks of C0 and C1 controls and the delete character. -/
def isControl (c : Char) : Bool :=
  c.toNat < 32 || (127 ≤ c.toNat && c.toNat < 160)

/-- ASCII letters. -/
def isAsciiLetter (c : Char) : Bool :=
  (65 ≤ c.toNat && c.toNat ≤ 90) || (97 ≤ c.toNat && c.toNat ≤ 122)

/-- ASCII digits. -/
def isAsciiDigit (c : Char) : Bool :=
  48 ≤ c.toNat && c.toNat ≤ 57

/-- Letters of any script. -/
def isAlphabetic (c : Char) : Bool :=
  if c.toNat < 128 then isAsciiLetter c else inRanges alphabeticRanges c.toNat

/-- Letters and numbers of any script, letter numbers and fractions included. -/
def isAlphanumeric (c : Char) : Bool :=
  if c.toNat < 128 then isAsciiLetter c || isAsciiDigit c
  else inRanges alphabeticRanges c.toNat || inRanges numericRanges c.toNat

/-- Decimal digits of any script. -/
def isDecimalDigit (c : Char) : Bool :=
  if c.toNat < 128 then isAsciiDigit c else inRanges decimalRanges c.toNat

/-- Characters of a word: letters, marks, decimal digits, connecting punctuation and the two joiners. -/
def isWord (c : Char) : Bool :=
  if c.toNat < 128 then isAsciiLetter c || isAsciiDigit c || c == '_'
  else
    inRanges alphabeticRanges c.toNat || inRanges markRanges c.toNat || inRanges decimalRanges c.toNat
      || inRanges [(0x200c, 0x200d), (0x203f, 0x2040), (0x2054, 0x2054), (0xfe33, 0xfe34),
          (0xfe4d, 0xfe4f), (0xff3f, 0xff3f)] c.toNat

/-- Characters that may start a name in source text. -/
def isNameStart (c : Char) : Bool :=
  if c.toNat < 128 then isAsciiLetter c || c == '_' else inRanges nameStartRanges c.toNat

/-- Characters that may follow the first one of a name in source text. -/
def isNameContinue (c : Char) : Bool :=
  if c.toNat < 128 then isAsciiLetter c || isAsciiDigit c || c == '_'
  else inRanges nameStartRanges c.toNat || inRanges nameContinueRanges c.toNat

/-- Characters a diagnostic may show as they are. -/
def isVisible (c : Char) : Bool :=
  if c.toNat < 128 then 32 ≤ c.toNat && c.toNat < 127 else !inRanges invisibleRanges c.toNat

/-- Characters that attach to the one before them. -/
def extendsGrapheme (c : Char) : Bool :=
  if c.toNat < 128 then false else inRanges extendingRanges c.toNat

end SourceRecovery.Text
