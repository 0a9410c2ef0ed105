/-
Module: SourceRecovery.Text.Basic
Layer: Text
Purpose: The text operations of the library on `String`, each read through the list of characters.
Imports: SourceRecovery.Text.Chars
Trusted boundary: none
Main exports: trim, trimEnd, isBlankText, split, join, lines, contains, startsWith, endsWith, occurrences,
  indentWidth, hexText
Open obligations: none
-/
import SourceRecovery.Text.Chars

namespace SourceRecovery.Text

/-- The text without white space at either end. -/
def trim (s : String) : String :=
  String.ofList (Chars.trim s.toList)

/-- The text without leading white space. -/
def trimStart (s : String) : String :=
  String.ofList (Chars.trimStart s.toList)

/-- The text without trailing white space. -/
def trimEnd (s : String) : String :=
  String.ofList (Chars.trimEnd s.toList)

/-- Nothing but white space. -/
def isBlankText (s : String) : Bool :=
  Chars.allBlank s.toList

/-- The pieces of a text between line feeds; there is always one piece. -/
def split (s : String) : List String :=
  (s.toList.splitOn '\n').map String.ofList

/-- The pieces with a line feed between any two. -/
def join (pieces : List String) : String :=
  String.ofList (['\n'].intercalate (pieces.map String.toList))

/-- The pieces with a separator between any two. -/
def joinWith (sep : String) (pieces : List String) : String :=
  String.ofList (sep.toList.intercalate (pieces.map String.toList))

/-- The lines of a text: a carriage return before a line feed belongs to the line end, and a line feed at
    the very end opens no further line. -/
def lines (s : String) : List String :=
  (Chars.lines s.toList).map String.ofList

/-- `pattern` stands somewhere in the text. -/
def contains (s pattern : String) : Bool :=
  Chars.contains pattern.toList s.toList

/-- `pattern` stands at the front of the text. -/
def startsWith (s pattern : String) : Bool :=
  Chars.startsWith pattern.toList s.toList

/-- `pattern` stands at the end of the text. -/
def endsWith (s pattern : String) : Bool :=
  Chars.endsWith pattern.toList s.toList

/-- The number of occurrences of a pattern that do not overlap. -/
def occurrences (s pattern : String) : Nat :=
  Chars.occurrences pattern.toList s.toList

/-- The number of bytes of leading white space. -/
def indentWidth (line : String) : Nat :=
  Chars.indentWidth line.toList

/-- The text `count` times in a row. -/
def repeated (c : Char) (count : Nat) : String :=
  String.ofList (List.replicate count c)

/-- A number in small hexadecimal digits, filled with zeros up to `width`. -/
def hexDigits (width n : Nat) : List Char :=
  let digits := Nat.toDigits 16 n
  List.replicate (width - digits.length) '0' ++ digits

/-- The order of two texts by code points. -/
def le (a b : String) : Bool :=
  Chars.le a.toList b.toList

end SourceRecovery.Text
