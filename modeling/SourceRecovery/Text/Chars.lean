/-
Module: SourceRecovery.Text.Chars
Layer: Text
Purpose: Operations on a text as its list of characters: trimming, lines, search, replacement and the
  length in UTF-8 bytes. The operations on `String` in `SourceRecovery.Text.Basic` are these, read
  through `String.toList`.
Imports: SourceRecovery.Text.CharClass
Trusted boundary: none
Main exports: trimStart, trimEnd, trim, allBlank, lines, words, startsWith, endsWith, contains,
  occurrences, replace, splitOnce, byteLength
Open obligations: none
-/
import SourceRecovery.Text.CharClass

namespace SourceRecovery.Text.Chars

/-- A property of the characters of a text is decided along the text, not over all characters. -/
instance (priority := high) decidableForallMem {p : Char → Prop} [DecidablePred p] (cs : List Char) :
    Decidable (∀ c ∈ cs, p c) :=
  List.decidableBAll p cs

/-- A property of the character that may stand in a place is decided there. -/
instance (priority := high) decidableForallMemOption {p : Char → Prop} [DecidablePred p]
    (place : Option Char) : Decidable (∀ c ∈ place, p c) :=
  place.decidableForallMem

/-- The text without the characters of the class at its end. -/
def dropEndWhile (p : Char → Bool) (cs : List Char) : List Char :=
  (cs.reverse.dropWhile p).reverse

/-- The text without leading white space. -/
def trimStart (cs : List Char) : List Char :=
  cs.dropWhile isBlank

/-- The text without trailing white space. -/
def trimEnd (cs : List Char) : List Char :=
  dropEndWhile isBlank cs

/-- The text without white space at either end. -/
def trim (cs : List Char) : List Char :=
  trimEnd (trimStart cs)

/-- Nothing but white space. -/
def allBlank (cs : List Char) : Bool :=
  cs.all isBlank

/-- The number of bytes of the text in UTF-8. -/
def byteLength (cs : List Char) : Nat :=
  cs.foldl (fun total c => total + c.utf8Size) 0

/-- The order of two texts by code points. -/
def le : List Char → List Char → Bool
  | [], _ => true
  | _ :: _, [] => false
  | a :: as, b :: bs => if a == b then le as bs else a.toNat < b.toNat

/-- `pattern` stands at the front of the text. -/
def startsWith (pattern cs : List Char) : Bool :=
  pattern.isPrefixOf cs

/-- `pattern` stands at the end of the text. -/
def endsWith (pattern cs : List Char) : Bool :=
  pattern.isSuffixOf cs

/-- The text after `pattern`, when it starts with it. -/
def dropPattern? : (pattern cs : List Char) → Option (List Char)
  | [], cs => some cs
  | _ :: _, [] => none
  | p :: ps, c :: cs => if p == c then dropPattern? ps cs else none

/-- `pattern` stands somewhere in the text. -/
def contains (pattern : List Char) : List Char → Bool
  | [] => pattern.isEmpty
  | c :: cs => pattern.isPrefixOf (c :: cs) || contains pattern cs

/-- The text before the first occurrence of `pattern` and the text after it. -/
def splitAt? (pattern : List Char) : List Char → Option (List Char × List Char)
  | [] => if pattern.isEmpty then some ([], []) else none
  | c :: cs =>
    match dropPattern? pattern (c :: cs) with
    | some rest => some ([], rest)
    | none =>
      match splitAt? pattern cs with
      | some (before, rest) => some (c :: before, rest)
      | none => none

/-- The text before the first `sep` and the text after it. -/
def splitOnce (sep : Char) : List Char → Option (List Char × List Char)
  | [] => none
  | c :: cs =>
    if c == sep then some ([], cs)
    else
      match splitOnce sep cs with
      | some (before, rest) => some (c :: before, rest)
      | none => none

/-- Occurrences of a non-empty pattern, counted from left to right without overlap; `skip` characters are
    still covered by the last one. -/
def occurrencesFrom (pattern : List Char) : (skip : Nat) → List Char → Nat
  | _, [] => 0
  | skip + 1, _ :: cs => occurrencesFrom pattern skip cs
  | 0, c :: cs =>
    if pattern.isPrefixOf (c :: cs) then occurrencesFrom pattern (pattern.length - 1) cs + 1
    else occurrencesFrom pattern 0 cs

/-- Occurrences of a pattern that do not overlap. The empty pattern stands before every character and at
    the end. -/
def occurrences (pattern cs : List Char) : Nat :=
  if pattern.isEmpty then cs.length + 1 else occurrencesFrom pattern 0 cs

/-- Replacement of a non-empty pattern from left to right; `skip` characters belong to the occurrence
    already replaced. -/
def replaceFrom (pattern substitute : List Char) : (skip : Nat) → List Char → List Char
  | _, [] => []
  | skip + 1, _ :: cs => replaceFrom pattern substitute skip cs
  | 0, c :: cs =>
    if pattern.isPrefixOf (c :: cs) then substitute ++ replaceFrom pattern substitute (pattern.length - 1) cs
    else c :: replaceFrom pattern substitute 0 cs

/-- The text with every occurrence of a non-empty pattern replaced; an empty pattern changes nothing. -/
def replace (pattern substitute cs : List Char) : List Char :=
  if pattern.isEmpty then cs else replaceFrom pattern substitute 0 cs

/-- One carriage return at the end of a line belongs to its line end. -/
def dropReturn (line : List Char) : List Char :=
  if line.getLast? == some '\r' then line.dropLast else line

/-- The pieces of a text between line feeds, seen as lines: a carriage return before a line feed belongs to
    the line end, and a line feed at the very end opens no further line. -/
def linesOfPieces : List (List Char) → List (List Char)
  | [] => []
  | [last] => if last.isEmpty then [] else [last]
  | piece :: rest => dropReturn piece :: linesOfPieces rest

/-- The lines of a text. -/
def lines (cs : List Char) : List (List Char) :=
  linesOfPieces (cs.splitOn '\n')

/-- The number of bytes of leading white space. -/
def indentWidth (line : List Char) : Nat :=
  byteLength (line.takeWhile isBlank)

/-- The text after its first `size` bytes, when they end where a character ends. -/
def dropBytes? : (size : Nat) → List Char → Option (List Char)
  | 0, cs => some cs
  | _ + 1, [] => none
  | size + 1, c :: cs => if c.utf8Size ≤ size + 1 then dropBytes? (size + 1 - c.utf8Size) cs else none

/-- The text up to the first white space. -/
def firstWord (cs : List Char) : List Char :=
  cs.takeWhile fun c => !isBlank c

/-- The words of a text, that is its pieces between white space; `word` holds the characters of the word
    under way, last one first. -/
def wordsFrom (word : List Char) : List Char → List (List Char)
  | [] => if word.isEmpty then [] else [word.reverse]
  | c :: cs =>
    if isBlank c then
      if word.isEmpty then wordsFrom [] cs else word.reverse :: wordsFrom [] cs
    else wordsFrom (c :: word) cs

/-- The words of a text, that is its pieces between white space. -/
def words (cs : List Char) : List (List Char) :=
  wordsFrom [] cs

/-- The text without the repetitions of a non-empty pattern at its front. -/
def dropRepeated (pattern : List Char) : (fuel : Nat) → List Char → List Char
  | 0, cs => cs
  | fuel + 1, cs =>
    match dropPattern? pattern cs with
    | some rest => dropRepeated pattern fuel rest
    | none => cs

/-- ASCII capitals become small letters; all else stays. -/
def asciiLower (cs : List Char) : List Char :=
  cs.map fun c => if 65 ≤ c.toNat && c.toNat ≤ 90 then Char.ofNat (c.toNat + 32) else c

end SourceRecovery.Text.Chars
