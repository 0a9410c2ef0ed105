/-
Module: SourceRecovery.Source.Scan
Layer: Source
Purpose: Lines of text by indentation and gap marker: where the block of a line ends, where a marker that
  trails a block ends, and how often the marker occurs. Lines are counted from zero, and ends are
  exclusive.
Imports: SourceRecovery.Source.Header
Trusted boundary: none
Main exports: markerCount, markerEnd, blockEnd, enclosingClass, importContext
Open obligations: none
-/
import SourceRecovery.Source.Header

namespace SourceRecovery.Scan

open Text

/-- The number of times the marker occurs in a text. -/
def markerCount (source marker : String) : Nat :=
  Text.occurrences source marker

/-- A line with nothing on it but a comment. -/
def isCommentLine (line : String) : Bool :=
  startsWith (trim line) "#"

/-- The end of a marker in the lines from `place` on, when nothing but blank lines and comments stands
    before it. -/
def markerEndFrom? (marker : String) : (place : Nat) → List String → Option Nat
  | _, [] => none
  | place, line :: rest =>
    if contains (trim line) marker then some (place + 1)
    else if isBlankText line || isCommentLine line then markerEndFrom? marker (place + 1) rest
    else none

/-- A block that ends before `place` reaches over a marker that trails it, together with the blank lines and
    comments between; without a marker it ends where it ends. -/
def markerEnd (lines : List String) (place : Nat) (marker : String) : Nat :=
  (markerEndFrom? marker place (lines.drop place)).getD place

/-- The end of a block whose header has the indentation `base`, in the lines from `place` on; `last` is the
    last line that belongs to it so far. -/
def blockEndFrom (base : Nat) : (place last : Nat) → List String → Nat
  | _, last, [] => last + 1
  | place, last, line :: rest =>
    if isBlankText line then blockEndFrom base (place + 1) last rest
    else if indentWidth line ≤ base then last + 1
    else blockEndFrom base (place + 1) place rest

/-- The end of the block of a header line: the lines after it that stand further in, without blank lines at
    the end. -/
def blockEnd (lines : List String) (header : Nat) : Nat :=
  let base :=
    match lines[header]? with
    | some line => indentWidth line
    | none => 0
  blockEndFrom base (header + 1) header (lines.drop (header + 1))

/-- The class that the first line further out defines, in the lines before a line, the nearest first. -/
def outerClass? (indent : Nat) : List String → Option String
  | [] => none
  | line :: rest =>
    if isBlankText line || startsWith (trimStart line) "#" then outerClass? indent rest
    else if indentWidth line < indent then
      match Header.ofLine? line with
      | some header => if header.kind = .cls then some header.name else none
      | none => none
    else outerClass? indent rest

/-- The class whose body directly holds a line. -/
def enclosingClass (lines : List String) (place : Nat) : Option String :=
  match lines[place]? with
  | none => none
  | some line =>
    if indentWidth line = 0 then none
    else outerClass? (indentWidth line) (lines.take place).reverse

/-- The first import lines of a text, at most `limit`. -/
def importContext (source : String) (limit : Nat) : String :=
  let isImport := fun (line : String) =>
    startsWith (trimStart line) "import " || startsWith (trimStart line) "from "
  Text.join (((lines source).filter isImport).take limit)

end SourceRecovery.Scan
