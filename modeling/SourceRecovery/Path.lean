/-
Module: SourceRecovery.Path
Layer: Files
Purpose: Paths as texts. Paths are compared by their parts, where repeated separators and single points
  inside do not count; what is left of a path keeps the form in which it was written.
Imports: SourceRecovery.Text.Basic
Trusted boundary: none
Main exports: Path.components, Path.relativeTo?, Path.join, Path.withExtension, Path.counterpart, Path.le, Path.names,
  Path.folder
Open obligations: none
-/
import SourceRecovery.Text.Basic

namespace SourceRecovery.Path

/-- A part of a path. -/
inductive Component where
  | root
  | current
  | parent
  | normal (name : List Char)
deriving DecidableEq, Repr

/-- A piece between separators that does not count: nothing, or a single point. -/
def isTrivial (piece : List Char) : Bool :=
  piece == [] || piece == ['.']

/-- The part that a piece stands for. -/
def ofPiece (piece : List Char) : Option Component :=
  if isTrivial piece then none
  else if piece == ['.', '.'] then some .parent
  else some (.normal piece)

/-- Pieces split into what marks their start and the pieces after that. An absolute path starts with the root;
    a point before everything else is a part of its own. -/
def openPieces : List (List Char) → Option Component × List (List Char)
  | [] :: p :: ps => (some .root, p :: ps)
  | ['.'] :: ps => (some .current, ps)
  | pieces => (none, pieces)

/-- A path split into what marks its start and the pieces after that. -/
def opening (path : List Char) : Option Component × List (List Char) :=
  openPieces (path.splitOn '/')

/-- The parts of a path. -/
def components (path : List Char) : List Component :=
  let (start, pieces) := opening path
  start.toList ++ pieces.filterMap ofPiece

/-- Pieces without those at the front that do not count. -/
def trimFront (pieces : List (List Char)) : List (List Char) :=
  pieces.dropWhile isTrivial

/-- Pieces without those at the end that do not count. -/
def trimBack (pieces : List (List Char)) : List (List Char) :=
  (trimFront pieces.reverse).reverse

/-- Pieces as a text. -/
def glue (pieces : List (List Char)) : List Char :=
  ['/'].intercalate pieces

/-- Pieces without the first `count` that count. -/
def dropParts : (count : Nat) → List (List Char) → List (List Char)
  | 0, pieces => pieces
  | _, [] => []
  | count + 1, piece :: pieces =>
    if isTrivial piece then dropParts (count + 1) pieces else dropParts count pieces

/-- A path without separators and points at its end. -/
def trimmed (path : List Char) : List Char :=
  match opening path with
  | (some .root, pieces) => '/' :: glue (trimBack pieces)
  | (some _, pieces) => glue (['.'] :: trimBack pieces)
  | (none, pieces) => glue (trimBack pieces)

/-- What is left of a path after its first `count` parts, as it was written. -/
def rest (count : Nat) (path : List Char) : List Char :=
  match count, opening path with
  | 0, _ => trimmed path
  | count + 1, (some _, pieces) => glue (trimBack (trimFront (dropParts count pieces)))
  | count + 1, (none, pieces) => glue (trimBack (trimFront (dropParts (count + 1) pieces)))

/-- A path seen from a base, when the base is a front of it. -/
def relativeTo? (path base : String) : Option String :=
  let front := components base.toList
  if front.isPrefixOf (components path.toList) then
    some (String.ofList (rest front.length path.toList))
  else none

/-- The path starts at the root. -/
def isAbsolute (path : String) : Bool :=
  path.toList.head? == some '/'

/-- A path below a base; an absolute path replaces the base. -/
def join (base path : String) : String :=
  if isAbsolute path then path
  else if base.toList.getLast?.all (· == '/') then base ++ path
  else base ++ "/" ++ path

/-- The name of the file: the last part, unless it leads upward or is the root. -/
def fileName? (path : List Char) : Option (List Char) :=
  match (trimFront (opening path).2.reverse).head? with
  | some name => if name == ['.', '.'] then none else some name
  | none => none

/-- A path whose last piece is a name, so that a file can be written there. -/
def endsInName (path : String) : Bool :=
  ((path.toList.splitOn '/').getLast?.map fun piece => !isTrivial piece && piece != ['.', '.']).getD false

/-- A name split at its last point, the point left out. A point at the front does not count. -/
def splitName (name : List Char) : Option (List Char × List Char) :=
  let after := (name.reverse.takeWhile (· != '.')).reverse
  match name.length - after.length with
  | 0 | 1 => none
  | before + 1 => some (name.take before, after)

/-- The name without its extension. -/
def stem (name : List Char) : List Char :=
  match splitName name with
  | some (before, _) => before
  | none => name

/-- The extension of the file. -/
def extension? (path : String) : Option String :=
  (fileName? path.toList).bind fun name => (splitName name).map fun parts => String.ofList parts.2

/-- A path whose file has an extension in place of its own; an empty one only takes the old one away. A path that does
    not end in a file name stays as it is. -/
def setExtension (path extension : List Char) : List Char :=
  match fileName? path with
  | none => path
  | some name =>
    let text := trimmed path
    let front := text.take (text.length - name.length) ++ stem name
    if extension.isEmpty then front else front ++ '.' :: extension

/-- A path without the extension of its file; the point before it stays. -/
def cutExtension (path : String) : List Char :=
  path.toList.take (path.length - ((extension? path).getD "").length)

/-- A path whose file has another extension. The old one is cut off first. A point and an extension after one point
    more leave two points, which are no file name, so the new extension is not added. -/
def withExtension (path extension : String) : String :=
  String.ofList (setExtension (cutExtension path) extension.toList)

/-- The place for the text of an artifact: the place of the artifact below its root, below the other root and
    with another extension. -/
def counterpart (artifact sourceRoot outputRoot extension : String) : String :=
  withExtension (join outputRoot ((relativeTo? artifact sourceRoot).getD artifact)) extension

/-- The rank of a part: the root, a point, the way up, names. -/
def Component.rank : Component → Nat
  | .root => 0
  | .current => 1
  | .parent => 2
  | .normal _ => 3

/-- The name in a part. -/
def Component.name : Component → List Char
  | .normal name => name
  | _ => []

/-- The order of parts. -/
def Component.le (a b : Component) : Bool :=
  a.rank < b.rank || (a.rank == b.rank && Text.Chars.le a.name b.name)

/-- The order of parts, part by part. -/
def leParts : List Component → List Component → Bool
  | [], _ => true
  | _ :: _, [] => false
  | a :: as, b :: bs => if a = b then leParts as bs else a.le b

/-- The order of paths. -/
def le (a b : String) : Bool :=
  leParts (components a.toList) (components b.toList)

/-- The name in a part, when it is one. -/
def Component.name? : Component → Option String
  | .normal name => some (String.ofList name)
  | _ => none

/-- The names on a path. -/
def names (path : String) : List String :=
  (components path.toList).filterMap Component.name?

/-- The names on the way to the last part of a path. -/
def folder (path : String) : List String :=
  (components path.toList).dropLast.filterMap Component.name?

end SourceRecovery.Path
