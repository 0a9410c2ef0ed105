/-
Module: SourceRecovery.Index.Paths
Layer: Index
Purpose: The paths of the units of a module. A unit's path is the path of the unit it was reached from, a
  point and its name; a path that is taken gets a tag with the least free number from two on. Units are
  visited depth first from the module body, and every unit once.
Imports: SourceRecovery.Bytecode.CodeUnit
Trusted boundary: none
Main exports: PathEntry, freshPath, assignPaths, plainPath
Open obligations: none
-/
import SourceRecovery.Bytecode.CodeUnit

namespace SourceRecovery.Index

/-- A visited unit: its position, its path, and the same path before it was tagged. Only the module body
    has no parent. -/
structure PathEntry where
  unit : Nat
  path : String
  untagged : String
  parent : Option String
deriving DecidableEq, Repr

/-- A path with a number tag. -/
def tagged (path : String) (number : Nat) : String :=
  path ++ "#" ++ toString number

/-- The path itself when it is free, and otherwise the path with the least free tag. One of as many tags
    as there are taken paths, and one more, is always free. -/
def freshPath (taken : List String) (path : String) : String :=
  if taken.contains path then
    let tags := (List.range' 2 (taken.length + 1)).map (tagged path)
    (tags.find? fun candidate => !taken.contains candidate).getD path
  else path

/-- A unit still to be visited, with the path of the unit it was reached from. -/
structure Visit where
  unit : Nat
  parent : Option String

/-- The entry of a unit, given the entries made so far. -/
def entryFor (done : List PathEntry) (visit : Visit) (u : CodeUnit) : PathEntry :=
  let untagged :=
    match visit.parent with
    | some parent => parent ++ "." ++ u.name
    | none => u.name
  ⟨visit.unit, freshPath (done.map PathEntry.path) untagged, untagged, visit.parent⟩

/-- The entries of the units still to be visited, after those made so far. A visit leads to as many new
    visits as the unit has children, and only when the unit was not visited before. -/
def assignFrom (units : List CodeUnit) :
    (fuel : Nat) → (pending : List Visit) → (done : List PathEntry) → List PathEntry
  | 0, _, done => done
  | _ + 1, [], done => done
  | fuel + 1, visit :: pending, done =>
    match units[visit.unit]? with
    | none => assignFrom units fuel pending done
    | some u =>
      if done.any fun entry => entry.unit == visit.unit then assignFrom units fuel pending done
      else
        let entry := entryFor done visit u
        let visits := u.children.map fun child => ⟨child, some entry.path⟩
        assignFrom units fuel (visits ++ pending) (done ++ [entry])

/-- An upper bound on the number of visits: one for the module body and one for every child of a unit. -/
def visitBound (units : List CodeUnit) : Nat :=
  units.foldl (fun total u => total + u.children.length) 2

/-- The entries of all units that can be reached from the module body, in the order of the visits. -/
def assignPaths (units : List CodeUnit) (root : Nat) : List PathEntry :=
  assignFrom units (visitBound units) [⟨root, none⟩] []

/-- A segment of a path without its number tag. -/
def plainSegment (segment : List Char) : List Char :=
  match Text.Chars.splitOnce '#' segment with
  | some (head, number) =>
    if !number.isEmpty && number.all Text.isAsciiDigit then head else segment
  | none => segment

/-- A path without number tags. -/
def plainPath (path : String) : String :=
  String.ofList (['.'].intercalate ((path.toList.splitOn '.').map plainSegment))

end SourceRecovery.Index
