/-
Module: SourceRecovery.Index.Basic
Layer: Index
Purpose: The index of a module: its units by path. A name is looked up as a whole path first and as the end
  of a path then, both without number tags; a name that fits several units is reported with all of them and
  never decided.
Imports: SourceRecovery.Index.Paths, SourceRecovery.Failure, SourceRecovery.Listing.Printer,
  SourceRecovery.Settings.Basic
Trusted boundary: none
Main exports: ListingTool, Index, Index.ofModule, Index.lookup, Index.lookupScoped, Index.disassembly
Open obligations: none
-/
import SourceRecovery.Index.Paths
import SourceRecovery.Failure
import SourceRecovery.Listing.Printer
import SourceRecovery.Settings.Basic

namespace SourceRecovery

/-- The program that can list a module, and the artifact it is given. -/
structure ListingTool where
  command : ToolCommand
  artifact : String
deriving DecidableEq, Repr, Inhabited

/-- The units of a module by path. -/
structure Index where
  version : Version
  units : List CodeUnit
  root : Nat
  /-- Paths with the positions of their units, in the order of the visits. -/
  paths : List (String × Nat)
  /-- The lines of every unit, when the module was read from a listing. -/
  slices : Option (List String) := none
  /-- The disassembler to ask for the lines of units. -/
  tool : Option ListingTool := none
  /-- The lines of units by path, once the disassembler has been asked for them. -/
  listings : Option (List (String × String)) := none
deriving Inhabited

namespace Index

/-- The qualified name of a unit that has none of its own: its path below the module body, without the
    tag of the unit itself. -/
def qualnameFor (rootName untagged : String) : String :=
  match Text.Chars.dropPattern? (rootName ++ ".").toList untagged.toList with
  | some rest => String.ofList rest
  | none => untagged

/-- A unit with its path, and with a qualified name when it has none of its own. -/
def place (rootName : String) (u : CodeUnit) (entry : PathEntry) : CodeUnit :=
  let qualname :=
    if entry.parent.isSome && u.qualname == u.name then qualnameFor rootName entry.untagged
    else u.qualname
  { u with path := entry.path, qualname }

/-- The units of a module with their paths; units that were not visited stay as they are. -/
def placeUnits (units : List CodeUnit) (root : Nat) (entries : List PathEntry) : List CodeUnit :=
  let rootName := (units[root]?.map CodeUnit.name).getD ""
  units.mapIdx fun position u =>
    match entries.find? fun entry => entry.unit == position with
    | some entry => place rootName u entry
    | none => u

/-- The index of a module. -/
def ofModule (m : CompiledModule) : Index :=
  let entries := assignPaths m.units m.root
  { version := m.version
    units := placeUnits m.units m.root entries
    root := m.root
    paths := entries.map fun entry => (entry.path, entry.unit) }

/-- The index of a module read from a listing. -/
def ofListing (m : CompiledModule) (slices : List String) : Index :=
  { ofModule m with slices := some slices }

/-- The unit at a position. -/
def unit (index : Index) (position : Nat) : CodeUnit :=
  index.units[position]?.getD (.empty "" index.version)

/-- The module body. -/
def rootUnit (index : Index) : CodeUnit :=
  index.unit index.root

/-- The position of the unit with exactly this path, tags included. -/
def unitAt? (index : Index) (path : String) : Option Nat :=
  index.paths.lookup path

/-- The only match, or why there is none. -/
def single (name : String) : List (String × Nat) → Except Failure Nat
  | [] => .error (.notFound name)
  | [found] => .ok found.2
  | several => .error (.ambiguous name (several.map Prod.fst))

/-- The paths that are the name, tags aside. -/
def exactMatches (index : Index) (name : String) : List (String × Nat) :=
  index.paths.filter fun entry => plainPath entry.1 == name

/-- The paths that end with the name as whole segments, tags aside. -/
def suffixMatches (index : Index) (name : String) : List (String × Nat) :=
  index.paths.filter fun entry => Text.endsWith (plainPath entry.1) ("." ++ name)

/-- The unit that fits a name without tags. -/
def lookupPlain (index : Index) (name : String) : Except Failure Nat :=
  match index.exactMatches name with
  | [] => single name (index.suffixMatches name)
  | found => single name found

/-- The unit that fits a name. A name with a tag may be a path as it stands. -/
def lookup (index : Index) (name : String) : Except Failure Nat :=
  match if name.toList.contains '#' then index.unitAt? name else none with
  | some position => .ok position
  | none => index.lookupPlain name

/-- The unit of a definition found in a text: with the class around it first, or in the module body first,
    and by its name alone when nothing is found there. -/
def lookupScoped (index : Index) (name : String) (enclosing : Option String) :
    Except Failure Nat :=
  let scope :=
    match enclosing with
    | some cls => cls
    | none => index.rootUnit.path
  match index.lookup (scope ++ "." ++ name) with
  | .error (.notFound _) => index.lookup name
  | found => found

/-- The lines of a unit: its own lines in the listing the module was read from, the lines a disassembler
    gives for its path, or a listing written anew. -/
def disassembly (index : Index) (position : Nat) : String :=
  match index.slices.bind fun slices => slices[position]? with
  | some slice => slice
  | none =>
    match index.listings.bind (List.lookup (index.unit position).path) with
    | some slice => slice
    | none => Listing.ofUnit index.units position

end Index

end SourceRecovery
