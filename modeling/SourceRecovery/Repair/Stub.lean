/-
Module: SourceRecovery.Repair.Stub
Layer: Repair
Purpose: Stubs for unfinished definitions, rebuilt from their units: a function with its signature and the
  placeholder as its body, a class with a stub or an attribute per member.
Imports: SourceRecovery.Analysis.Completeness, SourceRecovery.Repair.Patch
Trusted boundary: none
Main exports: stubBase, classStub, functionStub, buildStub
Open obligations: none
-/
import SourceRecovery.Analysis.Completeness
import SourceRecovery.Repair.Patch

namespace SourceRecovery.Stub

/-- The initializer of a class, which passes everything on. -/
def initializer : String :=
  "def __init__(self, *a, **k):\n    super().__init__(*a, **k)"

/-- The comment in the placeholder of a stub, two blanks before it. -/
def placeholderComment (placeholder : String) : String :=
  match placeholder.toList.dropWhile (· != '#') with
  | [] => ""
  | comment => "  " ++ String.ofList comment

/-- The stub of a function. -/
def methodStub (index : Index) (settings : Settings) (name : String) (unit : Option Nat) : String :=
  if name = "__init__" then initializer
  else
    let header :=
      match unit with
      | some position => (index.unit position).signature name
      | none => "def " ++ name ++ "(self)"
    header ++ ":\n    " ++ settings.stubPlaceholder

/-- A name that is taken for a base. -/
def looksLikeBase (settings : Settings) (name : String) : Bool :=
  settings.baseNames.contains name || settings.baseSuffixes.any (Text.endsWith name)

/-- The base of a class: what stands in the text, the first name of the unit that looks like one, or the
    root of all classes. -/
def stubBase (item : IncompleteItem) (index : Index) (unit : Nat) (settings : Settings) : String :=
  if item.bases.isEmpty then
    ((index.unit unit).names.find? (looksLikeBase settings)).getD "object"
  else Text.joinWith ", " item.bases

/-- The stub of a member. -/
def memberStub (index : Index) (settings : Settings) (member : ClassMember) : String :=
  match member.kind with
  | .method unit => methodStub index settings member.name unit
  | .attribute => member.name ++ " = None" ++ placeholderComment settings.stubPlaceholder

/-- The stub of a class. -/
def classStub (item : IncompleteItem) (index : Index) (unit : Nat) (settings : Settings) : String :=
  let members := (index.members unit).map fun member =>
    Patch.indentBlock (memberStub index settings member) 4
  let body := if members.isEmpty then "    pass" else Text.joinWith "\n\n" members
  "class " ++ item.name ++ "(" ++ stubBase item index unit settings ++ "):\n" ++ body

/-- The stub of an item whose unit is known, moved in as far as the item. -/
def build? (item : IncompleteItem) (index : Index) (settings : Settings) : Option String :=
  item.unit.map fun unit =>
    let stub :=
      match item.kind with
      | .function => methodStub index settings item.name (some unit)
      | .cls => classStub item index unit settings
    Patch.indentBlock stub item.indent

end SourceRecovery.Stub
