/-
Module: SourceRecovery.Index.Members
Layer: Index
Purpose: What a class body binds. Members are the names its instructions store and the functions nested in
  it, without the fields every class body has. A body without instructions stands in with its names.
Imports: SourceRecovery.Index.Basic
Trusted boundary: none
Main exports: MemberKind, ClassMember, Index.members
Open obligations: none
-/
import SourceRecovery.Index.Basic

namespace SourceRecovery

/-- What a member of a class is bound to. -/
inductive MemberKind where
  /-- A function of the class body, with its unit where that is known. -/
  | method (unit : Option Nat)
  /-- Anything else. -/
  | attribute
deriving DecidableEq, Repr

/-- A name bound in a class body. -/
structure ClassMember where
  name : String
  kind : MemberKind
deriving DecidableEq, Repr

namespace Index

/-- The fields that every class body binds on its own. -/
def standardFields : List String :=
  ["__module__", "__qualname__", "__doc__", "__classcell__", "__static_attributes__", "__firstlineno__"]

/-- The name of a comprehension, a lambda or another unit without a name of its own. -/
def isAnonymous (name : String) : Bool :=
  Text.startsWith name "<"

/-- The functions nested in a unit, by name. -/
def methods (index : Index) (u : CodeUnit) : List (String × Nat) :=
  (u.children.map fun child => ((index.unit child).name, child)).filter fun entry =>
    !isAnonymous entry.1

/-- The last function of a name. -/
def methodNamed? (methods : List (String × Nat)) (name : String) : Option Nat :=
  methods.reverse.lookup name

/-- Members in a row, without standard fields and without names already there. -/
def addMember (members : List ClassMember) (member : ClassMember) : List ClassMember :=
  if standardFields.contains member.name || members.any fun known => known.name == member.name then
    members
  else members ++ [member]

/-- The candidates of a class body, in the order in which they are bound. -/
def memberCandidates (index : Index) (u : CodeUnit) : List ClassMember :=
  let methods := index.methods u
  if u.instructions.isEmpty then
    (u.names.filter fun name => name != "__name__").map fun name =>
      ⟨name, .method (methodNamed? methods name)⟩
  else
    let stored := (u.instructions.filter fun ins => ins.op == .storeName).filterMap fun ins =>
      u.nameAt? ins.arg
    let ofStored := stored.map fun name =>
      match methodNamed? methods name with
      | some child => ⟨name, .method (some child)⟩
      | none => ⟨name, .attribute⟩
    let ofChildren := methods.map fun entry => ⟨entry.1, .method (some entry.2)⟩
    ofStored ++ ofChildren

/-- The members of a class body. -/
def members (index : Index) (position : Nat) : List ClassMember :=
  (index.memberCandidates (index.unit position)).foldl addMember []

end Index

end SourceRecovery
