/-
Module: SourceRecovery.Bytecode.Version
Layer: Bytecode
Purpose: Interpreter versions, their order, and the version behind the magic number of an artifact.
Imports: none
Trusted boundary: none
Main exports: Version, Version.atLeast, Version.text, Version.ofMagic?
Open obligations: none
-/

namespace SourceRecovery

/-- The version of the interpreter an artifact was compiled for. -/
structure Version where
  major : UInt8
  minor : UInt8
deriving DecidableEq, Repr, Inhabited

namespace Version

/-- The version is the given one or a later one. -/
def atLeast (v : Version) (major minor : UInt8) : Bool :=
  major < v.major || (major == v.major && minor ≤ v.minor)

/-- From this version on a code unit has one table for all its variables and a qualified name of its own,
    and instructions are followed by cache words. -/
def isModern (v : Version) : Bool :=
  v.atLeast 3 11

/-- The two numbers with a point between. -/
def text (v : Version) : String :=
  toString v.major.toNat ++ "." ++ toString v.minor.toNat

/-- The version whose compiler writes the magic number. -/
def ofMagic? (magic : Nat) : Option Version :=
  if 3400 ≤ magic && magic ≤ 3419 then some ⟨3, 8⟩
  else if 3420 ≤ magic && magic ≤ 3429 then some ⟨3, 9⟩
  else if 3430 ≤ magic && magic ≤ 3449 then some ⟨3, 10⟩
  else if 3450 ≤ magic && magic ≤ 3499 then some ⟨3, 11⟩
  else if 3500 ≤ magic && magic ≤ 3549 then some ⟨3, 12⟩
  else none

end Version

end SourceRecovery
