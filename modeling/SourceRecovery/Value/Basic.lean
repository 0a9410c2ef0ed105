/-
Module: SourceRecovery.Value.Basic
Layer: Value
Purpose: The constant values that a compiled module holds: scalars, texts, byte strings, containers, nested
  code units by their position, and raw text for what has no value here (integers of more than 64 bits,
  unknown objects). Dictionaries are lists of pairs in order of first insertion.
Imports: SourceRecovery.Number.Double
Trusted boundary: none
Main exports: Value, Value.same, Value.insert, Value.isLiteral, Value.items?
Open obligations: none
-/
import SourceRecovery.Number.Double

namespace SourceRecovery

/-- A constant of a compiled module. -/
inductive Value where
  | none
  | bool (b : Bool)
  | int (n : Int64)
  | float (x : Double)
  | complex (re im : Double)
  | str (s : String)
  | bytes (bs : List UInt8)
  | ellipsis
  | tuple (items : List Value)
  | list (items : List Value)
  | set (items : List Value)
  | frozenset (items : List Value)
  | dict (pairs : List (Value × Value))
  | code (unit : Nat)
  | raw (text : String)
deriving Inhabited

namespace Value

mutual

/-- Equality of values. Numbers of different types differ, floating-point numbers compare as numbers, and
    containers compare entry by entry. -/
def same : Value → Value → Bool
  | .none, .none => true
  | .bool a, .bool b => a == b
  | .int a, .int b => a == b
  | .float a, .float b => a.sameNumber b
  | .complex a b, .complex c d => a.sameNumber c && b.sameNumber d
  | .str a, .str b => a == b
  | .bytes a, .bytes b => a == b
  | .ellipsis, .ellipsis => true
  | .tuple a, .tuple b => sameItems a b
  | .list a, .list b => sameItems a b
  | .set a, .set b => sameItems a b
  | .frozenset a, .frozenset b => sameItems a b
  | .dict a, .dict b => samePairs a b
  | .code a, .code b => a == b
  | .raw a, .raw b => a == b
  | _, _ => false

/-- Equality of two rows of values. -/
def sameItems : List Value → List Value → Bool
  | [], [] => true
  | a :: as, b :: bs => same a b && sameItems as bs
  | _, _ => false

/-- Equality of two rows of pairs. -/
def samePairs : List (Value × Value) → List (Value × Value) → Bool
  | [], [] => true
  | (k, v) :: as, (l, w) :: bs => same k l && same v w && samePairs as bs
  | _, _ => false

end

/-- Insertion into a dictionary: a key already present keeps its place and takes the new value, a new key
    goes to the end. -/
def insert (key value : Value) : List (Value × Value) → List (Value × Value)
  | [] => [(key, value)]
  | (k, v) :: rest => if k.same key then (k, value) :: rest else (k, v) :: insert key value rest

/-- The dictionary built by inserting pairs one after the other. -/
def insertAll (pairs added : List (Value × Value)) : List (Value × Value) :=
  added.foldl (fun known entry => insert entry.1 entry.2 known) pairs

mutual

/-- The printed form of the value reads back as the value: no code unit and no raw text occurs in it. -/
def isLiteral : Value → Bool
  | .code _ => false
  | .raw _ => false
  | .tuple items => allLiteral items
  | .list items => allLiteral items
  | .set items => allLiteral items
  | .frozenset items => allLiteral items
  | .dict pairs => allPairsLiteral pairs
  | _ => true

/-- Every value of a row is a literal. -/
def allLiteral : List Value → Bool
  | [] => true
  | v :: rest => isLiteral v && allLiteral rest

/-- Every key and every value of a row of pairs is a literal. -/
def allPairsLiteral : List (Value × Value) → Bool
  | [] => true
  | (k, v) :: rest => isLiteral k && isLiteral v && allPairsLiteral rest

end

/-- The entries of a tuple, list or set. -/
def items? : Value → Option (List Value)
  | .tuple items => some items
  | .list items => some items
  | .set items => some items
  | .frozenset items => some items
  | _ => Option.none

/-- The text of a text value. -/
def str? : Value → Option String
  | .str s => some s
  | _ => Option.none

/-- The code unit a value stands for. -/
def code? : Value → Option Nat
  | .code unit => some unit
  | _ => Option.none

end Value

end SourceRecovery
