/-
Module: SourceRecovery.Proofs.DisplayValues
Layer: Proofs
Purpose: Displays, that is expressions that build a literal from constants, and what they evaluate to in the language.
  Numbers are equal across their types, only hashable values can be keys, and whatever can be iterated over can be
  unpacked. None of this is taken from the replay of instructions, which has a stricter equality and unpacks fewer
  values; a display is plain where the two cannot be told apart.
Imports: SourceRecovery.Bytecode.CodeUnit, SourceRecovery.Proofs.ValueEquality
Trusted boundary: human-reviewed spec (the meaning of displays)
Main exports: Value.equalKeys, Value.isKey, Value.entries?, Display, Display.eval?, Display.Plain,
  Value.equalKeys_of_same
Open obligations: none
-/
import SourceRecovery.Bytecode.CodeUnit
import SourceRecovery.Proofs.ValueEquality

namespace SourceRecovery

/-! ### Equality -/

/-- A number on the real line with its two ends. A finite one is given as a multiple of the least positive
    floating-point number, of which every floating-point number and every integer is a multiple. -/
inductive Quantity where
  | finite (multiple : Int)
  | infinite (negative : Bool)
deriving DecidableEq

/-- The quantity of an integer. -/
def Quantity.ofInt (n : Int) : Quantity :=
  .finite (n * Nat.pow 2 1074)

/-- The quantity of a floating-point number; a NaN has none. -/
def Double.quantity? (x : Double) : Option Quantity :=
  if x.isNaN then none
  else if x.isInfinite then some (.infinite x.isNegative)
  else
    let size : Int := x.significand * Nat.pow 2 (x.exponent + 1074).toNat
    some (.finite (if x.isNegative then -size else size))

namespace Value

/-- The real and the imaginary part of a number, of whatever type it is. -/
def number? : Value → Option (Quantity × Quantity)
  | .bool b => some (.ofInt b.toNat, .ofInt 0)
  | .int n => some (.ofInt n.toInt, .ofInt 0)
  | .float x => x.quantity?.map fun re => (re, .ofInt 0)
  | .complex re im => do return (← re.quantity?, ← im.quantity?)
  | _ => Option.none

/-- Equality of what is neither a number nor a container. A NaN is equal to itself only, and is taken for itself where
    its bits are the same. -/
def equalForms : Value → Value → Bool
  | .none, .none => true
  | .float a, .float b => a == b
  | .complex a b, .complex c d => a == c && b == d
  | .str a, .str b => a == b
  | .bytes a, .bytes b => a == b
  | .ellipsis, .ellipsis => true
  | .code a, .code b => a == b
  | .raw a, .raw b => a == b
  | _, _ => false

/-- Equality of values that are no containers. Numbers are equal when they are the same number, so `1`, `1.0` and `True`
    are. -/
def equalScalars (a b : Value) : Bool :=
  match a.number?, b.number? with
  | some x, some y => x == y
  | Option.none, Option.none => equalForms a b
  | _, _ => false

mutual

/-- Equality of keys. Tuples are equal entry by entry, and frozen sets when they have equal entries in any order. -/
def equalKeys : Value → Value → Bool
  | .tuple as, .tuple bs => equalRows as bs
  | .frozenset as, .frozenset bs => allAmong as bs && bs.all fun b => isAmong as b
  | a, b => equalScalars a b
termination_by structural a => a

/-- Equality of two rows of keys. -/
def equalRows : List Value → List Value → Bool
  | [], [] => true
  | a :: as, b :: bs => equalKeys a b && equalRows as bs
  | _, _ => false
termination_by structural as => as

/-- Each of some keys is equal to one of the others. -/
def allAmong : List Value → List Value → Bool
  | [], _ => true
  | a :: as, bs => (bs.any fun b => equalKeys a b) && allAmong as bs
termination_by structural as => as

/-- One of some keys is equal to the other. -/
def isAmong : List Value → Value → Bool
  | [], _ => false
  | a :: as, b => equalKeys a b || isAmong as b
termination_by structural as => as

end

mutual

/-- The value is hashable, so that it can be a key of a dictionary and an entry of a set. -/
def isKey : Value → Bool
  | .tuple items => allKeys items
  | .frozenset items => allKeys items
  | .list _ => false
  | .set _ => false
  | .dict _ => false
  | _ => true

/-- Every value of a row is hashable. -/
def allKeys : List Value → Bool
  | [] => true
  | v :: rest => isKey v && allKeys rest

end

/-- What an iteration over the value gives: the characters of a text, the numbers of a byte string, and the keys of a
    dictionary. The entries of a set come in one of the orders in which they may. -/
def entries? : Value → Option (List Value)
  | .str s => some (s.toList.map fun c => .str (String.singleton c))
  | .bytes bs => some (bs.map fun b => .int (Int64.ofNat b.toNat))
  | .tuple items => some items
  | .list items => some items
  | .set items => some items
  | .frozenset items => some items
  | .dict pairs => some (pairs.map Prod.fst)
  | _ => Option.none

/-- What an iteration over the value gives, if there is one. -/
def entries (v : Value) : List Value :=
  v.entries?.getD []

/-- The entries of a set after one more value, which has to be hashable. It is dropped when an equal one is there. -/
def addEntry (items : List Value) (value : Value) : Option (List Value) :=
  if value.isKey then some (if items.any fun item => item.equalKeys value then items else items ++ [value])
  else Option.none

/-- The pairs of a dictionary after a value is written to a key: at the place of an equal key, which stays, or at the
    end otherwise. -/
def writePair (key value : Value) : List (Value × Value) → List (Value × Value)
  | [] => [(key, value)]
  | (k, v) :: rest => if k.equalKeys key then (k, value) :: rest else (k, v) :: writePair key value rest

/-- The pairs of a dictionary after one more pair, whose key has to be hashable. -/
def putPair (pairs : List (Value × Value)) (entry : Value × Value) : Option (List (Value × Value)) :=
  if entry.1.isKey then some (writePair entry.1 entry.2 pairs) else Option.none

end Value

namespace Replay

/-! ### Displays -/

/-- The containers that are built from a row of values. -/
inductive Row where
  | tuple
  | list
  | set

/-- The ways in which a container takes up one more value, as an entry or entry by entry. -/
inductive Growth where
  | extendList
  | updateSet
  | updateDict
  | appendList
  | addToSet

/-- An expression that builds a literal. -/
inductive Display where
  /-- A constant of the unit. -/
  | const (position : UInt32)
  | row (kind : Row) (items : List Display)
  | dict (entries : List (Display × Display))
  /-- A dictionary whose keys are given together, behind its values. -/
  | keyed (values : List Display) (keys : Display)
  | grown (growth : Growth) (base operand : Display)
  /-- A dictionary with one more pair. -/
  | put (base key value : Display)

/-! ### Evaluation -/

/-- The container of a row of values. -/
def Row.build : Row → List Value → Option Value
  | .tuple, values => some (.tuple values)
  | .list, values => some (.list values)
  | .set, values => (values.foldlM Value.addEntry []).map .set

/-- A container after it has taken up a value. -/
def Growth.build : Growth → (base operand : Value) → Option Value
  | .extendList, .list items, operand => operand.entries?.map fun added => .list (items ++ added)
  | .updateSet, .set items, operand =>
    operand.entries?.bind fun added => (added.foldlM Value.addEntry items).map .set
  | .updateDict, .dict pairs, .dict added => (added.foldlM Value.putPair pairs).map .dict
  | .appendList, .list items, operand => some (.list (items ++ [operand]))
  | .addToSet, .set items, operand => (Value.addEntry items operand).map .set
  | _, _, _ => none

/-- The dictionary of a tuple of keys and as many values. -/
def buildKeyed : (keys : Value) → (values : List Value) → Option Value
  | .tuple keys, values =>
    if keys.length = values.length then ((keys.zip values).foldlM Value.putPair []).map .dict else none
  | _, _ => none

/-- A dictionary with a pair put in. -/
def buildPut : (base key value : Value) → Option Value
  | .dict pairs, key, value => (Value.putPair pairs (key, value)).map .dict
  | _, _, _ => none

mutual

/-- The value of a display among the constants of a unit. Parts are evaluated in their order; a set drops later
    duplicates, and in a dictionary the last value of a key stands at its first place. There is no value where the
    evaluation raises an error. -/
def Display.eval? (u : CodeUnit) : Display → Option Value
  | .const position => u.constAt? position
  | .row kind items => (Display.evalAll? u items).bind kind.build
  | .dict entries => (Display.evalPairs? u entries).bind fun pairs => (pairs.foldlM Value.putPair []).map .dict
  | .keyed values keys =>
      (Display.evalAll? u values).bind fun row => (keys.eval? u).bind fun keys => buildKeyed keys row
  | .grown growth base operand => (base.eval? u).bind fun base => (operand.eval? u).bind (growth.build base)
  | .put base key value =>
    (base.eval? u).bind fun base => (key.eval? u).bind fun key => (value.eval? u).bind (buildPut base key)

/-- The values of displays in a row. -/
def Display.evalAll? (u : CodeUnit) : List Display → Option (List Value)
  | [] => some []
  | item :: items => (item.eval? u).bind fun value => (Display.evalAll? u items).map (value :: ·)

/-- The values of pairs of displays. -/
def Display.evalPairs? (u : CodeUnit) : List (Display × Display) → Option (List (Value × Value))
  | [] => some []
  | (key, value) :: entries =>
    (key.eval? u).bind fun key => (value.eval? u).bind fun value =>
      (Display.evalPairs? u entries).map ((key, value) :: ·)

end

/-! ### Plain displays -/

/-- Keys that are equal are also alike: the same but for the signs of zeros, and without a NaN. So no two of them are
    equal numbers of different types. -/
def Clear (keys : List Value) : Prop :=
  keys.Pairwise fun a b => a.equalKeys b = true → a.NaNFree ∧ a.unsigned = b.unsigned

/-- The value is a tuple or a list, whose entries have an order. -/
def isSequence : Value → Bool
  | .tuple _ => true
  | .list _ => true
  | _ => false

/-- The value is a tuple, a list or a set. -/
def isRow : Value → Bool
  | .set _ => true
  | .frozenset _ => true
  | v => isSequence v

/-- Only a set compares the values of its row. -/
def Row.Clear : Row → List Value → Prop
  | .set, values => Replay.Clear values
  | _, _ => True

/-- What is unpacked into a list is a tuple or a list, what is unpacked into a set may be a set as well, and the keys
    that meet are clear. -/
def Growth.Clear : Growth → (base operand : Value) → Prop
  | .extendList, _, operand => isSequence operand = true
  | .updateSet, base, operand => isRow operand = true ∧ Replay.Clear (base.entries ++ operand.entries)
  | .updateDict, base, operand => Replay.Clear (base.entries ++ operand.entries)
  | .appendList, _, _ => True
  | .addToSet, base, operand => Replay.Clear (base.entries ++ [operand])

mutual

/-- All through a display only tuples and lists are unpacked into lists, only these and sets into sets, and the keys
    that meet are clear. -/
def Display.Plain (u : CodeUnit) : Display → Prop
  | .const _ => True
  | .row kind items => Display.AllPlain u items ∧ ∀ values ∈ Display.evalAll? u items, kind.Clear values
  | .dict entries =>
    Display.PairsPlain u entries ∧ ∀ pairs ∈ Display.evalPairs? u entries, Replay.Clear (pairs.map Prod.fst)
  | .keyed values keys =>
    Display.AllPlain u values ∧ keys.Plain u ∧ ∀ row ∈ keys.eval? u, Replay.Clear row.entries
  | .grown growth base operand =>
    base.Plain u ∧ operand.Plain u ∧ ∀ container ∈ base.eval? u, ∀ taken ∈ operand.eval? u, growth.Clear container taken
  | .put base key value =>
    base.Plain u ∧ key.Plain u ∧ value.Plain u ∧
      ∀ container ∈ base.eval? u, ∀ written ∈ key.eval? u, Replay.Clear (container.entries ++ [written])

/-- Every display of a row is plain. -/
def Display.AllPlain (u : CodeUnit) : List Display → Prop
  | [] => True
  | item :: items => item.Plain u ∧ Display.AllPlain u items

/-- Every display of a row of pairs is plain. -/
def Display.PairsPlain (u : CodeUnit) : List (Display × Display) → Prop
  | [] => True
  | (key, value) :: entries => key.Plain u ∧ value.Plain u ∧ Display.PairsPlain u entries

end

end Replay

/-! ### Values that compare as equal are equal -/

theorem Double.quantity?_of_isZero {x : Double} (isZero : x.isZero = true) : x.quantity? = some (.finite 0) := by
  have bits : x.bits.toNat % 2 ^ 63 = 0 := beq_iff_eq.mp isZero
  have exponent : x.biased = 0 := by
    show x.bits.toNat / 2 ^ 52 % 2048 = 0
    omega
  have fraction : x.fraction = 0 := by
    show x.bits.toNat % 2 ^ 52 = 0
    omega
  have number : x.isNaN = false := isNaN_of_isZero isZero
  have finite : x.isInfinite = false := by
    rw [isInfinite, exponent]
    rfl
  simp [quantity?, number, finite, significand, exponent, fraction]

/-- Numbers that compare as equal are the same number. -/
theorem Double.quantity?_of_sameNumber {x y : Double} (same : x.sameNumber y = true) :
    ∃ quantity, x.quantity? = some quantity ∧ y.quantity? = some quantity := by
  simp only [sameNumber, Bool.and_eq_true, Bool.not_eq_true', Bool.or_eq_true, beq_iff_eq] at same
  obtain ⟨⟨number, _⟩, sameBits | ⟨xZero, yZero⟩⟩ := same
  · obtain rfl : x = y := congrArg Double.mk sameBits
    rw [quantity?, if_neg (by rw [number]; exact Bool.false_ne_true)]
    split <;> exact ⟨_, rfl, rfl⟩
  · exact ⟨_, quantity?_of_isZero xZero, quantity?_of_isZero yZero⟩

namespace Value

/-- Numbers and values without entries that compare as equal are equal. -/
theorem equalScalars_of_same {a b : Value} (scalar : a.items? = Option.none) (key : b.isKey = true)
    (same : a.same b = true) : a.equalScalars b = true := by
  cases a <;> cases b <;> simp only [Value.same, Bool.false_eq_true, beq_iff_eq] at same
  case float.float x y =>
    obtain ⟨quantity, left, right⟩ := Double.quantity?_of_sameNumber same
    simp [equalScalars, number?, left, right]
  case complex.complex a b c d =>
    obtain ⟨re, im⟩ := Bool.and_eq_true_iff.mp same
    obtain ⟨first, left, right⟩ := Double.quantity?_of_sameNumber re
    obtain ⟨second, below, above⟩ := Double.quantity?_of_sameNumber im
    simp [equalScalars, number?, left, right, below, above]
  case tuple.tuple | list.list | set.set | frozenset.frozenset => cases scalar
  case dict.dict => cases key
  all_goals simp [equalScalars, number?, equalForms, same]

theorem allKeys_cons {v : Value} {rest : List Value} :
    allKeys (v :: rest) = true ↔ v.isKey = true ∧ allKeys rest = true := by
  rw [allKeys, Bool.and_eq_true]

mutual

/-- Keys that compare as equal are equal. -/
theorem equalKeys_of_same : ∀ {a b : Value}, b.isKey = true → a.same b = true → a.equalKeys b = true
  | .tuple as, b, key, same => by
      cases b <;> simp only [Value.same, Bool.false_eq_true] at same
      case tuple bs => exact equalRows_of_sameItems key same
  | .frozenset as, b, key, same => by
      cases b <;> simp only [Value.same, Bool.false_eq_true] at same
      case frozenset bs =>
        rw [equalKeys, Bool.and_eq_true, List.all_eq_true]
        exact ⟨allAmong_of_sameItems key same fun _ => id, fun b member => isAmong_of_sameItems key same member⟩
  | .list _, b, key, same | .set _, b, key, same => by
      cases b <;> simp only [Value.same, Bool.false_eq_true] at same
      cases key
  | .none, _, key, same | .bool _, _, key, same | .int _, _, key, same | .float _, _, key, same
  | .complex _ _, _, key, same | .str _, _, key, same | .bytes _, _, key, same | .ellipsis, _, key, same
  | .dict _, _, key, same | .code _, _, key, same | .raw _, _, key, same =>
      equalScalars_of_same rfl key same

theorem equalRows_of_sameItems : ∀ {as bs : List Value}, allKeys bs = true → sameItems as bs = true →
    equalRows as bs = true
  | [], [], _, _ => rfl
  | [], _ :: _, _, same | _ :: _, [], _, same => by cases same
  | a :: as, b :: bs, keys, same => by
      obtain ⟨key, more⟩ := allKeys_cons.mp keys
      obtain ⟨first, rest⟩ := Bool.and_eq_true_iff.mp same
      rw [equalRows, equalKeys_of_same key first, equalRows_of_sameItems more rest]
      rfl

theorem allAmong_of_sameItems : ∀ {as bs all : List Value}, allKeys bs = true → sameItems as bs = true →
    bs ⊆ all → allAmong as all = true
  | [], _, _, _, _, _ => rfl
  | _ :: _, [], _, _, same, _ => by cases same
  | a :: as, b :: bs, all, keys, same, among => by
      obtain ⟨key, more⟩ := allKeys_cons.mp keys
      obtain ⟨first, rest⟩ := Bool.and_eq_true_iff.mp same
      rw [allAmong, Bool.and_eq_true, List.any_eq_true]
      exact ⟨⟨b, among List.mem_cons_self, equalKeys_of_same key first⟩,
        allAmong_of_sameItems more rest fun _ member => among (List.mem_cons_of_mem _ member)⟩

theorem isAmong_of_sameItems : ∀ {as bs : List Value} {b : Value}, allKeys bs = true → sameItems as bs = true →
    b ∈ bs → isAmong as b = true
  | [], [], _, _, _, member => absurd member List.not_mem_nil
  | [], _ :: _, _, _, same, _ | _ :: _, [], _, _, same, _ => by cases same
  | a :: as, c :: bs, b, keys, same, member => by
      obtain ⟨key, more⟩ := allKeys_cons.mp keys
      obtain ⟨first, rest⟩ := Bool.and_eq_true_iff.mp same
      rw [isAmong, Bool.or_eq_true]
      rcases List.mem_cons.mp member with rfl | later
      · exact .inl (equalKeys_of_same key first)
      · exact .inr (isAmong_of_sameItems more rest later)

end

end Value

end SourceRecovery
