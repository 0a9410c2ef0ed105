/-
Module: SourceRecovery.Proofs.ValueEquality
Layer: Proofs
Purpose: What it means that two values compare as equal. Where no NaN occurs, values compare as equal exactly when they
  are the same but for the signs of their zeros, so that the comparison is an equivalence; a NaN does not even compare
  as equal to itself.
Imports: Mathlib.Algebra.Group.Nat.Defs, SourceRecovery.Proofs.ValueParts
Trusted boundary: none
Main exports: Value.NaNFree, Value.unsigned, Value.same_iff_unsigned, Value.NaNFree.same_self, Value.NaNFree.same_comm,
  Value.NaNFree.same_congr, Value.NaNFree.same_congr_right
Open obligations: none
-/
import Mathlib.Algebra.Group.Nat.Defs
import SourceRecovery.Proofs.ValueParts

namespace SourceRecovery

/-! ### Numbers -/

namespace Double

/-- The number, with the positive zero for the negative one. -/
def unsigned (x : Double) : Double :=
  if x.isZero then zero else x

theorem isNaN_of_isZero {x : Double} (isZero : x.isZero = true) : x.isNaN = false := by
  have bits : x.bits.toNat % 2 ^ 63 = 0 := beq_iff_eq.mp isZero
  have exponent : x.biased = 0 := by
    show x.bits.toNat / 2 ^ 52 % 2048 = 0
    omega
  rw [isNaN, exponent]
  rfl

/-- A number compares as equal to what is the same but for the sign of a zero. -/
theorem sameNumber_iff_unsigned {x y : Double} (number : x.isNaN = false) :
    x.sameNumber y = true ↔ x.unsigned = y.unsigned := by
  have isZero : zero.isZero = true := rfl
  simp only [sameNumber, number, Bool.not_false, Bool.true_and, Bool.and_eq_true, Bool.not_eq_true', Bool.or_eq_true,
    beq_iff_eq]
  constructor
  · rintro ⟨_, same | ⟨xZero, yZero⟩⟩
    · rw [show x = y from congrArg Double.mk same]
    · rw [unsigned, unsigned, if_pos xZero, if_pos yZero]
  · intro same
    unfold unsigned at same
    by_cases xZero : x.isZero = true <;> by_cases yZero : y.isZero = true
    · exact ⟨isNaN_of_isZero yZero, .inr ⟨xZero, yZero⟩⟩
    · rw [if_pos xZero, if_neg yZero] at same
      rw [same] at isZero
      exact absurd isZero yZero
    · rw [if_neg xZero, if_pos yZero] at same
      rw [← same] at isZero
      exact absurd isZero xZero
    · rw [if_neg xZero, if_neg yZero] at same
      rw [← same]
      exact ⟨number, .inl rfl⟩

end Double

namespace Value

/-! ### Values without NaN -/

/-- The value itself, its parts aside, is a NaN or has one for a part of a complex number. -/
def isNaN : Value → Bool
  | .float x => x.isNaN
  | .complex re im => re.isNaN || im.isNaN
  | _ => false

/-- No NaN occurs in the value. -/
def NaNFree (v : Value) : Prop :=
  v.Everywhere fun part => part.isNaN = false

theorem naNFree_of_isScalar {v : Value} (scalar : v.isScalar = true) (number : v.isNaN = false) : v.NaNFree :=
  everywhere_scalar scalar number

mutual

/-- The value with positive zeros for its negative ones. -/
def unsigned : Value → Value
  | .float x => .float x.unsigned
  | .complex re im => .complex re.unsigned im.unsigned
  | .tuple items => .tuple (unsignedItems items)
  | .list items => .list (unsignedItems items)
  | .set items => .set (unsignedItems items)
  | .frozenset items => .frozenset (unsignedItems items)
  | .dict pairs => .dict (unsignedPairs pairs)
  | v => v

/-- A row of values with positive zeros. -/
def unsignedItems : List Value → List Value
  | [] => []
  | v :: rest => unsigned v :: unsignedItems rest

/-- A row of pairs with positive zeros. -/
def unsignedPairs : List (Value × Value) → List (Value × Value)
  | [] => []
  | (k, v) :: rest => (unsigned k, unsigned v) :: unsignedPairs rest

end

mutual

/-- A value compares as equal to what is the same but for the signs of zeros. -/
theorem same_iff_unsigned : ∀ {v : Value}, v.NaNFree → ∀ w, v.same w = true ↔ v.unsigned = w.unsigned
  | .none, _, w | .ellipsis, _, w | .bool _, _, w | .int _, _, w | .str _, _, w | .bytes _, _, w | .code _, _, w
  | .raw _, _, w => by
      cases w <;> simp [same, unsigned]
  | .float x, free, w => by
      have number : x.isNaN = false := free.here
      cases w <;> simp [same, unsigned, Double.sameNumber_iff_unsigned number]
  | .complex re im, free, w => by
      have numbers : re.isNaN = false ∧ im.isNaN = false := Bool.or_eq_false_iff.mp free.here
      cases w <;>
        simp [same, unsigned, Double.sameNumber_iff_unsigned numbers.1, Double.sameNumber_iff_unsigned numbers.2]
  | .tuple _, free, w | .list _, free, w | .set _, free, w | .frozenset _, free, w => by
      have rows := sameItems_iff_unsigned (free.items? rfl)
      cases w <;> simp [same, unsigned, rows]
  | .dict _, free, w => by
      have rows := samePairs_iff_unsigned free.pairs
      cases w <;> simp [same, unsigned, rows]

theorem sameItems_iff_unsigned : ∀ {as : List Value}, (∀ v ∈ as, v.NaNFree) →
    ∀ bs, sameItems as bs = true ↔ unsignedItems as = unsignedItems bs
  | [], _, bs => by
      cases bs <;> simp [sameItems, unsignedItems]
  | v :: as, free, bs => by
      obtain ⟨first, rest⟩ := List.forall_mem_cons.mp free
      cases bs with
      | nil => simp [sameItems, unsignedItems]
      | cons w bs => simp [sameItems, unsignedItems, same_iff_unsigned first w, sameItems_iff_unsigned rest bs]

theorem samePairs_iff_unsigned : ∀ {as : List (Value × Value)}, (∀ entry ∈ as, entry.1.NaNFree ∧ entry.2.NaNFree) →
    ∀ bs, samePairs as bs = true ↔ unsignedPairs as = unsignedPairs bs
  | [], _, bs => by
      cases bs <;> simp [samePairs, unsignedPairs]
  | (k, v) :: as, free, bs => by
      obtain ⟨first, rest⟩ := List.forall_mem_cons.mp free
      cases bs with
      | nil => simp [samePairs, unsignedPairs]
      | cons entry bs =>
          simp [samePairs, unsignedPairs, same_iff_unsigned first.1 entry.1, same_iff_unsigned first.2 entry.2,
            samePairs_iff_unsigned rest bs]

end

namespace NaNFree

variable {v w : Value}

/-- Without a NaN in it, a value compares as equal to itself. -/
theorem same_self (free : v.NaNFree) : v.same v = true :=
  (same_iff_unsigned free v).mpr rfl

theorem same_comm (free : v.NaNFree) (other : w.NaNFree) : v.same w = w.same v := by
  rw [Bool.eq_iff_iff, same_iff_unsigned free, same_iff_unsigned other]
  exact eq_comm

/-- Values that compare as equal compare in the same way to others. -/
theorem same_congr (free : v.NaNFree) (other : w.NaNFree) (equal : v.same w = true) (x : Value) :
    v.same x = w.same x := by
  rw [Bool.eq_iff_iff, same_iff_unsigned free, same_iff_unsigned other, (same_iff_unsigned free w).mp equal]

theorem same_congr_right {x : Value} (free : x.NaNFree) (freeLeft : v.NaNFree) (equal : v.same w = true) :
    x.same v = x.same w := by
  rw [Bool.eq_iff_iff, same_iff_unsigned free, same_iff_unsigned free, (same_iff_unsigned freeLeft w).mp equal]

end NaNFree

end Value

end SourceRecovery
