/-
Module: SourceRecovery.Proofs.ValueParts
Layer: Proofs
Purpose: What occurs in a value, at any depth. A value has a property everywhere when it has it and all its entries,
  keys and values have it everywhere. Literals are the values in which no unit and no raw text occurs, and a value reads
  back from its literal when nothing occurs in it that has no literal of its own and no dictionary has equal keys.
Imports: SourceRecovery.Proofs.LiteralRoundTrip, SourceRecovery.Proofs.UnitNesting
Trusted boundary: none
Main exports: Value.Occurs, Value.Everywhere, Value.Sound, Value.isExact, Value.everywhere_of_items?,
  Value.everywhere_dict, Value.isLiteral_of_occurs, Value.restorable_of_everywhere
Open obligations: none
-/
import SourceRecovery.Proofs.LiteralRoundTrip
import SourceRecovery.Proofs.UnitNesting

namespace SourceRecovery.Value

/-- A value is another one or occurs in it, at any depth. -/
inductive Occurs (part : Value) : Value → Prop where
  | self : Occurs part part
  | entry {v : Value} {items : List Value} {item : Value} (row : v.items? = some items) (member : item ∈ items)
      (inside : Occurs part item) : Occurs part v
  | key {pairs : List (Value × Value)} {entry : Value × Value} (member : entry ∈ pairs)
      (inside : Occurs part entry.1) : Occurs part (.dict pairs)
  | value {pairs : List (Value × Value)} {entry : Value × Value} (member : entry ∈ pairs)
      (inside : Occurs part entry.2) : Occurs part (.dict pairs)

/-- All that occurs in a value is as wanted. -/
def Everywhere (wanted : Value → Prop) (v : Value) : Prop :=
  ∀ part, part.Occurs v → wanted part

theorem Occurs.trans {part middle whole : Value} (inner : part.Occurs middle) (outer : middle.Occurs whole) :
    part.Occurs whole := by
  induction outer with
  | self => exact inner
  | entry row member _ ih => exact .entry row member ih
  | key member _ ih => exact .key member ih
  | value member _ ih => exact .value member ih

variable {wanted : Value → Prop} {v part : Value}

namespace Everywhere

theorem here (every : v.Everywhere wanted) : wanted v :=
  every v .self

theorem inside (every : v.Everywhere wanted) (occurs : part.Occurs v) : part.Everywhere wanted :=
  fun _ inner => every _ (inner.trans occurs)

theorem imp {weaker : Value → Prop} (every : v.Everywhere wanted) (implies : ∀ part, wanted part → weaker part) :
    v.Everywhere weaker :=
  fun part occurs => implies part (every part occurs)

theorem and {other : Value → Prop} (every : v.Everywhere wanted) (everyOther : v.Everywhere other) :
    v.Everywhere fun part => wanted part ∧ other part :=
  fun part occurs => ⟨every part occurs, everyOther part occurs⟩

theorem items? (every : v.Everywhere wanted) {items : List Value} (row : v.items? = some items) :
    ∀ item ∈ items, item.Everywhere wanted :=
  fun _ member => every.inside (.entry row member .self)

theorem pairs {pairs : List (Value × Value)} (every : (Value.dict pairs).Everywhere wanted) :
    ∀ entry ∈ pairs, entry.1.Everywhere wanted ∧ entry.2.Everywhere wanted :=
  fun _ member => ⟨every.inside (.key member .self), every.inside (.value member .self)⟩

end Everywhere

/-- In a tuple, list or set occurs what occurs in its entries. -/
theorem everywhere_of_items? {items : List Value} (row : v.items? = some items) (here : wanted v)
    (every : ∀ item ∈ items, item.Everywhere wanted) : v.Everywhere wanted := by
  intro part occurs
  cases occurs with
  | self => exact here
  | entry otherRow member inside =>
      cases row.symm.trans otherRow
      exact every _ member part inside
  | key => cases row
  | value => cases row

/-- In a dictionary occurs what occurs in its keys and values. -/
theorem everywhere_dict {pairs : List (Value × Value)} (here : wanted (.dict pairs))
    (every : ∀ entry ∈ pairs, entry.1.Everywhere wanted ∧ entry.2.Everywhere wanted) :
    (Value.dict pairs).Everywhere wanted := by
  intro part occurs
  cases occurs with
  | self => exact here
  | entry row => cases row
  | key member inside => exact (every _ member).1 part inside
  | value member inside => exact (every _ member).2 part inside

theorem everywhere_scalar (scalar : v.isScalar = true) (here : wanted v) : v.Everywhere wanted := by
  intro part occurs
  cases occurs with
  | self => exact here
  | entry row => cases (items?_of_isScalar scalar).symm.trans row
  | key => cases scalar
  | value => cases scalar

theorem everywhere_code {unit : Nat} (here : wanted (.code unit)) : (Value.code unit).Everywhere wanted := by
  intro part occurs
  cases occurs with
  | self => exact here
  | entry row => cases row

/-! ### Literals -/

theorem allLiteral_iff {items : List Value} : allLiteral items = true ↔ ∀ item ∈ items, item.isLiteral = true := by
  induction items with
  | nil => simp [allLiteral]
  | cons item items ih => rw [allLiteral, Bool.and_eq_true, ih, List.forall_mem_cons]

theorem allPairsLiteral_iff {pairs : List (Value × Value)} :
    allPairsLiteral pairs = true ↔ ∀ entry ∈ pairs, entry.1.isLiteral = true ∧ entry.2.isLiteral = true := by
  induction pairs with
  | nil => simp [allPairsLiteral]
  | cons entry pairs ih =>
      rw [allPairsLiteral, Bool.and_eq_true, Bool.and_eq_true, ih, List.forall_mem_cons]

theorem isLiteral_of_items? {items : List Value} (row : v.items? = some items) : v.isLiteral = allLiteral items := by
  cases v with
  | tuple | list | set | frozenset =>
      cases row
      rw [isLiteral]
  | _ => cases row

/-- What occurs in a literal is a literal. -/
theorem isLiteral_of_occurs (occurs : part.Occurs v) (literal : v.isLiteral = true) : part.isLiteral = true := by
  induction occurs with
  | self => exact literal
  | entry row member _ ih =>
      rw [isLiteral_of_items? row, allLiteral_iff] at literal
      exact ih (literal _ member)
  | key member _ ih =>
      rw [isLiteral, allPairsLiteral_iff] at literal
      exact ih (literal _ member).1
  | value member _ ih =>
      rw [isLiteral, allPairsLiteral_iff] at literal
      exact ih (literal _ member).2

/-! ### Values that read back -/

/-- What is asked of a value itself, its parts aside, so that its literal has a value: it is no unit, an integer is not
    the least one, and no two keys of a dictionary compare as equal. -/
def Sound : Value → Prop
  | .int n => n ≠ Int64.minValue
  | .dict pairs => DistinctKeys pairs
  | .code _ => False
  | _ => True

/-- The value itself, its parts aside, is neither a floating-point or complex number nor raw text. -/
def isExact : Value → Bool
  | .float _ | .complex _ _ | .raw _ => false
  | _ => true

mutual

/-- A restorable value compares as equal to itself. -/
theorem same_self : ∀ {v : Value}, v.Restorable → v.same v = true
  | .none, _ | .ellipsis, _ => by rw [same]
  | .bool _, _ | .int _, _ | .str _, _ | .bytes _, _ => by
      rw [same]
      exact beq_self_eq_true _
  | .tuple _, restorable | .list _, restorable | .set _, restorable | .frozenset _, restorable => by
      rw [same]
      exact sameItems_self restorable
  | .dict _, restorable => by
      rw [same]
      exact samePairs_self restorable.1
  | .float _, restorable | .complex _ _, restorable | .code _, restorable | .raw _, restorable => restorable.elim

theorem sameItems_self : ∀ {items : List Value}, AllRestorable items → sameItems items items = true
  | [], _ => by rw [sameItems]
  | _ :: _, restorable => by
      rw [sameItems, same_self restorable.1, sameItems_self restorable.2]
      rfl

theorem samePairs_self : ∀ {pairs : List (Value × Value)}, PairsRestorable pairs → samePairs pairs pairs = true
  | [], _ => by rw [samePairs]
  | (_, _) :: _, restorable => by
      rw [samePairs, same_self restorable.1, same_self restorable.2.1, samePairs_self restorable.2.2]
      rfl

end

/-- Restorable keys that do not compare as equal are not the same. -/
theorem nodup_of_distinctKeys {pairs : List (Value × Value)} (restorable : PairsRestorable pairs)
    (distinct : DistinctKeys pairs) : (pairs.map Prod.fst).Nodup := by
  induction pairs with
  | nil => exact List.nodup_nil
  | cons entry pairs ih =>
      obtain ⟨differs, rest⟩ := List.pairwise_cons.mp distinct
      refine List.nodup_cons.mpr ⟨fun member => ?_, ih restorable.2.2 rest⟩
      obtain ⟨other, isOther, same⟩ := List.mem_map.mp member
      have equal : entry.1.same other.1 = true := by
        rw [same]
        exact same_self restorable.1
      exact Bool.false_ne_true ((differs other isOther).symm.trans equal)

mutual

/-- A value reads back when it is sound and exact everywhere. -/
theorem restorable_of_everywhere : ∀ {v : Value},
    v.Everywhere (fun part => part.Sound ∧ part.isExact = true) → v.Restorable
  | .none, _ | .bool _, _ | .str _, _ | .bytes _, _ | .ellipsis, _ => trivial
  | .int _, every => every.here.1
  | .tuple _, every | .list _, every | .set _, every | .frozenset _, every =>
      allRestorable_of_everywhere (every.items? rfl)
  | .dict _, every =>
      have each := pairsRestorable_of_everywhere every.pairs
      ⟨each, nodup_of_distinctKeys each every.here.1⟩
  | .code _, every => every.here.1
  | .float _, every | .complex _ _, every | .raw _, every => Bool.false_ne_true every.here.2

theorem allRestorable_of_everywhere : ∀ {items : List Value},
    (∀ item ∈ items, item.Everywhere (fun part => part.Sound ∧ part.isExact = true)) → AllRestorable items
  | [], _ => trivial
  | _ :: _, every =>
      have parts := List.forall_mem_cons.mp every
      ⟨restorable_of_everywhere parts.1, allRestorable_of_everywhere parts.2⟩

theorem pairsRestorable_of_everywhere : ∀ {pairs : List (Value × Value)},
    (∀ entry ∈ pairs, entry.1.Everywhere (fun part => part.Sound ∧ part.isExact = true) ∧
      entry.2.Everywhere (fun part => part.Sound ∧ part.isExact = true)) → PairsRestorable pairs
  | [], _ => trivial
  | (_, _) :: _, every =>
      have parts := List.forall_mem_cons.mp every
      ⟨restorable_of_everywhere parts.1.1, restorable_of_everywhere parts.1.2, pairsRestorable_of_everywhere parts.2⟩

end

end SourceRecovery.Value
