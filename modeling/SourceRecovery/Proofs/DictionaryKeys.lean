/-
Module: SourceRecovery.Proofs.DictionaryKeys
Layer: Proofs
Purpose: Dictionaries built pair by pair. As long as no two keys compare as equal, every pair goes to the end
  and the dictionary is the list of its pairs. In general no two keys of the dictionary compare as equal, and the
  first entry keeps its place and has the value that was written last to its key.
Imports: SourceRecovery.Value.Basic
Trusted boundary: none
Main exports: Value.DistinctKeys, Value.insertAll_of_distinctKeys, Value.distinctKeys_insertAll, Value.insertAll_cons
Open obligations: none
-/
import SourceRecovery.Value.Basic

namespace SourceRecovery.Value

/-- No key compares as equal to a later one. -/
def DistinctKeys (pairs : List (Value × Value)) : Prop :=
  pairs.Pairwise fun earlier later => earlier.1.same later.1 = false

/-- A key that is not there yet goes to the end. -/
theorem insert_of_fresh {key value : Value} {pairs : List (Value × Value)}
    (fresh : ∀ entry ∈ pairs, entry.1.same key = false) :
    insert key value pairs = pairs ++ [(key, value)] := by
  induction pairs with
  | nil =>
      rfl
  | cons entry pairs ih =>
      have differs : entry.1.same key = false := fresh entry (by simp)
      simp only [insert, differs, Bool.false_eq_true, if_false, List.cons_append]
      rw [ih fun other member => fresh other (by simp [member])]

/-- Pairs whose keys differ are inserted one behind the other. -/
theorem insertAll_of_distinctKeys {added : List (Value × Value)} :
    ∀ {pairs : List (Value × Value)}, DistinctKeys (pairs ++ added) →
      insertAll pairs added = pairs ++ added := by
  induction added with
  | nil =>
      intro pairs _
      simp [insertAll]
  | cons entry added ih =>
      intro pairs distinct
      have fresh : ∀ other ∈ pairs, other.1.same entry.1 = false := by
        intro other member
        exact (List.pairwise_append.mp distinct).2.2 other member entry (by simp)
      have step : insertAll pairs (entry :: added) = insertAll (pairs ++ [entry]) added := by
        simp only [insertAll, List.foldl_cons]
        rw [insert_of_fresh fresh]
      rw [step, ih]
      · simp
      · simpa using distinct

/-- Insertion brings in no key but its own. -/
theorem fst_of_mem_insert {key value : Value} {pairs : List (Value × Value)} {entry : Value × Value}
    (member : entry ∈ insert key value pairs) : entry.1 = key ∨ ∃ old ∈ pairs, entry.1 = old.1 := by
  induction pairs with
  | nil =>
      exact .inl (congrArg Prod.fst (List.mem_singleton.mp member))
  | cons first pairs ih =>
      rw [insert] at member
      split at member
      case isTrue =>
        rcases List.mem_cons.mp member with rfl | later
        · exact .inr ⟨first, List.mem_cons_self, rfl⟩
        · exact .inr ⟨entry, List.mem_cons_of_mem _ later, rfl⟩
      case isFalse =>
        rcases List.mem_cons.mp member with rfl | later
        · exact .inr ⟨first, List.mem_cons_self, rfl⟩
        · exact (ih later).imp_right fun ⟨old, isOld, same⟩ => ⟨old, List.mem_cons_of_mem _ isOld, same⟩

/-- Insertion keeps the keys distinct: an equal key stays, and another one goes to the end. -/
theorem distinctKeys_insert {pairs : List (Value × Value)} (distinct : DistinctKeys pairs) (key value : Value) :
    DistinctKeys (insert key value pairs) := by
  induction pairs with
  | nil =>
      exact List.pairwise_singleton _ _
  | cons first pairs ih =>
      obtain ⟨differs, rest⟩ := List.pairwise_cons.mp distinct
      rw [insert]
      split
      case isTrue => exact List.pairwise_cons.mpr ⟨differs, rest⟩
      case isFalse other =>
        refine List.pairwise_cons.mpr ⟨fun entry member => ?_, ih rest⟩
        rcases fst_of_mem_insert member with isKey | ⟨old, isOld, same⟩
        · rw [isKey]
          exact Bool.eq_false_iff.mpr other
        · rw [same]
          exact differs old isOld

theorem distinctKeys_insertAll {pairs : List (Value × Value)} (distinct : DistinctKeys pairs)
    (added : List (Value × Value)) : DistinctKeys (insertAll pairs added) := by
  induction added generalizing pairs with
  | nil =>
      exact distinct
  | cons entry added ih =>
      exact ih (distinctKeys_insert distinct entry.1 entry.2)

/-! ### The last value at the first place -/

/-- The value of a key after pairs are written: that of the last pair with the key, or the old one when there is
    none. -/
def lastWritten (key value : Value) (added : List (Value × Value)) : Value :=
  ((added.filter fun entry => key.same entry.1).getLast?.map Prod.snd).getD value

/-- The pairs that are written to other keys. -/
def besides (key : Value) (added : List (Value × Value)) : List (Value × Value) :=
  added.filter fun entry => !key.same entry.1

theorem length_besides_le (key : Value) (added : List (Value × Value)) :
    (besides key added).length ≤ added.length :=
  List.length_filter_le _ _

/-- The first pair written to a key is only seen when no other one follows. -/
theorem lastWritten_cons (key value : Value) (entry : Value × Value) (added : List (Value × Value)) :
    lastWritten key value (entry :: added) =
      lastWritten key (if key.same entry.1 then entry.2 else value) added := by
  unfold lastWritten
  rw [List.filter_cons]
  cases key.same entry.1 with
  | true =>
      rw [if_pos rfl, if_pos rfl, List.getLast?_cons]
      cases (added.filter fun entry => key.same entry.1).getLast? with
      | none =>
          rfl
      | some last =>
          rfl
  | false =>
      rw [if_neg Bool.false_ne_true, if_neg Bool.false_ne_true]

/-- The first entry takes the last value written to its key, and the other pairs go to the entries behind it. -/
theorem insertAll_cons (key value : Value) (pairs added : List (Value × Value)) :
    insertAll ((key, value) :: pairs) added =
      (key, lastWritten key value added) :: insertAll pairs (besides key added) := by
  induction added generalizing value pairs with
  | nil =>
      rfl
  | cons entry added ih =>
      have written : insertAll ((key, value) :: pairs) (entry :: added) =
          insertAll (insert entry.1 entry.2 ((key, value) :: pairs)) added := rfl
      rw [written, insert, lastWritten_cons, besides, List.filter_cons]
      cases key.same entry.1 with
      | true =>
          rw [if_pos rfl, if_pos rfl, ih]
          rfl
      | false =>
          rw [if_neg Bool.false_ne_true, if_neg Bool.false_ne_true, ih]
          rfl

end SourceRecovery.Value
