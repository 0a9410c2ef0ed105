/-
Module: SourceRecovery.Proofs.KeyOrder
Layer: Proofs
Purpose: The order of texts is the one of the library, and a list that is sorted by a key is in ascending order of it.
Imports: Mathlib.Data.String.Basic, SourceRecovery.Text.Basic
Trusted boundary: none
Main exports: Text.le_iff, pairwise_mergeSort_key
Open obligations: none
-/
import Mathlib.Data.String.Basic
import SourceRecovery.Text.Basic

namespace SourceRecovery

theorem Text.Chars.le_iff_not_lt (cs ds : List Char) : Chars.le cs ds = true ↔ ¬ ds < cs := by
  induction cs generalizing ds with
  | nil =>
      simp [Chars.le]
  | cons c cs ih =>
      cases ds with
      | nil =>
          simp [Chars.le]
      | cons d ds =>
          rw [List.cons_lt_cons_iff, Chars.le]
          by_cases same : c = d
          · subst same
            simp [ih]
          · have order : c.toNat < d.toNat ↔ c < d := Iff.rfl
            have different : (c == d) = false := by simpa using same
            have other : d ≠ c := fun back => same back.symm
            rw [different]
            simp only [Bool.false_eq_true, if_false, decide_eq_true_eq, order, other, false_and, or_false, not_lt]
            exact ⟨le_of_lt, fun below => lt_of_le_of_ne below same⟩

/-- Texts are compared as the library compares them. -/
theorem Text.le_iff (a b : String) : Text.le a b = true ↔ a ≤ b := by
  rw [Text.le, Chars.le_iff_not_lt, ← String.lt_iff, not_lt]

/-- Sorting by the order of a key puts the keys in ascending order. -/
theorem pairwise_mergeSort_key {α κ : Type} [LinearOrder κ] {le : α → α → Bool} {key : α → κ}
    (byKey : ∀ a b, le a b = true ↔ key a ≤ key b) (entries : List α) :
    (entries.mergeSort le).Pairwise fun a b => key a ≤ key b := by
  have trans (a b c : α) (first : le a b = true) (second : le b c = true) : le a c = true := by
    rw [byKey] at first second ⊢
    exact le_trans first second
  have total (a b : α) : (le a b || le b a) = true := by
    rw [Bool.or_eq_true, byKey, byKey]
    exact le_total (key a) (key b)
  have sorted := List.pairwise_mergeSort trans total entries
  exact sorted.imp fun ordered => (byKey _ _).mp ordered

end SourceRecovery
