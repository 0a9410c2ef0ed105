/-
Module: SourceRecovery.Proofs.RunCounts
Layer: Proofs
Purpose: What the statistics of a run say. They count what was recorded by status and by backend, with the backends in
  ascending order, and this determines them: the order in which artifacts were recorded cannot be seen.
Imports: Mathlib.Algebra.GroupWithZero.Nat, SourceRecovery.Statistics, SourceRecovery.Proofs.KeyOrder
Trusted boundary: none
Main exports: Statistics.Counts, Statistics.Counts.record, Statistics.Counts.unique,
  Statistics.Counts.statuses, Statistics.Counts.backends
Open obligations: none
-/
import Mathlib.Algebra.GroupWithZero.Nat
import SourceRecovery.Statistics
import SourceRecovery.Proofs.KeyOrder

namespace SourceRecovery

namespace Statistics

/-! ### Counting up -/

/-- Counts with every name once, in ascending order. -/
def Ascending (counts : List (String × Nat)) : Prop :=
  counts.Pairwise fun a b => a.1 < b.1

section CountUp

variable {name : String} {counts : List (String × Nat)}

/-- The entry of the name goes up, or it is new; the others stay. -/
theorem mem_countUp (ascending : Ascending counts) (x : String) (n : Nat) :
    (x, n) ∈ countUp name counts ↔
      x ≠ name ∧ (x, n) ∈ counts ∨
        x = name ∧ ((∃ m, (name, m) ∈ counts ∧ n = m + 1) ∨ (∀ m, (name, m) ∉ counts) ∧ n = 1) := by
  induction counts with
  | nil =>
      simp [countUp]
  | cons entry counts ih =>
      obtain ⟨above, later⟩ := List.pairwise_cons.mp ascending
      obtain ⟨key, count⟩ := entry
      rw [countUp]
      by_cases here : key = name
      · subst here
        have gone (m : Nat) : (key, m) ∉ counts := fun member => lt_irrefl key (above _ member)
        rw [if_pos rfl]
        by_cases same : x = key
        · subst same
          simp [gone]
        · simp [same]
      · by_cases below : Text.le key name = true
        · rw [if_neg here, if_pos below, List.mem_cons, ih later]
          by_cases same : x = name
          · subst same
            simp [Ne.symm here]
          · simp [same]
        · have before : name < key := by
            rw [Text.le_iff, not_le] at below
            exact below
          have absent (m : Nat) : (name, m) ∉ (key, count) :: counts := by
            rintro (_ | ⟨_, member⟩)
            · exact here rfl
            · exact lt_asymm before (above _ member)
          rw [if_neg here, if_neg below, List.mem_cons]
          by_cases same : x = name
          · subst same
            simp [absent]
          · simp [same]

theorem ascending_countUp (ascending : Ascending counts) : Ascending (countUp name counts) := by
  induction counts with
  | nil =>
      simp [countUp, Ascending]
  | cons entry counts ih =>
      obtain ⟨above, later⟩ := List.pairwise_cons.mp ascending
      rw [countUp]
      by_cases here : entry.1 = name
      · rw [if_pos here]
        exact List.pairwise_cons.mpr ⟨above, later⟩
      · by_cases below : Text.le entry.1 name = true
        · rw [if_neg here, if_pos below]
          refine List.pairwise_cons.mpr ⟨?_, ih later⟩
          rintro ⟨x, n⟩ member
          rcases (mem_countUp later x n).mp member with ⟨-, old⟩ | ⟨rfl, -⟩
          · exact above _ old
          · exact lt_of_le_of_ne ((Text.le_iff _ _).mp below) here
        · have before : name < entry.1 := by
            rw [Text.le_iff, not_le] at below
            exact below
          rw [if_neg here, if_neg below]
          refine List.pairwise_cons.mpr ⟨?_, ascending⟩
          intro other member
          rcases List.mem_cons.mp member with rfl | old
          · exact before
          · exact lt_trans before (above _ old)

theorem sum_countUp : ((countUp name counts).map Prod.snd).sum = (counts.map Prod.snd).sum + 1 := by
  induction counts with
  | nil =>
      rfl
  | cons entry counts ih =>
      rw [countUp]
      split
      · simp only [List.map_cons, List.sum_cons]
        omega
      · split
        · simp only [List.map_cons, List.sum_cons, ih]
          omega
        · simp only [List.map_cons, List.sum_cons]
          omega

end CountUp

/-! ### What is counted -/

/-- Statistics count records: each has a status and a backend. -/
structure Counts (s : Statistics) (records : List (Status × String)) : Prop where
  total : s.total = records.length
  complete : s.complete = (records.map Prod.fst).count .complete
  incomplete : s.incomplete = (records.map Prod.fst).count .incomplete
  failed : s.failed = (records.map Prod.fst).count .failed
  byBackend : ∀ name n, (name, n) ∈ s.byBackend ↔ n = (records.map Prod.snd).count name ∧ 0 < n
  ascending : Ascending s.byBackend

namespace Counts

variable {s t : Statistics} {records others : List (Status × String)}

theorem nil : Counts {} [] where
  total := rfl
  complete := rfl
  incomplete := rfl
  failed := rfl
  byBackend name n := by
    simp only [List.not_mem_nil, List.map_nil, List.count_nil, false_iff]
    omega
  ascending := .nil

/-- One more record is counted. -/
theorem record (counts : s.Counts records) (status : Status) (backend : String) :
    (s.record status backend).Counts ((status, backend) :: records) where
  total := by
    simp [Statistics.record, counts.total]
  complete := by
    simp [Statistics.record, counts.complete, List.count_cons]
  incomplete := by
    simp [Statistics.record, counts.incomplete, List.count_cons]
  failed := by
    simp [Statistics.record, counts.failed, List.count_cons]
  byBackend name n := by
    rw [Statistics.record, mem_countUp counts.ascending, List.map_cons, List.count_cons]
    simp only [counts.byBackend]
    by_cases same : name = backend
    · subst same
      simp only [ne_eq, not_true_eq_false, false_and, true_and, false_or, beq_self_eq_true, if_true]
      constructor
      · rintro (⟨m, ⟨rfl, -⟩, rfl⟩ | ⟨absent, rfl⟩)
        · exact ⟨rfl, Nat.succ_pos _⟩
        · have none : (records.map Prod.snd).count name = 0 := by
            by_contra some
            exact absent _ ⟨rfl, Nat.pos_of_ne_zero some⟩
          rw [none]
          exact ⟨rfl, Nat.one_pos⟩
      · rintro ⟨rfl, -⟩
        rcases Nat.eq_zero_or_pos ((records.map Prod.snd).count name) with none | some
        · right
          rw [none]
          exact ⟨fun m => by omega, rfl⟩
        · left
          exact ⟨_, ⟨rfl, some⟩, rfl⟩
    · have different : (backend == name) = false := by simpa using Ne.symm same
      simp [same, different]
  ascending := ascending_countUp counts.ascending

/-- The order of the records does not count. -/
theorem perm (counts : s.Counts records) (same : records.Perm others) : s.Counts others where
  total := by rw [counts.total, same.length_eq]
  complete := by rw [counts.complete, (same.map Prod.fst).count_eq]
  incomplete := by rw [counts.incomplete, (same.map Prod.fst).count_eq]
  failed := by rw [counts.failed, (same.map Prod.fst).count_eq]
  byBackend name n := by rw [counts.byBackend, (same.map Prod.snd).count_eq]
  ascending := counts.ascending

/-- Statistics are determined by what they count. -/
theorem unique (counts : s.Counts records) (counted : t.Counts records) : s = t := by
  have distinct {entries : List (String × Nat)} (ascending : Ascending entries) : entries.Nodup := by
    refine ascending.imp ?_
    rintro a b before rfl
    exact lt_irrefl _ before
  have members : s.byBackend.Perm t.byBackend := by
    rw [List.perm_ext_iff_of_nodup (distinct counts.ascending) (distinct counted.ascending)]
    rintro ⟨name, n⟩
    rw [counts.byBackend, counted.byBackend]
  have byBackend : s.byBackend = t.byBackend :=
    List.Perm.eq_of_pairwise (fun a b _ _ before after => absurd after (lt_asymm before)) counts.ascending
      counted.ascending members
  have total := counts.total.trans counted.total.symm
  have complete := counts.complete.trans counted.complete.symm
  have incomplete := counts.incomplete.trans counted.incomplete.symm
  have failed := counts.failed.trans counted.failed.symm
  cases s
  cases t
  simp_all

/-- Every record has one of the three statuses. -/
theorem statuses (counts : s.Counts records) : s.complete + s.incomplete + s.failed = s.total := by
  rw [counts.complete, counts.incomplete, counts.failed, counts.total]
  clear counts
  induction records with
  | nil =>
      rfl
  | cons record records ih =>
      obtain ⟨status, backend⟩ := record
      cases status <;> simp <;> omega

/-- Every record has one backend. -/
theorem backends (counts : s.Counts records) : (s.byBackend.map Prod.snd).sum = s.total := by
  have built (records : List (Status × String)) :
      ∃ t : Statistics, t.Counts records ∧ (t.byBackend.map Prod.snd).sum = t.total := by
    induction records with
    | nil =>
        exact ⟨{}, .nil, rfl⟩
    | cons record records ih =>
        obtain ⟨t, counted, sum⟩ := ih
        refine ⟨t.record record.1 record.2, counted.record record.1 record.2, ?_⟩
        simp only [Statistics.record, sum_countUp, sum]
  obtain ⟨t, counted, sum⟩ := built records
  rw [counts.unique counted]
  exact sum

end Counts

end Statistics

end SourceRecovery
