/-
Module: SourceRecovery.Proofs.PathCoverage
Layer: Proofs
Purpose: The bound on visits is enough. What a traversal still owes goes down with every visit, so nothing is
  pending at its end, and every unit that can be reached from the module body has an entry.
Imports: Mathlib.Algebra.GroupWithZero.Nat, SourceRecovery.Index.Paths
Trusted boundary: none
Main exports: Index.Reachable, Index.owed, Index.Settled, Index.assignPaths_covers
Open obligations: none
-/
import Mathlib.Algebra.GroupWithZero.Nat
import SourceRecovery.Index.Paths

namespace SourceRecovery.Index

/-- A unit can be reached from the module body, from unit to child. -/
inductive Reachable (units : List CodeUnit) (root : Nat) : Nat → Prop
  | root : Reachable units root root
  | child {position child : Nat} {u : CodeUnit} (outer : Reachable units root position)
      (found : units[position]? = some u) (inside : child ∈ u.children) : Reachable units root child

/-- The unit at a position has an entry. -/
def visited (done : List PathEntry) (position : Nat) : Bool :=
  done.any fun entry => entry.unit == position

/-- The number of visits that units without an entry will add. -/
def owed (units : List CodeUnit) (seen : Nat → Bool) : Nat :=
  (units.mapIdx fun position u => if seen position then 0 else u.children.length).sum

theorem owed_cons (first : CodeUnit) (rest : List CodeUnit) (seen : Nat → Bool) :
    owed (first :: rest) seen =
      (if seen 0 then 0 else first.children.length) + owed rest (fun position => seen (position + 1)) := by
  rw [owed, List.mapIdx_cons, List.sum_cons]
  rfl

/-- A unit that gets its entry owes nothing more. -/
theorem owed_visit {u : CodeUnit} {units : List CodeUnit} :
    ∀ {seen later : Nat → Bool} {here : Nat}, units[here]? = some u → seen here = false →
      (∀ position, later position = (seen position || here == position)) →
        owed units later + u.children.length = owed units seen := by
  induction units with
  | nil =>
      intro seen later here found
      cases found
  | cons first rest ih =>
      intro seen later here found fresh marks
      rw [owed_cons, owed_cons]
      cases here with
      | zero =>
          have same : (fun position => later (position + 1)) = fun position => seen (position + 1) := by
            funext position
            simp [marks]
          have marked : later 0 = true := by simp [marks]
          cases found
          rw [same, marked, fresh, if_pos rfl, if_neg Bool.false_ne_true]
          omega
      | succ here =>
          have unmarked : later 0 = seen 0 := by simp [marks]
          have inRest : owed rest (fun position => later (position + 1)) + u.children.length =
              owed rest (fun position => seen (position + 1)) := by
            apply ih found fresh
            intro position
            simp [marks]
          rw [unmarked, Nat.add_assoc, inRest]

/-- All units together owe two visits less than the bound. -/
theorem owed_add_two (units : List CodeUnit) : owed units (fun _ => false) + 2 = visitBound units := by
  have adds : ∀ (units : List CodeUnit) (total : Nat),
      units.foldl (fun total u => total + u.children.length) total = owed units (fun _ => false) + total := by
    intro units
    induction units with
    | nil =>
        intro total
        exact (Nat.zero_add total).symm
    | cons first rest ih =>
        intro total
        rw [List.foldl_cons, ih, owed_cons, if_neg Bool.false_ne_true]
        omega
  exact (adds units 2).symm

/-! ### What is visited and what is pending -/

/-- A unit of the module is visited or still to be visited. -/
def Settled (units : List CodeUnit) (pending : List Visit) (done : List PathEntry) (position : Nat) : Prop :=
  position < units.length → visited done position = true ∨ ∃ visit ∈ pending, visit.unit = position

/-- The module body and all children of visited units are settled. -/
structure Closed (units : List CodeUnit) (root : Nat) (pending : List Visit) (done : List PathEntry) : Prop where
  root : Settled units pending done root
  children : ∀ {position child : Nat} {u : CodeUnit}, visited done position = true →
    units[position]? = some u → child ∈ u.children → Settled units pending done child

section

variable {units : List CodeUnit} {root : Nat} {pending : List Visit} {done : List PathEntry}

theorem visited_append (entry : PathEntry) (position : Nat) :
    visited (done ++ [entry]) position = (visited done position || entry.unit == position) := by
  simp [visited]

/-- A visit that leads to no unit, or to a visited one, can be dropped. -/
theorem Settled.skip {visit : Visit} {position : Nat} (settled : Settled units (visit :: pending) done position)
    (idle : units[visit.unit]? = none ∨ visited done visit.unit = true) : Settled units pending done position := by
  intro inRange
  rcases settled inRange with seen | ⟨other, member, rfl⟩
  · exact .inl seen
  · rcases List.mem_cons.mp member with rfl | later
    · rcases idle with outside | seen
      · exact absurd inRange (Nat.not_lt.mpr (List.getElem?_eq_none_iff.mp outside))
      · exact .inl seen
    · exact .inr ⟨other, later, rfl⟩

/-- A visit turns a pending unit into a visited one. -/
theorem Settled.visit {visit : Visit} {position : Nat} (settled : Settled units (visit :: pending) done position)
    {entry : PathEntry} (same : entry.unit = visit.unit) (more : List Visit) :
    Settled units (more ++ pending) (done ++ [entry]) position := by
  intro inRange
  rw [visited_append]
  rcases settled inRange with seen | ⟨other, member, rfl⟩
  · exact .inl (by rw [seen, Bool.true_or])
  · rcases List.mem_cons.mp member with rfl | later
    · exact .inl (by rw [same, beq_self_eq_true, Bool.or_true])
    · exact .inr ⟨other, List.mem_append_right more later, rfl⟩

theorem Closed.skip {visit : Visit} (closed : Closed units root (visit :: pending) done)
    (idle : units[visit.unit]? = none ∨ visited done visit.unit = true) : Closed units root pending done where
  root := closed.root.skip idle
  children := fun seen found inside => (closed.children seen found inside).skip idle

/-- A visit that adds the children of its unit keeps everything settled. -/
theorem Closed.visit {visit : Visit} (closed : Closed units root (visit :: pending) done) {u : CodeUnit}
    (found : units[visit.unit]? = some u) {entry : PathEntry} (same : entry.unit = visit.unit)
    (parent : Option String) :
    Closed units root (u.children.map (fun child => ⟨child, parent⟩) ++ pending) (done ++ [entry]) where
  root := closed.root.visit same _
  children := by
    intro position child other seen isUnit inside
    rw [visited_append, Bool.or_eq_true] at seen
    rcases seen with before | isNew
    · exact (closed.children before isUnit inside).visit same _
    · rw [beq_iff_eq, same] at isNew
      rw [← isNew, found] at isUnit
      cases isUnit
      intro _
      have isVisit : (⟨child, parent⟩ : Visit) ∈ u.children.map (fun child => ⟨child, parent⟩) :=
        List.mem_map.mpr ⟨child, inside, rfl⟩
      exact .inr ⟨⟨child, parent⟩, List.mem_append_left pending isVisit, rfl⟩

end

/-- With fuel for what is pending and owed, a traversal ends with nothing pending. -/
theorem assignFrom_closed {units : List CodeUnit} {root : Nat} (fuel : Nat) :
    ∀ {pending : List Visit} {done : List PathEntry}, pending.length + owed units (visited done) ≤ fuel →
      Closed units root pending done → Closed units root [] (assignFrom units fuel pending done) := by
  induction fuel with
  | zero =>
      intro pending done enough closed
      have nothing : pending = [] := List.eq_nil_of_length_eq_zero (by omega)
      rw [nothing] at closed
      exact closed
  | succ fuel ih =>
      intro pending done enough closed
      cases pending with
      | nil =>
          exact closed
      | cons visit pending =>
          rw [List.length_cons] at enough
          unfold assignFrom
          cases found : units[visit.unit]? with
          | none =>
              exact ih (by omega) (closed.skip (.inl found))
          | some u =>
              dsimp only
              split
              · rename_i seen
                exact ih (by omega) (closed.skip (.inr seen))
              · rename_i fresh
                apply ih
                · have paid : owed units (visited (done ++ [entryFor done visit u])) + u.children.length =
                      owed units (visited done) :=
                    owed_visit found (Bool.eq_false_iff.mpr fresh) (visited_append (entryFor done visit u))
                  rw [List.length_append, List.length_map]
                  omega
                · exact closed.visit found rfl _

/-- Every unit of a module that can be reached from its body has an entry. -/
theorem assignPaths_covers {units : List CodeUnit} {root position : Nat}
    (reachable : Reachable units root position) (inRange : position < units.length) :
    ∃ entry ∈ assignPaths units root, entry.unit = position := by
  have closed : Closed units root [] (assignPaths units root) := by
    apply assignFrom_closed
    · have total := owed_add_two units
      have fresh : visited [] = fun _ => false := rfl
      rw [List.length_singleton, fresh]
      omega
    · refine ⟨fun _ => .inr ⟨_, List.mem_singleton_self _, rfl⟩, ?_⟩
      intro position child u seen
      cases seen
  have settled : Settled units [] (assignPaths units root) position := by
    induction reachable with
    | root =>
        exact closed.root
    | child outer found inside ih =>
        have outerInRange := (List.getElem?_eq_some_iff.mp found).1
        rcases ih outerInRange outerInRange with seen | ⟨_, absurd, _⟩
        · exact closed.children seen found inside
        · cases absurd
  rcases settled inRange with seen | ⟨_, absurd, _⟩
  · obtain ⟨entry, member, same⟩ := List.any_eq_true.mp seen
    exact ⟨entry, member, beq_iff_eq.mp same⟩
  · cases absurd

end SourceRecovery.Index
