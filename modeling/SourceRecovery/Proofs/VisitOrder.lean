/-
Module: SourceRecovery.Proofs.VisitOrder
Layer: Proofs
Purpose: The order and the paths of a traversal. The pending visits of a traversal are gone through in the order of the
  recursive depth first walk, in which a unit is reached once and its children come before the rest of its row, however
  units are shared, repeated or nested in each other. Every unit that can be reached gets one path, made from the
  path of the unit it was reached from and tagged with the least number that makes it new.
Imports: Mathlib.Data.List.Forall2, Mathlib.Data.List.Nodup, SourceRecovery.Proofs.NameLookup
Trusted boundary: none
Main exports: Index.Arrival, Index.Walk, Index.LeastFree, Index.Transcribes, Index.assignFrom_transcribes,
  Index.ofModule_walks
Open obligations: none
-/
import Mathlib.Data.List.Forall2
import Mathlib.Data.List.Nodup
import SourceRecovery.Proofs.NameLookup

namespace SourceRecovery.Index

/-! ### The recursive walk -/

/-- A unit with the unit it was reached from; nothing leads to the module body. -/
structure Arrival where
  unit : Nat
  origin : Option Nat
deriving DecidableEq, Repr

/-- The children of a unit, reached from it. -/
def arrivalsAt (position : Nat) (u : CodeUnit) : List Arrival :=
  u.children.map fun child => ⟨child, some position⟩

/-- The recursive depth first walk through a row, from the arrivals recorded before to those recorded after it. What is
    no unit, or was reached before, is passed over. A unit that is reached for the first time is recorded, then its
    children are walked through, and then the rest of the row. -/
inductive Walk (units : List CodeUnit) : (row before after : List Arrival) → Prop
  | done {order : List Arrival} : Walk units [] order order
  | skip {arrival : Arrival} {row before after : List Arrival}
      (idle : units[arrival.unit]? = none ∨ arrival.unit ∈ before.map Arrival.unit)
      (rest : Walk units row before after) : Walk units (arrival :: row) before after
  | visit {arrival : Arrival} {u : CodeUnit} {row before between after : List Arrival}
      (found : units[arrival.unit]? = some u) (fresh : arrival.unit ∉ before.map Arrival.unit)
      (children : Walk units (arrivalsAt arrival.unit u) (before ++ [arrival]) between)
      (rest : Walk units row between after) : Walk units (arrival :: row) before after

namespace Walk

variable {units : List CodeUnit} {row before after : List Arrival}

/-- A walk through two rows is a walk through the first and one through the second. -/
theorem exists_between {front back : List Arrival} (walk : Walk units (front ++ back) before after) :
    ∃ between, Walk units front before between ∧ Walk units back between after := by
  induction front generalizing before with
  | nil =>
      exact ⟨before, .done, walk⟩
  | cons arrival front ih =>
      cases walk with
      | skip idle rest =>
          obtain ⟨between, first, second⟩ := ih rest
          exact ⟨between, .skip idle first, second⟩
      | visit found fresh children rest =>
          obtain ⟨between, first, second⟩ := ih rest
          exact ⟨between, .visit found fresh children first, second⟩

/-- There is one walk at most. -/
theorem unique (walk : Walk units row before after) :
    ∀ {other : List Arrival}, Walk units row before other → other = after := by
  induction walk with
  | done =>
      intro other again
      cases again
      rfl
  | skip idle _ ih =>
      intro other again
      cases again with
      | skip _ rest =>
          exact ih rest
      | visit found fresh _ _ =>
          rcases idle with outside | reached
          · rw [outside] at found
            cases found
          · exact absurd reached fresh
  | visit found fresh _ _ ihChildren ihRest =>
      intro other again
      cases again with
      | skip idle _ =>
          rcases idle with outside | reached
          · rw [outside] at found
            cases found
          · exact absurd reached fresh
      | visit foundAgain _ children rest =>
          rw [found] at foundAgain
          cases foundAgain
          have same := ihChildren children
          subst same
          exact ihRest rest

/-- What a walk keeps, when every arrival of its row and every step to a child brings it about. -/
theorem forall_mem {P : Arrival → Prop} (walk : Walk units row before after)
    (inside : ∀ (arrival child : Arrival) (u : CodeUnit), P arrival → units[arrival.unit]? = some u →
      child ∈ arrivalsAt arrival.unit u → P child)
    (ahead : ∀ arrival ∈ row, P arrival) (earlier : ∀ arrival ∈ before, P arrival) : ∀ arrival ∈ after, P arrival := by
  induction walk with
  | done =>
      exact earlier
  | skip _ _ ih =>
      exact ih (List.forall_mem_cons.mp ahead).2 earlier
  | @visit arrival u row before between after found _ _ _ ihChildren ihRest =>
      obtain ⟨here, later⟩ := List.forall_mem_cons.mp ahead
      apply ihRest later
      apply ihChildren
      · exact fun child member => inside arrival child u here found member
      · rw [List.forall_mem_append, List.forall_mem_singleton]
        exact ⟨earlier, here⟩

/-- Every unit is recorded once. -/
theorem nodup (walk : Walk units row before after) (once : (before.map Arrival.unit).Nodup) :
    (after.map Arrival.unit).Nodup := by
  induction walk with
  | done =>
      exact once
  | skip _ _ ih =>
      exact ih once
  | @visit arrival u row before between after _ fresh _ _ ihChildren ihRest =>
      apply ihRest
      apply ihChildren
      rw [List.map_append, List.map_singleton, List.nodup_append]
      refine ⟨once, List.nodup_singleton _, ?_⟩
      rintro position reached other isNew rfl
      rw [List.mem_singleton.mp isNew] at reached
      exact fresh reached

/-- Arrivals are recorded behind those before. -/
theorem grows (walk : Walk units row before after) : before <+: after := by
  induction walk with
  | done =>
      exact List.prefix_refl _
  | skip _ _ ih =>
      exact ih
  | visit _ _ _ _ ihChildren ihRest =>
      exact (List.prefix_append _ _).trans (ihChildren.trans ihRest)

/-- Only units are recorded. -/
theorem known (walk : Walk units row before after) (earlier : ∀ arrival ∈ before, arrival.unit < units.length) :
    ∀ arrival ∈ after, arrival.unit < units.length := by
  induction walk with
  | done =>
      exact earlier
  | skip _ _ ih =>
      exact ih earlier
  | visit found _ _ _ ihChildren ihRest =>
      apply ihRest
      apply ihChildren
      rw [List.forall_mem_append, List.forall_mem_singleton]
      exact ⟨earlier, (List.getElem?_eq_some_iff.mp found).1⟩

end Walk

/-! ### Free paths -/

/-- The name that is made from a path when some are taken: the path itself when it is free, and otherwise the path with
    the least free tag from two on. -/
inductive LeastFree (taken : List String) (path : String) : String → Prop
  | free (isFree : path ∉ taken) : LeastFree taken path path
  | tag (number : Nat) (isTaken : path ∈ taken) (two : 2 ≤ number) (isFree : tagged path number ∉ taken)
      (least : ∀ lower, 2 ≤ lower → lower < number → tagged path lower ∈ taken) :
      LeastFree taken path (tagged path number)

theorem LeastFree.not_mem {taken : List String} {path name : String} (isLeast : LeastFree taken path name) :
    name ∉ taken := by
  cases isLeast with
  | free isFree => exact isFree
  | tag _ _ _ isFree _ => exact isFree

/-- Nothing has to be tagged when nothing is taken. -/
theorem LeastFree.eq_of_nil {path name : String} (isLeast : LeastFree [] path name) : name = path := by
  cases isLeast with
  | free _ => rfl
  | tag _ isTaken _ _ _ => cases isTaken

/-- Different tags give different paths. -/
theorem tagged_inj {path : String} {a b : Nat} (same : tagged path a = tagged path b) : a = b := by
  have digits : Nat.toDigits 10 a = Nat.toDigits 10 b := by
    have texts := congrArg String.toList same
    rw [toList_tagged, toList_tagged] at texts
    exact (List.cons.inj (List.append_cancel_left texts)).2
  have reads (n : Nat) (below : n < max a b + 1) : readUnsigned 10 (max a b + 1) (Nat.toDigits 10 n) = .ok n :=
    readUnsigned_toDigits (by decide) (by decide) below
  have readsA := reads a (by omega)
  rw [digits, reads b (by omega)] at readsA
  exact (Except.ok.inj readsA).symm

/-- One of as many tags as there are taken paths, and one more, is free. -/
theorem exists_free_tag (taken : List String) (path : String) :
    ∃ k < taken.length + 1, tagged path (2 + k) ∉ taken := by
  by_contra none
  have allTaken : ∀ k < taken.length + 1, tagged path (2 + k) ∈ taken := by
    intro k within
    by_contra isFree
    exact none ⟨k, within, isFree⟩
  have distinct : ((List.range (taken.length + 1)).map fun k => tagged path (2 + k)).Nodup := by
    apply List.Nodup.map _ List.nodup_range
    intro a b same
    exact Nat.add_left_cancel (tagged_inj same)
  have within : ((List.range (taken.length + 1)).map fun k => tagged path (2 + k)) ⊆ taken := by
    intro name member
    obtain ⟨k, isIndex, rfl⟩ := List.mem_map.mp member
    exact allTaken k (List.mem_range.mp isIndex)
  have tooMany := distinct.length_le_of_subset within
  rw [List.length_map, List.length_range] at tooMany
  omega

/-- A fresh path is free, and no lower tag would do. -/
theorem leastFree_freshPath (taken : List String) (path : String) : LeastFree taken path (freshPath taken path) := by
  unfold freshPath
  split
  case isFalse isFree =>
    exact .free (by simpa using isFree)
  case isTrue isTaken =>
    dsimp only
    cases found : (List.map (tagged path) (List.range' 2 (taken.length + 1))).find?
        fun candidate => !taken.contains candidate with
    | none =>
        obtain ⟨k, within, isFree⟩ := exists_free_tag taken path
        have isTag : tagged path (2 + k) ∈ List.map (tagged path) (List.range' 2 (taken.length + 1)) := by
          apply List.mem_map_of_mem
          rw [List.mem_range'_1]
          omega
        have notFree := List.find?_eq_none.mp found _ isTag
        simp [isFree] at notFree
    | some name =>
        obtain ⟨isFree, k, within, isTag, lower⟩ := List.find?_eq_some_iff_getElem.mp found
        rw [List.getElem_map, List.getElem_range', Nat.one_mul] at isTag
        rw [Option.getD_some, ← isTag]
        refine .tag (2 + k) (by simpa using isTaken) (by omega) (by simpa [isTag] using isFree) ?_
        intro number two below
        have isTakenToo := lower (number - 2) (by omega)
        rw [List.getElem_map, List.getElem_range', Nat.one_mul, Nat.add_sub_cancel' two] at isTakenToo
        simpa using isTakenToo

/-! ### Entries and arrivals -/

/-- The path that an arrival asks for, given the entries before it: the name of the unit, below the path of the unit it
    was reached from. -/
inductive Asks (units : List CodeUnit) (before : List PathEntry) : Arrival → String → Prop
  | body {position : Nat} {u : CodeUnit} (found : units[position]? = some u) : Asks units before ⟨position, none⟩ u.name
  | below {position : Nat} {u : CodeUnit} {outer : PathEntry} (found : units[position]? = some u)
      (earlier : outer ∈ before) : Asks units before ⟨position, some outer.unit⟩ (outer.path ++ "." ++ u.name)

/-- Entries record arrivals one by one, each under the least free path that its arrival asks for. -/
inductive Transcribes (units : List CodeUnit) : List PathEntry → List Arrival → Prop
  | nil : Transcribes units [] []
  | snoc {entries : List PathEntry} {order : List Arrival} {entry : PathEntry} {arrival : Arrival} {path : String}
      (front : Transcribes units entries order) (unit : entry.unit = arrival.unit)
      (asks : Asks units entries arrival path) (isLeast : LeastFree (entries.map PathEntry.path) path entry.path) :
      Transcribes units (entries ++ [entry]) (order ++ [arrival])

namespace Transcribes

variable {units : List CodeUnit} {entries : List PathEntry} {order : List Arrival}

theorem units_eq (records : Transcribes units entries order) :
    entries.map PathEntry.unit = order.map Arrival.unit := by
  induction records with
  | nil =>
      rfl
  | snoc _ unit _ _ ih =>
      rw [List.map_append, List.map_append, ih, List.map_singleton, List.map_singleton, unit]

/-- No two entries have the same path. -/
theorem paths_nodup (records : Transcribes units entries order) : (entries.map PathEntry.path).Nodup := by
  induction records with
  | nil =>
      exact List.nodup_nil
  | snoc _ _ _ isLeast ih =>
      rw [List.map_append, List.map_singleton, List.nodup_append]
      refine ⟨ih, List.nodup_singleton _, ?_⟩
      rintro path earlier other isNew rfl
      rw [List.mem_singleton.mp isNew] at earlier
      exact isLeast.not_mem earlier

theorem visited_iff (records : Transcribes units entries order) (position : Nat) :
    visited entries position = true ↔ position ∈ order.map Arrival.unit := by
  rw [← records.units_eq, visited, List.any_eq_true, List.mem_map]
  simp only [beq_iff_eq]

/-- The entry of every arrival, with the path that was asked for. -/
theorem exists_entry (records : Transcribes units entries order) {k : Nat} {arrival : Arrival}
    (found : order[k]? = some arrival) :
    ∃ entry path, entries[k]? = some entry ∧ entry.unit = arrival.unit ∧ Asks units (entries.take k) arrival path ∧
      LeastFree ((entries.take k).map PathEntry.path) path entry.path := by
  induction records with
  | nil =>
      cases found
  | @snoc entries order entry last path front unit asks isLeast ih =>
      have lengths : entries.length = order.length := by
        have counted := congrArg List.length front.units_eq
        rwa [List.length_map, List.length_map] at counted
      by_cases earlier : k < order.length
      · rw [List.getElem?_append_left earlier] at found
        rw [List.getElem?_append_left (lengths ▸ earlier), List.take_append_of_le_length (by omega)]
        exact ih found
      · have isLast : k = order.length := by
          have within := (List.getElem?_eq_some_iff.mp found).1
          rw [List.length_append, List.length_singleton] at within
          omega
        rw [isLast, List.getElem?_concat_length] at found
        cases found
        rw [isLast, ← lengths, List.getElem?_concat_length, List.take_left]
        exact ⟨entry, path, rfl, unit, asks, isLeast⟩

end Transcribes

/-! ### The traversal is the walk -/

/-- A visit is on its way to where an arrival is: it has the path of the entry that the arrival comes from. -/
inductive Follows (entries : List PathEntry) : Visit → Arrival → Prop
  | body (position : Nat) : Follows entries ⟨position, none⟩ ⟨position, none⟩
  | below (position : Nat) {outer : PathEntry} (earlier : outer ∈ entries) :
      Follows entries ⟨position, some outer.path⟩ ⟨position, some outer.unit⟩

namespace Follows

variable {entries : List PathEntry} {visit : Visit} {arrival : Arrival}

theorem unit (follows : Follows entries visit arrival) : visit.unit = arrival.unit := by
  cases follows <;> rfl

theorem append (follows : Follows entries visit arrival) (entry : PathEntry) :
    Follows (entries ++ [entry]) visit arrival := by
  cases follows with
  | body position => exact .body position
  | below position earlier => exact .below position (List.mem_append_left _ earlier)

/-- The entry of a visit asks for the path of the arrival. -/
theorem asks {units : List CodeUnit} {u : CodeUnit} (follows : Follows entries visit arrival)
    (found : units[arrival.unit]? = some u) : Asks units entries arrival (entryFor entries visit u).untagged := by
  cases follows with
  | body position => exact .body found
  | below position earlier => exact .below found earlier

end Follows

/-- The visits that a new entry adds follow the arrivals at the children of its unit. -/
theorem follows_children (entry : PathEntry) (entries : List PathEntry) (u : CodeUnit) {position : Nat}
    (isUnit : entry.unit = position) :
    List.Forall₂ (Follows (entries ++ [entry])) (u.children.map fun child => ⟨child, some entry.path⟩)
      (arrivalsAt position u) := by
  rw [arrivalsAt, List.forall₂_map_left_iff, List.forall₂_map_right_iff, List.forall₂_same]
  intro child _
  rw [← isUnit]
  exact .below child (List.mem_append_right _ (List.mem_singleton_self entry))

/-- With fuel for what is pending and owed, the pending visits are a walk, and the entries record its arrivals. -/
theorem assignFrom_transcribes {units : List CodeUnit} (fuel : Nat) :
    ∀ {visits : List Visit} {entries : List PathEntry} {row order : List Arrival},
      visits.length + owed units (visited entries) ≤ fuel → List.Forall₂ (Follows entries) visits row →
        Transcribes units entries order →
          ∃ after, Walk units row order after ∧ Transcribes units (assignFrom units fuel visits entries) after := by
  induction fuel with
  | zero =>
      intro visits entries row order enough ahead records
      have nothing : visits = [] := List.eq_nil_of_length_eq_zero (by omega)
      subst nothing
      cases ahead
      exact ⟨order, .done, records⟩
  | succ fuel ih =>
      intro visits entries row order enough ahead records
      cases ahead with
      | nil =>
          exact ⟨order, .done, records⟩
      | @cons visit arrival visits row follows ahead =>
          rw [List.length_cons] at enough
          unfold assignFrom
          have isUnit := follows.unit
          cases found : units[visit.unit]? with
          | none =>
              obtain ⟨after, walk, records⟩ := ih (by omega) ahead records
              exact ⟨after, .skip (.inl (isUnit ▸ found)) walk, records⟩
          | some u =>
              dsimp only
              split
              case isTrue seen =>
                have reached := (records.visited_iff _).mp seen
                obtain ⟨after, walk, records⟩ := ih (by omega) ahead records
                exact ⟨after, .skip (.inr (isUnit ▸ reached)) walk, records⟩
              case isFalse unseen =>
                have fresh : arrival.unit ∉ order.map Arrival.unit := by
                  rw [← isUnit, ← records.visited_iff]
                  exact unseen
                have paid : owed units (visited (entries ++ [entryFor entries visit u])) + u.children.length =
                    owed units (visited entries) :=
                  owed_visit found (Bool.eq_false_iff.mpr unseen) (visited_append (entryFor entries visit u))
                have isFound : units[arrival.unit]? = some u := isUnit ▸ found
                have next : Transcribes units (entries ++ [entryFor entries visit u]) (order ++ [arrival]) :=
                  records.snoc isUnit (follows.asks isFound) (leastFree_freshPath _ _)
                have pending := List.rel_append
                  (follows_children (entryFor entries visit u) entries u isUnit)
                  (ahead.imp fun _ _ follows => follows.append (entryFor entries visit u))
                obtain ⟨after, walk, records⟩ := ih (by rw [List.length_append, List.length_map]; omega) pending next
                -- The walk through the children and the old row is the walk of the new unit and the rest.
                obtain ⟨between, children, rest⟩ := walk.exists_between
                exact ⟨after, .visit isFound fresh children rest, records⟩

/-- Fuel beyond what is pending and owed is not used. -/
theorem assignFrom_of_le {units : List CodeUnit} (fuel : Nat) :
    ∀ {visits : List Visit} {entries : List PathEntry} {more : Nat},
      visits.length + owed units (visited entries) ≤ fuel → fuel ≤ more →
        assignFrom units more visits entries = assignFrom units fuel visits entries := by
  induction fuel with
  | zero =>
      intro visits entries more enough _
      have nothing : visits = [] := List.eq_nil_of_length_eq_zero (by omega)
      subst nothing
      cases more <;> rfl
  | succ fuel ih =>
      intro visits entries more enough atLeast
      obtain ⟨more, rfl⟩ : ∃ less, more = less + 1 := ⟨more - 1, by omega⟩
      cases visits with
      | nil =>
          rfl
      | cons visit visits =>
          rw [List.length_cons] at enough
          unfold assignFrom
          cases found : units[visit.unit]? with
          | none =>
              exact ih (by omega) (by omega)
          | some u =>
              dsimp only
              split
              case isTrue =>
                exact ih (by omega) (by omega)
              case isFalse unseen =>
                have paid : owed units (visited (entries ++ [entryFor entries visit u])) + u.children.length =
                    owed units (visited entries) :=
                  owed_visit found (Bool.eq_false_iff.mpr unseen) (visited_append (entryFor entries visit u))
                apply ih _ (by omega)
                rw [List.length_append, List.length_map]
                omega

/-! ### Paths of an index -/

/-- An arrival at a unit that can be reached: at the module body, or at a child of the unit it comes from. -/
structure Arrival.Stems (units : List CodeUnit) (root : Nat) (arrival : Arrival) : Prop where
  reachable : Reachable units root arrival.unit
  origin : arrival = ⟨root, none⟩ ∨
    ∃ outer u, arrival.origin = some outer ∧ units[outer]? = some u ∧ arrival.unit ∈ u.children

theorem Walk.stems {units : List CodeUnit} {root : Nat} {order : List Arrival}
    (walk : Walk units [⟨root, none⟩] [] order) : ∀ arrival ∈ order, arrival.Stems units root := by
  refine walk.forall_mem (P := Arrival.Stems units root) ?_ ?_ (List.forall_mem_nil _)
  · intro arrival child u stems found member
    obtain ⟨position, inside, rfl⟩ := List.mem_map.mp member
    exact ⟨stems.reachable.child found inside, .inr ⟨arrival.unit, u, rfl, found, inside⟩⟩
  · rw [List.forall_mem_singleton]
    exact ⟨.root, .inl rfl⟩

/-- The path of an arrival in an index, where `k` paths were taken before. The path of the module body is its name. Any
    other unit was reached from one that is recorded before it and has it among its children; its path is that of the
    other unit with its own name behind it, tagged when that is taken. -/
def Placed (m : CompiledModule) (order : List Arrival) (k : Nat) (arrival : Arrival) : Prop :=
  ∃ u, m.units[arrival.unit]? = some u ∧
    match arrival.origin with
    | none => arrival.unit = m.root ∧ k = 0 ∧ ((ofModule m).unit m.root).path = u.name
    | some outer =>
      outer ∈ (order.take k).map Arrival.unit ∧
        (∃ parent, m.units[outer]? = some parent ∧ arrival.unit ∈ parent.children) ∧
        LeastFree (((ofModule m).paths.take k).map Prod.fst) (((ofModule m).unit outer).path ++ "." ++ u.name)
          ((ofModule m).unit arrival.unit).path

section

variable {m : CompiledModule} {order : List Arrival}

/-- The module body comes first in a walk. -/
theorem Walk.eq_zero_of_root (walk : Walk m.units [⟨m.root, none⟩] [] order) {k : Nat} {arrival : Arrival}
    (found : order[k]? = some arrival) (isRoot : arrival.unit = m.root) : k = 0 := by
  have once : (order.map Arrival.unit).Nodup := walk.nodup List.nodup_nil
  cases walk with
  | skip idle rest =>
      cases rest
      cases found
  | visit isUnit fresh children rest =>
      cases rest
      obtain ⟨behind, isOrder⟩ := children.grows
      have first : order[0]? = some ⟨m.root, none⟩ := by
        rw [← isOrder]
        rfl
      have within : k < (order.map Arrival.unit).length := by
        rw [List.length_map]
        exact (List.getElem?_eq_some_iff.mp found).1
      apply (List.getElem?_inj within once).mp
      rw [List.getElem?_map, List.getElem?_map, found, first, Option.map_some, Option.map_some, isRoot]

/-- An index has a unit at every position of its module. -/
theorem getElem?_units {position : Nat} (inRange : position < m.units.length) :
    (ofModule m).units[position]? = some ((ofModule m).unit position) := by
  have isUnit : position < (ofModule m).units.length := by
    rw [ofModule, placeUnits, List.length_mapIdx]
    exact inRange
  rw [Index.unit, List.getElem?_eq_getElem isUnit, Option.getD_some]

/-- Entries are for units of the module. -/
theorem lt_length_of_transcribes (walk : Walk m.units [⟨m.root, none⟩] [] order)
    (records : Transcribes m.units (assignPaths m.units m.root) order) :
    ∀ entry ∈ assignPaths m.units m.root, entry.unit < m.units.length := by
  intro entry member
  have isUnit : entry.unit ∈ order.map Arrival.unit := by
    rw [← records.units_eq]
    exact List.mem_map_of_mem member
  obtain ⟨arrival, isArrival, same⟩ := List.mem_map.mp isUnit
  rw [← same]
  exact walk.known (List.forall_mem_nil _) arrival isArrival

/-- A unit that has an entry has its path. -/
theorem path_of_transcribes (walk : Walk m.units [⟨m.root, none⟩] [] order)
    (records : Transcribes m.units (assignPaths m.units m.root) order) :
    ∀ entry ∈ assignPaths m.units m.root, ((ofModule m).unit entry.unit).path = entry.path := by
  intro entry member
  have once : ((assignPaths m.units m.root).map PathEntry.unit).Nodup := by
    rw [records.units_eq]
    exact walk.nodup List.nodup_nil
  exact path_of_mem once member (lt_length_of_transcribes walk records entry member)

/-- Every arrival of the walk is placed by the entries that record it. -/
theorem placed_of_transcribes (walk : Walk m.units [⟨m.root, none⟩] [] order)
    (records : Transcribes m.units (assignPaths m.units m.root) order) {k : Nat} {arrival : Arrival}
    (found : order[k]? = some arrival) : Placed m order k arrival := by
  obtain ⟨entry, path, isEntry, isUnit, asks, isLeast⟩ := records.exists_entry found
  have paths := path_of_transcribes walk records
  have ownPath : ((ofModule m).unit arrival.unit).path = entry.path := by
    rw [← isUnit]
    exact paths entry (List.mem_of_getElem? isEntry)
  have origin := (walk.stems arrival (List.mem_of_getElem? found)).origin
  cases asks with
  | @body position u isFound =>
      refine ⟨u, isFound, ?_⟩
      rcases origin with isRoot | ⟨outer, _, absurd, _⟩
      · cases isRoot
        have isFirst := walk.eq_zero_of_root found rfl
        subst isFirst
        exact ⟨rfl, rfl, ownPath.trans isLeast.eq_of_nil⟩
      · cases absurd
  | @below position u outer isFound earlier =>
      refine ⟨u, isFound, ?_, ?_, ?_⟩
      · have reached : outer.unit ∈ ((assignPaths m.units m.root).take k).map PathEntry.unit :=
          List.mem_map_of_mem earlier
        rwa [List.map_take, records.units_eq, ← List.map_take] at reached
      · rcases origin with isRoot | ⟨_, parent, isOrigin, isParent, inside⟩
        · cases isRoot
        · cases isOrigin
          exact ⟨parent, isParent, inside⟩
      · have taken : ((ofModule m).paths.take k).map Prod.fst =
            ((assignPaths m.units m.root).take k).map PathEntry.path := by
          rw [ofModule, ← List.map_take, List.map_map]
          rfl
        rw [ownPath, taken, paths outer (List.mem_of_mem_take earlier)]
        exact isLeast

end

/-- The index of a module, whatever its units have as children. The traversal ends within its bound. Its entries are
    those of the recursive depth first walk from the module body, of which there is one only, in the same order: one
    for each unit that can be reached and no other. Paths are distinct, every unit has the path of its entry, and the
    path of a unit is made from that of the unit it was reached from. -/
theorem ofModule_walks (m : CompiledModule) :
    let index := ofModule m
    (∀ fuel, visitBound m.units ≤ fuel →
      (assignFrom m.units fuel [⟨m.root, none⟩] []).map (fun entry => (entry.path, entry.unit)) = index.paths) ∧
    ∃ order,
      (∀ other, Walk m.units [⟨m.root, none⟩] [] other ↔ other = order) ∧
      index.paths.map Prod.snd = order.map Arrival.unit ∧
      (index.paths.map Prod.snd).Nodup ∧
      (∀ position, position ∈ index.paths.map Prod.snd ↔
        position < m.units.length ∧ Reachable m.units m.root position) ∧
      (index.paths.map Prod.fst).Nodup ∧
      (∀ path position, (path, position) ∈ index.paths → index.units[position]?.map CodeUnit.path = some path) ∧
      ∀ k arrival, order[k]? = some arrival → Placed m order k arrival := by
  intro index
  have enough : [(⟨m.root, none⟩ : Visit)].length + owed m.units (visited []) ≤ visitBound m.units := by
    rw [← owed_add_two, List.length_singleton, show visited [] = fun _ => false from rfl]
    omega
  obtain ⟨order, walk, records⟩ := assignFrom_transcribes (visitBound m.units) enough
    (.cons (.body m.root) .nil) Transcribes.nil
  have keys : index.paths.map Prod.fst = (assignPaths m.units m.root).map PathEntry.path := List.map_map
  have positions : index.paths.map Prod.snd = order.map Arrival.unit :=
    List.map_map.trans records.units_eq
  refine ⟨?bound, order, ?only, positions, ?once, ?reached, ?distinct, ?own, ?placed⟩
  case bound =>
    intro fuel atLeast
    rw [assignFrom_of_le (visitBound m.units) enough atLeast]
    rfl
  case only =>
    intro other
    constructor
    · exact walk.unique
    · rintro rfl
      exact walk
  case once =>
    rw [positions]
    exact walk.nodup List.nodup_nil
  case reached =>
    intro position
    rw [positions]
    constructor
    · intro member
      obtain ⟨arrival, isArrival, rfl⟩ := List.mem_map.mp member
      exact ⟨walk.known (List.forall_mem_nil _) arrival isArrival, (walk.stems arrival isArrival).reachable⟩
    · rintro ⟨inRange, reachable⟩
      obtain ⟨entry, isEntry, rfl⟩ := assignPaths_covers reachable inRange
      rw [← records.units_eq]
      exact List.mem_map_of_mem isEntry
  case distinct =>
    rw [keys]
    exact records.paths_nodup
  case own =>
    intro path position member
    obtain ⟨entry, isEntry, isPair⟩ := List.mem_map.mp member
    cases isPair
    have inRange := lt_length_of_transcribes walk records entry isEntry
    rw [getElem?_units inRange, Option.map_some, path_of_transcribes walk records entry isEntry]
  case placed =>
    intro k arrival found
    exact placed_of_transcribes walk records found

/-- A module with two functions of one name. The first has a function that has it again, repeats it, and has a unit that
    there is not. -/
def tangled : CompiledModule where
  version := ⟨3, 8⟩
  units :=
    [{ CodeUnit.empty "f" ⟨3, 8⟩ with children := [1, 7, 1] }, { CodeUnit.empty "g" ⟨3, 8⟩ with children := [0, 3] },
      .empty "f" ⟨3, 8⟩, { CodeUnit.empty "<module>" ⟨3, 8⟩ with children := [0, 2, 1] }]
  root := 3

example : (ofModule tangled).paths = [("<module>", 3), ("<module>.f", 0), ("<module>.f.g", 1), ("<module>.f#2", 2)] :=
  rfl

end SourceRecovery.Index
