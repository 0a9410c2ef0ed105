/-
Module: SourceRecovery.Proofs.NameLookup
Layer: Proofs
Purpose: A name is looked up as if the index held the names of units and no paths. The traversal is followed a
  second time with the positions of the units on the way instead of paths; the names on the way decide every
  lookup, and number tags neither hide a unit nor bring one.
Imports: Mathlib.Data.List.Forall2, SourceRecovery.Index.Basic, SourceRecovery.Proofs.PathText,
  SourceRecovery.Proofs.PathCoverage
Trusted boundary: none
Main exports: Index.Trail, Index.trails, Index.Derived, Index.assignFrom_derived, Index.trailsFrom_induction,
  Index.Explores, Index.unitsWhere, Index.verdict, Index.lookup_dotted
Open obligations: none
-/
import Mathlib.Data.List.Forall2
import SourceRecovery.Index.Basic
import SourceRecovery.Proofs.PathText
import SourceRecovery.Proofs.PathCoverage

namespace SourceRecovery.Index

open Text

/-! ### Trails -/

/-- The way of a traversal to a unit: the positions of the units before it, the module body first. -/
structure Trail where
  before : List Nat
  unit : Nat
deriving DecidableEq, Repr

namespace Trail

/-- The positions of the units on the way, the last one included. -/
def positions (trail : Trail) : List Nat :=
  trail.before ++ [trail.unit]

/-- The way on to a unit inside the last one. -/
def onTo (trail : Trail) (child : Nat) : Trail :=
  ⟨trail.positions, child⟩

/-- The names of the units on the way. -/
def chain (units : List CodeUnit) (trail : Trail) : List String :=
  trail.positions.map fun position => (units[position]?.map CodeUnit.name).getD ""

/-- The way starts at the module body, and every unit on it is nested in the one before. -/
inductive Linked (m : CompiledModule) : Trail → Prop
  | root : Linked m ⟨[], m.root⟩
  | nested {trail : Trail} {u : CodeUnit} {child : Nat} (outer : Linked m trail)
      (found : m.units[trail.unit]? = some u) (inside : child ∈ u.children) : Linked m (trail.onTo child)

end Trail

/-- The ways to the units still to be visited, after those made so far. -/
def trailsFrom (units : List CodeUnit) :
    (fuel : Nat) → (pending done : List Trail) → List Trail
  | 0, _, done => done
  | _ + 1, [], done => done
  | fuel + 1, trail :: pending, done =>
    match units[trail.unit]? with
    | none => trailsFrom units fuel pending done
    | some u =>
      if done.any fun known => known.unit == trail.unit then trailsFrom units fuel pending done
      else trailsFrom units fuel (u.children.map trail.onTo ++ pending) (done ++ [trail])

/-- The ways to all units of a module, in the order of the visits. -/
def trails (m : CompiledModule) : List Trail :=
  trailsFrom m.units (visitBound m.units) [⟨[], m.root⟩] []

/-! ### Entries and trails -/

section Abreast

variable {units : List CodeUnit}

theorem Trail.chain_of_found {trail : Trail} {u : CodeUnit} (found : units[trail.unit]? = some u) :
    trail.chain units =
      (trail.before.map fun position => (units[position]?.map CodeUnit.name).getD "") ++ [u.name] := by
  simp only [Trail.chain, Trail.positions, List.map_append, List.map_singleton, found, Option.map_some,
    Option.getD_some]

/-- A visit goes the way of a trail: it starts at the module body, or it has the path of the entry that was made for
    the trail it goes on from. -/
inductive Continues (made : List (PathEntry × Trail)) : Visit → Trail → Prop
  | body (position : Nat) : Continues made ⟨position, none⟩ ⟨[], position⟩
  | below (child : Nat) {entry : PathEntry} {trail : Trail} (earlier : (entry, trail) ∈ made) :
      Continues made ⟨child, some entry.path⟩ (trail.onTo child)

theorem Continues.unit {made : List (PathEntry × Trail)} {visit : Visit} {trail : Trail}
    (continues : Continues made visit trail) : visit.unit = trail.unit := by
  cases continues <;> rfl

theorem Continues.append {made : List (PathEntry × Trail)} {visit : Visit} {trail : Trail}
    (continues : Continues made visit trail) (more : List (PathEntry × Trail)) :
    Continues (made ++ more) visit trail := by
  cases continues with
  | body position => exact .body position
  | below child earlier => exact .below child (List.mem_append_left more earlier)

/-- The visits to the units inside a unit go on from its trail. -/
theorem continues_children {made : List (PathEntry × Trail)} {entry : PathEntry} {trail : Trail}
    (earlier : (entry, trail) ∈ made) (u : CodeUnit) :
    List.Forall₂ (Continues made) (u.children.map fun child => ⟨child, some entry.path⟩)
      (u.children.map trail.onTo) := by
  rw [List.forall₂_map_left_iff, List.forall₂_map_right_iff, List.forall₂_same]
  intro child _
  exact .below child earlier

/-- Entries with their trails, made one by one: each for a unit that has none, by a visit that goes the way of the
    trail. -/
inductive Derived (units : List CodeUnit) : List (PathEntry × Trail) → Prop
  | nil : Derived units []
  | snoc {made : List (PathEntry × Trail)} {visit : Visit} {trail : Trail} {u : CodeUnit} (front : Derived units made)
      (continues : Continues made visit trail) (found : units[trail.unit]? = some u)
      (fresh : visited (made.map Prod.fst) trail.unit = false) :
      Derived units (made ++ [(entryFor (made.map Prod.fst) visit u, trail)])

/-- An entry records a trail: it is for the same unit, and its path spells the names on the way. -/
structure Records (units : List CodeUnit) (entry : PathEntry) (trail : Trail) : Prop where
  unit : entry.unit = trail.unit
  path : Spells entry.path (trail.chain units)

namespace Derived

variable {made : List (PathEntry × Trail)}

/-- An entry and its trail are for the same unit of the module. -/
theorem unit (derived : Derived units made) : ∀ pair ∈ made, pair.1.unit = pair.2.unit ∧ pair.1.unit < units.length := by
  induction derived with
  | nil =>
      exact List.forall_mem_nil _
  | snoc _ continues found _ ih =>
      rw [List.forall_mem_append, List.forall_mem_singleton]
      have isUnit := continues.unit
      refine ⟨ih, isUnit, ?_⟩
      rw [show (entryFor _ _ _).unit = _ from isUnit]
      exact (List.getElem?_eq_some_iff.mp found).1

/-- Entries and trails are for the same units. -/
theorem units_eq (derived : Derived units made) :
    (made.map Prod.fst).map PathEntry.unit = (made.map Prod.snd).map Trail.unit := by
  rw [List.map_map, List.map_map]
  exact List.map_congr_left fun pair member => (derived.unit pair member).1

/-- A unit was visited exactly when a trail leads to it. -/
theorem visited_eq (derived : Derived units made) (position : Nat) :
    visited (made.map Prod.fst) position = (made.map Prod.snd).any fun known => known.unit == position := by
  have same := congrArg (fun units => units.any (· == position)) derived.units_eq
  simpa only [visited, List.any_map, Function.comp_def] using same

/-- No unit has two entries. -/
theorem once (derived : Derived units made) : ((made.map Prod.fst).map PathEntry.unit).Nodup := by
  induction derived with
  | nil =>
      exact List.nodup_nil
  | @snoc made visit trail u _ continues _ fresh ih =>
      rw [List.map_append, List.map_append, List.map_singleton, List.map_singleton, List.nodup_append]
      refine ⟨ih, List.pairwise_singleton _ _, ?_⟩
      rintro position earlier other isNew rfl
      rw [List.mem_singleton] at isNew
      obtain ⟨entry, member, isUnit⟩ := List.mem_map.mp earlier
      apply List.any_eq_false.mp fresh entry member
      rw [isUnit, isNew, beq_iff_eq]
      exact continues.unit

/-- Every entry records its trail. -/
theorem records (plain : ∀ u ∈ units, PlainName u.name) (derived : Derived units made) :
    ∀ pair ∈ made, Records units pair.1 pair.2 := by
  induction derived with
  | nil =>
      exact List.forall_mem_nil _
  | snoc _ continues found _ ih =>
      rw [List.forall_mem_append, List.forall_mem_singleton]
      refine ⟨ih, continues.unit, ?_⟩
      have plainName := plain _ (List.mem_of_getElem? found)
      rw [Trail.chain_of_found found]
      cases continues with
      | body position =>
          exact spells_first plainName _
      | below child earlier =>
          exact (ih _ earlier).path.below plainName _

end Derived

/-- The traversal with paths and the traversal with positions go on side by side. -/
theorem assignFrom_derived (fuel : Nat) :
    ∀ {visits : List Visit} {pending : List Trail} {made : List (PathEntry × Trail)},
      List.Forall₂ (Continues made) visits pending → Derived units made →
        ∃ all, Derived units all ∧ all.map Prod.fst = assignFrom units fuel visits (made.map Prod.fst) ∧
          all.map Prod.snd = trailsFrom units fuel pending (made.map Prod.snd) := by
  induction fuel with
  | zero =>
      intro visits pending made _ derived
      exact ⟨made, derived, rfl, rfl⟩
  | succ fuel ih =>
      intro visits pending made ahead derived
      cases ahead with
      | nil =>
          exact ⟨made, derived, rfl, rfl⟩
      | @cons visit trail visits pending continues ahead =>
          have test := derived.visited_eq trail.unit
          unfold visited at test
          unfold assignFrom trailsFrom
          rw [continues.unit, ← test]
          cases found : units[trail.unit]? with
          | none =>
              exact ih ahead derived
          | some u =>
              dsimp only
              split
              case isTrue =>
                exact ih ahead derived
              case isFalse unseen =>
                have next := derived.snoc continues found (Bool.eq_false_iff.mpr unseen)
                have last : (entryFor (made.map Prod.fst) visit u, trail) ∈
                    made ++ [(entryFor (made.map Prod.fst) visit u, trail)] :=
                  List.mem_append_right made (List.mem_singleton_self _)
                have later := ahead.imp fun _ _ continues =>
                  continues.append [(entryFor (made.map Prod.fst) visit u, trail)]
                have whole := ih (List.rel_append (continues_children last u) later) next
                rwa [List.map_append, List.map_append] at whole

/-- Entries record trails one by one, for units of the module and for each unit once. -/
structure Recorded (units : List CodeUnit) (entries : List PathEntry) (done : List Trail) : Prop where
  each : List.Forall₂ (Records units) entries done
  once : (entries.map PathEntry.unit).Nodup
  known : ∀ entry ∈ entries, entry.unit < units.length

/-- Entries and trails are for the same units. -/
theorem Recorded.units_eq {entries : List PathEntry} {done : List Trail} (recorded : Recorded units entries done) :
    entries.map PathEntry.unit = done.map Trail.unit := by
  rw [← List.forall₂_eq_eq_eq, List.forall₂_map_left_iff, List.forall₂_map_right_iff]
  exact recorded.each.imp fun _ _ records => records.unit

end Abreast

/-- The entries of a module are made along its trails. -/
theorem exists_derived (m : CompiledModule) :
    ∃ made, Derived m.units made ∧ made.map Prod.fst = assignPaths m.units m.root ∧ made.map Prod.snd = trails m :=
  assignFrom_derived (visitBound m.units) (.cons (.body m.root) .nil) .nil

/-- The entries of a module record its trails. -/
theorem recorded_assignPaths {m : CompiledModule} (plain : ∀ u ∈ m.units, PlainName u.name) :
    Recorded m.units (assignPaths m.units m.root) (trails m) := by
  obtain ⟨made, derived, isEntries, isTrails⟩ := exists_derived m
  rw [← isEntries, ← isTrails]
  refine ⟨?_, derived.once, ?_⟩
  · rw [List.forall₂_map_left_iff, List.forall₂_map_right_iff, List.forall₂_same]
    exact derived.records plain
  · intro entry member
    obtain ⟨pair, isPair, rfl⟩ := List.mem_map.mp member
    exact (derived.unit pair isPair).2

/-! ### Trails lead from unit to unit -/

/-- What a traversal keeps with every trail that it drops and with every trail that it follows, holds at its end. -/
theorem trailsFrom_induction {units : List CodeUnit} {P : (pending done : List Trail) → Prop}
    (skip : ∀ {trail : Trail} {pending done : List Trail}, P (trail :: pending) done → P pending done)
    (visit : ∀ {trail : Trail} {u : CodeUnit} {pending done : List Trail}, units[trail.unit]? = some u →
      trail.unit ∉ done.map Trail.unit → P (trail :: pending) done →
        P (u.children.map trail.onTo ++ pending) (done ++ [trail]))
    (fuel : Nat) :
    ∀ {pending done : List Trail}, P pending done → ∃ left, P left (trailsFrom units fuel pending done) := by
  induction fuel with
  | zero =>
      intro pending done holds
      exact ⟨pending, holds⟩
  | succ fuel ih =>
      intro pending done holds
      cases pending with
      | nil =>
          exact ⟨[], holds⟩
      | cons trail pending =>
          unfold trailsFrom
          cases found : units[trail.unit]? with
          | none =>
              exact ih (skip holds)
          | some u =>
              dsimp only
              split
              case isTrue =>
                exact ih (skip holds)
              case isFalse unseen =>
                apply ih (visit found _ holds)
                intro seen
                obtain ⟨known, member, same⟩ := List.mem_map.mp seen
                exact unseen (List.any_eq_true.mpr ⟨known, member, beq_iff_eq.mpr same⟩)

/-- Every trail of a module leads from its body, unit by unit. -/
theorem trails_linked (m : CompiledModule) : ∀ trail ∈ trails m, trail.Linked m := by
  have all : ∃ left : List Trail, (∀ trail ∈ left, trail.Linked m) ∧ ∀ trail ∈ trails m, trail.Linked m :=
    trailsFrom_induction
      (P := fun pending done => (∀ trail ∈ pending, Trail.Linked m trail) ∧ ∀ trail ∈ done, Trail.Linked m trail)
      ?skip ?visit (visitBound m.units) ?start
  case skip =>
    rintro trail pending done ⟨ahead, linked⟩
    exact ⟨(List.forall_mem_cons.mp ahead).2, linked⟩
  case visit =>
    rintro trail u pending done found _ ⟨ahead, linked⟩
    obtain ⟨here, later⟩ := List.forall_mem_cons.mp ahead
    rw [List.forall_mem_append, List.forall_mem_append, List.forall_mem_singleton]
    refine ⟨⟨?_, later⟩, linked, here⟩
    intro other inside
    obtain ⟨child, isChild, rfl⟩ := List.mem_map.mp inside
    exact .nested here found isChild
  case start =>
    rw [List.forall_mem_singleton]
    exact ⟨.root, List.forall_mem_nil _⟩
  obtain ⟨_, _, linked⟩ := all
  exact linked

/-- Trails lead to every unit that can be reached, to each by one way and to nothing else. -/
structure Explores (m : CompiledModule) (ways : List Trail) : Prop where
  linked : ∀ trail ∈ ways, trail.Linked m
  known : ∀ trail ∈ ways, trail.unit < m.units.length
  once : (ways.map Trail.unit).Nodup
  all : ∀ position < m.units.length, Reachable m.units m.root position → position ∈ ways.map Trail.unit

/-- The trails of a module explore it. -/
theorem explores_trails {m : CompiledModule} (plain : ∀ u ∈ m.units, PlainName u.name) :
    Explores m (trails m) := by
  have recorded := recorded_assignPaths plain
  have units := recorded.units_eq
  refine ⟨trails_linked m, ?_, units ▸ recorded.once, ?_⟩
  · intro trail member
    have isUnit : trail.unit ∈ (trails m).map Trail.unit := List.mem_map_of_mem member
    rw [← units] at isUnit
    obtain ⟨entry, isEntry, same⟩ := List.mem_map.mp isUnit
    exact same ▸ recorded.known entry isEntry
  · intro position inRange reachable
    obtain ⟨entry, isEntry, same⟩ := assignPaths_covers reachable inRange
    rw [← units]
    exact List.mem_map.mpr ⟨entry, isEntry, same⟩

/-! ### Paths of units -/

/-- The first entry for a unit is the only one. -/
theorem find?_entry {entries : List PathEntry} (once : (entries.map PathEntry.unit).Nodup)
    {entry : PathEntry} (member : entry ∈ entries) :
    (entries.find? fun other => other.unit == entry.unit) = some entry := by
  induction entries with
  | nil =>
      cases member
  | cons first rest ih =>
      rw [List.map_cons, List.nodup_cons] at once
      rcases List.mem_cons.mp member with rfl | later
      · simp
      · have differs : (first.unit == entry.unit) = false := by
          rw [beq_eq_false_iff_ne]
          intro same
          exact once.1 (List.mem_map.mpr ⟨entry, later, same.symm⟩)
        rw [List.find?_cons_of_neg (by simp [differs])]
        exact ih once.2 later

/-- A unit of an index is placed by its entry. -/
theorem unit_of_mem {m : CompiledModule} (once : ((assignPaths m.units m.root).map PathEntry.unit).Nodup)
    {entry : PathEntry} (member : entry ∈ assignPaths m.units m.root) {u : CodeUnit}
    (found : m.units[entry.unit]? = some u) :
    (ofModule m).unit entry.unit = place ((m.units[m.root]?.map CodeUnit.name).getD "") u entry := by
  have only := find?_entry once member
  simp only [Index.unit, ofModule, placeUnits, List.getElem?_mapIdx, found, Option.map_some, only,
    Option.getD_some]

/-- A unit of an index has the path of its entry. -/
theorem path_of_mem {m : CompiledModule} (once : ((assignPaths m.units m.root).map PathEntry.unit).Nodup)
    {entry : PathEntry} (member : entry ∈ assignPaths m.units m.root) (known : entry.unit < m.units.length) :
    ((ofModule m).unit entry.unit).path = entry.path := by
  rw [unit_of_mem once member (List.getElem?_eq_getElem known)]
  rfl

/-! ### Lookups -/

/-- The units whose names on the way pass a test, in the order of the visits. -/
def unitsWhere (m : CompiledModule) (fits : List String → Bool) : List Nat :=
  ((trails m).filter fun trail => fits (trail.chain m.units)).map Trail.unit

/-- What a lookup of a name says about the units that fit: the only one, or the paths of all of them. -/
def verdict (index : Index) (name : String) : List Nat → Except Failure Nat
  | [] => .error (.notFound name)
  | [unit] => .ok unit
  | several => .error (.ambiguous name (several.map fun unit => (index.unit unit).path))

/-- A path of an index and a trail belong to the same unit. -/
structure Leads (index : Index) (units : List CodeUnit) (entry : String × Nat) (trail : Trail) : Prop where
  unit : entry.2 = trail.unit
  path : entry.1 = (index.unit trail.unit).path
  spells : Spells entry.1 (trail.chain units)

section Lookup

variable {index : Index} {units : List CodeUnit}

/-- One match is told from several by the trails. -/
theorem single_eq_verdict {found : List (String × Nat)} {ways : List Trail}
    (same : List.Forall₂ (Leads index units) found ways) (name : String) :
    single name found = verdict index name (ways.map Trail.unit) := by
  have paths : found.map Prod.fst = (ways.map Trail.unit).map fun unit => (index.unit unit).path := by
    induction same with
    | nil =>
        rfl
    | cons first _ ih =>
        rw [List.map_cons, ih, first.path]
        rfl
  cases same with
  | nil =>
      rfl
  | cons first rest =>
      cases rest with
      | nil =>
          exact congrArg Except.ok first.unit
      | cons second rest =>
          exact congrArg (fun texts => Except.error (Failure.ambiguous name texts)) paths

/-- The names on a way are plain when the names of all units are. -/
theorem plain_chain (plain : ∀ u ∈ units, PlainName u.name) (trail : Trail) :
    ∀ name ∈ trail.chain units, PlainName name := by
  intro name member
  obtain ⟨position, _, rfl⟩ := List.mem_map.mp member
  cases found : units[position]? with
  | none =>
      exact ⟨by decide, by decide⟩
  | some u =>
      exact plain u (List.mem_of_getElem? found)

variable {segments : List String}

/-- A path is the name, tags aside, exactly when the names on the way are its segments. -/
theorem exactMatches_leads (plain : ∀ u ∈ units, PlainName u.name)
    (plainSegments : ∀ segment ∈ segments, PlainName segment) (nonempty : segments ≠ []) {ways : List Trail}
    (same : List.Forall₂ (Leads index units) index.paths ways) :
    List.Forall₂ (Leads index units) (index.exactMatches (dotted segments))
      (ways.filter fun trail => trail.chain units = segments) := by
  apply List.rel_filter _ same
  intro entry trail leads
  beta_reduce
  rw [leads.spells.plainPath, beq_iff_eq, decide_eq_true_eq]
  exact dotted_inj (plain_chain plain trail) plainSegments leads.spells.nonempty nonempty

/-- A path ends with the name, tags aside, exactly when the names on the way end with its segments. -/
theorem suffixMatches_leads (plain : ∀ u ∈ units, PlainName u.name)
    (plainSegments : ∀ segment ∈ segments, PlainName segment) (nonempty : segments ≠ []) {ways : List Trail}
    (same : List.Forall₂ (Leads index units) index.paths ways) :
    List.Forall₂ (Leads index units) (index.suffixMatches (dotted segments))
      (ways.filter fun trail => segments <:+ trail.chain units ∧ trail.chain units ≠ segments) := by
  apply List.rel_filter _ same
  intro entry trail leads
  beta_reduce
  rw [leads.spells.plainPath, decide_eq_true_eq]
  exact endsWith_dotted_iff (plain_chain plain trail) plainSegments leads.spells.nonempty nonempty

/-- The name of plain segments is looked up by the names on the ways. -/
theorem lookup_leads (plain : ∀ u ∈ units, PlainName u.name) (nonempty : segments ≠ [])
    (plainSegments : ∀ segment ∈ segments, PlainName segment) {ways : List Trail}
    (same : List.Forall₂ (Leads index units) index.paths ways) :
    let whole := (ways.filter fun trail => trail.chain units = segments).map Trail.unit
    let ending := (ways.filter fun trail =>
      segments <:+ trail.chain units ∧ trail.chain units ≠ segments).map Trail.unit
    index.lookup (dotted segments) =
      verdict index (dotted segments) (if whole.isEmpty then ending else whole) := by
  intro whole ending
  have untagged : (dotted segments).toList.contains '#' = false := by
    rw [List.contains_eq_mem, decide_eq_false_iff_not]
    exact sharp_not_mem_dotted plainSegments
  have exactly := exactMatches_leads plain plainSegments nonempty same
  have ends := suffixMatches_leads plain plainSegments nonempty same
  unfold lookup lookupPlain
  rw [untagged, if_neg Bool.false_ne_true]
  dsimp only
  cases found : index.exactMatches (dotted segments) with
  | nil =>
      rw [found] at exactly
      have none : whole = [] := congrArg (List.map Trail.unit) (List.forall₂_nil_left_iff.mp exactly)
      rw [none, List.isEmpty_nil, if_pos rfl]
      exact single_eq_verdict ends _
  | cons first more =>
      rw [found] at exactly
      have some : whole.isEmpty = false := by
        obtain ⟨trail, others, _, _, ways⟩ := List.forall₂_cons_left_iff.mp exactly
        exact congrArg (fun trails => (List.map Trail.unit trails).isEmpty) ways
      rw [some, if_neg Bool.false_ne_true]
      exact single_eq_verdict exactly _

end Lookup

/-- The paths of a module lead where its trails lead. -/
theorem leads_ofModule {m : CompiledModule} (plain : ∀ u ∈ m.units, PlainName u.name) :
    List.Forall₂ (Leads (ofModule m) m.units) (ofModule m).paths (trails m) := by
  have recorded := recorded_assignPaths plain
  have each := (List.forall₂_and_left _ _).mpr
    ⟨fun (entry : PathEntry) (member : entry ∈ _) =>
      path_of_mem recorded.once member (recorded.known entry member), recorded.each⟩
  apply List.forall₂_map_left_iff.mpr
  apply each.imp
  rintro entry trail ⟨path, records⟩
  exact ⟨records.unit, records.unit ▸ path.symm, records.path⟩

/-- A lookup is decided by the names of units alone. The units whose names from the module body on are the
    segments come first, and those whose names end with the segments then; one of them is the answer, and
    several are reported with their paths. What else an index holds does not matter. -/
theorem lookup_dotted {m : CompiledModule} (plain : ∀ u ∈ m.units, PlainName u.name)
    (slices : Option (List String)) (tool : Option ListingTool)
    (listings : Option (List (String × String))) {segments : List String} (nonempty : segments ≠ [])
    (plainSegments : ∀ segment ∈ segments, PlainName segment) :
    let index := { ofModule m with slices, tool, listings }
    let whole := unitsWhere m fun chain => chain = segments
    let ending := unitsWhere m fun chain => segments <:+ chain ∧ chain ≠ segments
    Explores m (trails m) ∧
      index.paths.map Prod.snd = (trails m).map Trail.unit ∧
      index.lookup (dotted segments) =
        verdict index (dotted segments) (if whole.isEmpty then ending else whole) := by
  intro index whole ending
  have same : List.Forall₂ (Leads index m.units) index.paths (trails m) :=
    (leads_ofModule plain).imp fun _ _ leads => ⟨leads.unit, leads.path, leads.spells⟩
  refine ⟨explores_trails plain, ?_, ?_⟩
  · rw [← List.forall₂_eq_eq_eq, List.forall₂_map_left_iff, List.forall₂_map_right_iff]
    exact same.imp fun _ _ leads => leads.unit
  · exact lookup_leads plain nonempty plainSegments same

/-- A module with two functions of one name, the second with a function inside. -/
def twins : CompiledModule where
  version := ⟨3, 8⟩
  units :=
    [.empty "helper" ⟨3, 8⟩, .empty "inner" ⟨3, 8⟩, { CodeUnit.empty "helper" ⟨3, 8⟩ with children := [1] },
      { CodeUnit.empty "<module>" ⟨3, 8⟩ with children := [0, 2] }]
  root := 3

/-- The tag of the second function does not hide the function inside it, and the name of both fits both. -/
theorem lookup_dotted_twins :
    (ofModule twins).lookup (dotted ["helper", "inner"]) = .ok 1 ∧
      (ofModule twins).lookup (dotted ["helper"]) =
        .error (.ambiguous (dotted ["helper"]) ["<module>.helper", "<module>.helper#2"]) := by
  have plain : ∀ u ∈ twins.units, PlainName u.name := by decide
  have inside := (lookup_dotted plain none none none (List.cons_ne_nil "helper" ["inner"]) (by decide)).2.2
  have both := (lookup_dotted plain none none none (List.cons_ne_nil "helper" []) (by decide)).2.2
  refine ⟨inside.trans ?_, both.trans ?_⟩
  · rfl
  · rfl

end SourceRecovery.Index
