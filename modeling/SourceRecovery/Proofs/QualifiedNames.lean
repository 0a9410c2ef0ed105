/-
Module: SourceRecovery.Proofs.QualifiedNames
Layer: Proofs
Purpose: The qualified names of units that have none of their own. A qualified name is made from the path of the unit
  around, and with it the tags of that path come in. A path has a tag exactly when a unit on the way has the names of a
  unit before it, for what is visited between a unit and a unit inside it is inside it too; so the first of two
  units with the same names is never the one that is tagged.
Imports: SourceRecovery.Proofs.VisitOrder
Trusted boundary: none
Main exports: Index.Trail.Surrounds, Index.Grouped, Index.grouped_of_split, Index.Arises, Index.arises_of_split,
  Index.Repeats, Index.sharp_mem_pathOf_iff, Index.qualname_eq_dotted_iff
Open obligations: none
-/
import SourceRecovery.Proofs.VisitOrder

namespace SourceRecovery.Index

open Text

/-! ### Units inside units -/

namespace Trail

/-- The last unit of the outer trail is one that the other trail goes through. -/
def Surrounds (outer trail : Trail) : Prop :=
  outer.positions <+: trail.before

instance (outer trail : Trail) : Decidable (outer.Surrounds trail) :=
  inferInstanceAs (Decidable (outer.positions <+: trail.before))

theorem positions_inj {a b : Trail} (same : a.positions = b.positions) : a = b := by
  obtain ⟨before, last⟩ := List.append_inj' same rfl
  cases a
  cases b
  cases before
  cases last
  rfl

/-- A way on to a unit inside goes through what the way goes through, and through its last unit. -/
theorem surrounds_onTo_iff {outer trail : Trail} {child : Nat} :
    outer.Surrounds (trail.onTo child) ↔ outer = trail ∨ outer.Surrounds trail := by
  rw [Surrounds, onTo, positions, positions, List.prefix_concat_iff]
  constructor
  · rintro (same | around)
    · exact .inl (positions_inj same)
    · exact .inr around
  · rintro (rfl | around)
    · exact .inl rfl
    · exact .inr around

/-- What a trail goes through is before its end. -/
theorem Surrounds.unit_mem {outer trail : Trail} (around : outer.Surrounds trail) : outer.unit ∈ trail.before :=
  around.subset (List.mem_append_right outer.before (List.mem_singleton_self outer.unit))

theorem Surrounds.length_lt {outer trail : Trail} (around : outer.Surrounds trail) :
    outer.before.length < trail.before.length := by
  have shorter := around.length_le
  rw [positions, List.length_append, List.length_singleton] at shorter
  omega

end Trail

/-- Among what comes later, what leads through a unit comes first. -/
def Grouped (outer : Trail) (later : List Trail) : Prop :=
  later.Pairwise fun first second => outer.Surrounds second → outer.Surrounds first

/-- A row with one item more is cut at the item, or before it. -/
theorem concat_eq_append_cons {α : Type} {row front back : List α} {last item : α}
    (same : row ++ [last] = front ++ item :: back) :
    (row = front ∧ last = item ∧ back = []) ∨ ∃ rest, row = front ++ item :: rest ∧ back = rest ++ [last] := by
  rcases back.eq_nil_or_concat with rfl | ⟨rest, final, rfl⟩
  · obtain ⟨isFront, isItem⟩ := List.append_inj' same rfl
    exact .inl ⟨isFront, List.singleton_inj.mp isItem, rfl⟩
  · rw [List.concat_eq_append, ← List.cons_append, ← List.append_assoc] at same
    obtain ⟨isRow, isFinal⟩ := List.append_inj' same rfl
    rw [List.singleton_inj.mp isFinal, List.concat_eq_append]
    exact .inr ⟨rest, isRow, rfl⟩

/-- A visit puts the children of a unit where the unit was, and they lead through what its trail leads through. -/
theorem Grouped.visit {outer trail : Trail} {back pending : List Trail}
    (grouped : Grouped outer (back ++ trail :: pending)) (other : outer ≠ trail) (children : List Nat) :
    Grouped outer (back ++ trail :: (children.map trail.onTo ++ pending)) := by
  have same : ∀ inner ∈ children.map trail.onTo, outer.Surrounds inner ↔ outer.Surrounds trail := by
    intro inner member
    obtain ⟨child, _, rfl⟩ := List.mem_map.mp member
    rw [Trail.surrounds_onTo_iff, or_iff_right other]
  rw [Grouped, List.pairwise_append, List.pairwise_cons] at grouped
  obtain ⟨inBack, ⟨fromTrail, inPending⟩, across⟩ := grouped
  rw [Grouped, List.pairwise_append, List.pairwise_cons, List.pairwise_append]
  refine ⟨inBack, ⟨?fromTrail, ?inChildren, inPending, ?fromChildren⟩, ?across⟩
  case fromTrail =>
    intro inner member around
    rcases List.mem_append.mp member with isChild | isPending
    · exact (same inner isChild).mp around
    · exact fromTrail inner isPending around
  case inChildren =>
    apply List.pairwise_of_forall_mem_list
    intro first isFirst second isSecond around
    exact (same first isFirst).mpr ((same second isSecond).mp around)
  case fromChildren =>
    intro inner isChild later isPending around
    exact (same inner isChild).mpr (fromTrail later isPending around)
  case across =>
    intro first isFirst second isSecond around
    rcases List.mem_cons.mp isSecond with rfl | isLater
    · exact across first isFirst second List.mem_cons_self around
    · rcases List.mem_append.mp isLater with isChild | isPending
      · exact across first isFirst trail List.mem_cons_self ((same second isChild).mp around)
      · exact across first isFirst second (List.mem_cons_of_mem trail isPending) around

/-- The state of a traversal: behind every trail that was followed, what leads through its unit comes first, up to the
    last trail that is pending; and pending trails lead through units that were visited. -/
structure Stacked (pending done : List Trail) : Prop where
  grouped : ∀ {front back : List Trail} {outer : Trail}, done = front ++ outer :: back → Grouped outer (back ++ pending)
  visited : ∀ trail ∈ pending, ∀ position ∈ trail.before, position ∈ done.map Trail.unit

namespace Stacked

variable {trail : Trail} {pending done : List Trail}

theorem skip (stacked : Stacked (trail :: pending) done) : Stacked pending done where
  grouped := by
    intro front back outer isDone
    exact (stacked.grouped isDone).sublist ((List.sublist_cons_self trail pending).append_left back)
  visited := (List.forall_mem_cons.mp stacked.visited).2

/-- Nothing that is pending leads through a unit that was not visited. -/
theorem not_surrounds (stacked : Stacked (trail :: pending) done) (fresh : trail.unit ∉ done.map Trail.unit) :
    ∀ later ∈ pending, ¬ trail.Surrounds later := by
  intro later member around
  exact fresh (stacked.visited later (List.mem_cons_of_mem trail member) trail.unit around.unit_mem)

theorem visit (stacked : Stacked (trail :: pending) done) (fresh : trail.unit ∉ done.map Trail.unit)
    (children : List Nat) : Stacked (children.map trail.onTo ++ pending) (done ++ [trail]) where
  grouped := by
    intro front back outer isDone
    rcases concat_eq_append_cons isDone with ⟨_, rfl, rfl⟩ | ⟨rest, isFront, rfl⟩
    -- The unit just visited: its children stand first, and nothing behind them leads through it.
    · have inside : ∀ inner ∈ children.map trail.onTo, trail.Surrounds inner := by
        intro inner member
        obtain ⟨child, _, rfl⟩ := List.mem_map.mp member
        exact Trail.surrounds_onTo_iff.mpr (.inl rfl)
      rw [List.nil_append, Grouped, List.pairwise_append]
      refine ⟨?_, ?_, ?_⟩
      · exact List.pairwise_of_forall_mem_list fun first isFirst _ _ _ => inside first isFirst
      · exact List.pairwise_of_forall_mem_list fun _ _ second isSecond around =>
          absurd around (stacked.not_surrounds fresh second isSecond)
      · exact fun first isFirst _ _ _ => inside first isFirst
    · have other : outer ≠ trail := by
        rintro rfl
        exact fresh (List.mem_map_of_mem (isFront ▸ List.mem_append_right front List.mem_cons_self))
      rw [List.append_assoc]
      exact (stacked.grouped isFront).visit other children
  visited := by
    obtain ⟨here, later⟩ := List.forall_mem_cons.mp stacked.visited
    rw [List.map_append, List.forall_mem_append]
    constructor
    · intro inner member position inside
      obtain ⟨child, _, rfl⟩ := List.mem_map.mp member
      rcases List.mem_append.mp inside with earlier | isLast
      · exact List.mem_append_left _ (here position earlier)
      · exact List.mem_append_right _ isLast
    · intro inner member position inside
      exact List.mem_append_left _ (later inner member position inside)

end Stacked

section

variable {m : CompiledModule} {front back : List Trail} {trail : Trail}

/-- What is visited between a unit and a unit inside it is inside it too. -/
theorem grouped_of_split (split : trails m = front ++ trail :: back) : Grouped trail back := by
  have all : ∃ left, Stacked left (trails m) :=
    trailsFrom_induction (P := Stacked) Stacked.skip (fun _ fresh stacked => stacked.visit fresh _)
      (visitBound m.units) ?start
  case start =>
    refine ⟨?_, ?_⟩
    · intro front back outer isNil
      exact absurd isNil.symm (List.append_ne_nil_of_right_ne_nil front (List.cons_ne_nil outer back))
    · rw [List.forall_mem_singleton]
      exact List.forall_mem_nil _
  obtain ⟨left, stacked⟩ := all
  exact (stacked.grouped split).sublist (List.sublist_append_left back left)

/-! ### Paths along trails -/

/-- The name of the unit at a position. -/
def nameOf (units : List CodeUnit) (position : Nat) : String :=
  (units[position]?.map CodeUnit.name).getD ""

theorem nameOf_eq {units : List CodeUnit} {position : Nat} {u : CodeUnit} (found : units[position]? = some u) :
    nameOf units position = u.name := by
  rw [nameOf, found]
  rfl

theorem chain_onTo (units : List CodeUnit) (trail : Trail) (child : Nat) :
    (trail.onTo child).chain units = trail.chain units ++ [nameOf units child] :=
  List.map_append

theorem length_chain (units : List CodeUnit) (trail : Trail) :
    (trail.chain units).length = trail.before.length + 1 := by
  rw [Trail.chain, Trail.positions, List.length_map, List.length_append, List.length_singleton]

/-- The path of the unit that a trail leads to. -/
def pathOf (m : CompiledModule) (trail : Trail) : String :=
  ((ofModule m).unit trail.unit).path

/-- How the unit of a trail comes by its path and its qualified name, after the units of earlier trails. -/
inductive Arises (m : CompiledModule) (earlier : List Trail) : Trail → Prop
  | body (first : earlier = []) (isPath : pathOf m ⟨[], m.root⟩ = nameOf m.units m.root) :
      Arises m earlier ⟨[], m.root⟩
  | below {outer : Trail} {child : Nat} {u : CodeUnit} (before : outer ∈ earlier) (found : m.units[child]? = some u)
      (isLeast : LeastFree (earlier.map (pathOf m)) (pathOf m outer ++ "." ++ nameOf m.units child)
        (pathOf m (outer.onTo child)))
      (named : u.qualname = u.name → ((ofModule m).unit child).qualname =
        qualnameFor (nameOf m.units m.root) (pathOf m outer ++ "." ++ nameOf m.units child)) :
      Arises m earlier (outer.onTo child)

/-- A linked trail to no unit inside another leads to the module body. -/
theorem Trail.Linked.eq_root {trail : Trail} (linked : trail.Linked m) (first : trail.before = []) :
    trail = ⟨[], m.root⟩ := by
  cases linked with
  | root =>
      rfl
  | nested =>
      exact absurd first (List.append_ne_nil_of_right_ne_nil _ (List.cons_ne_nil _ _))

/-- Every entry was made from those before it. -/
theorem Derived.split {units : List CodeUnit} {made : List (PathEntry × Trail)} (derived : Derived units made) :
    ∀ {front back : List (PathEntry × Trail)} {pair : PathEntry × Trail}, made = front ++ pair :: back →
      ∃ visit u, Continues front visit pair.2 ∧ units[pair.2.unit]? = some u ∧
        pair.1 = entryFor (front.map Prod.fst) visit u := by
  induction derived with
  | nil =>
      intro front back pair isNil
      exact absurd isNil.symm (List.append_ne_nil_of_right_ne_nil front (List.cons_ne_nil pair back))
  | @snoc made visit trail u _ continues found _ ih =>
      intro front back pair split
      rcases concat_eq_append_cons split with ⟨rfl, rfl, rfl⟩ | ⟨rest, isMade, rfl⟩
      · exact ⟨visit, u, continues, found, rfl⟩
      · exact ih isMade

theorem Continues.before_eq_nil {visit : Visit} {trail : Trail} (continues : Continues [] visit trail) :
    trail.before = [] := by
  cases continues with
  | body => rfl
  | below _ earlier => cases earlier

/-- Nothing is made before the entry of the module body. -/
theorem Derived.eq_nil_of_body {made back : List (PathEntry × Trail)} {pair : PathEntry × Trail}
    (derived : Derived m.units (made ++ pair :: back))
    (linked : ∀ other ∈ made ++ pair :: back, other.2.Linked m) (isBody : pair.2.before = []) : made = [] := by
  cases made with
  | nil =>
      rfl
  | cons first rest =>
      obtain ⟨visit, u, continues, _⟩ := derived.split (List.nil_append (first :: (rest ++ pair :: back))).symm
      have inside : pair ∈ rest ++ pair :: back := List.mem_append_right rest List.mem_cons_self
      have same : first.2 = pair.2 := by
        rw [(linked first List.mem_cons_self).eq_root continues.before_eq_nil,
          (linked pair (List.mem_cons_of_mem first inside)).eq_root isBody]
      have once := derived.once
      rw [derived.units_eq, List.map_map, List.cons_append, List.map_cons, List.nodup_cons] at once
      have again := List.mem_map_of_mem (f := Trail.unit ∘ Prod.snd) inside
      rw [Function.comp_apply, ← same] at again
      exact absurd again once.1

/-- A trail has the path of its entry. -/
theorem pathOf_eq {made : List (PathEntry × Trail)} (derived : Derived m.units made)
    (isEntries : made.map Prod.fst = assignPaths m.units m.root) :
    ∀ pair ∈ made, pathOf m pair.2 = pair.1.path := by
  intro pair member
  obtain ⟨isUnit, known⟩ := derived.unit pair member
  rw [pathOf, ← isUnit]
  exact path_of_mem (isEntries ▸ derived.once) (isEntries ▸ List.mem_map_of_mem member) known

/-- A unit below another that has no qualified name of its own gets the one that its entry gives. -/
theorem qualname_place {u : CodeUnit} {entry : PathEntry} (rootName : String) (isBelow : entry.parent.isSome = true)
    (unnamed : u.qualname = u.name) : (place rootName u entry).qualname = qualnameFor rootName entry.untagged := by
  have test : (entry.parent.isSome && u.qualname == u.name) = true := by
    rw [isBelow, unnamed, beq_self_eq_true]
    rfl
  exact if_pos test

/-- The unit of an entry has its path and its qualified name from the entries before. -/
theorem arises_of_derived {earlier later : List (PathEntry × Trail)} {entry : PathEntry}
    (derived : Derived m.units (earlier ++ (entry, trail) :: later))
    (isEntries : (earlier ++ (entry, trail) :: later).map Prod.fst = assignPaths m.units m.root)
    (linked : ∀ pair ∈ earlier ++ (entry, trail) :: later, pair.2.Linked m) :
    Arises m (earlier.map Prod.snd) trail := by
  have member : (entry, trail) ∈ earlier ++ (entry, trail) :: later :=
    List.mem_append_right earlier List.mem_cons_self
  have paths := pathOf_eq derived isEntries
  have taken : (earlier.map Prod.fst).map PathEntry.path = (earlier.map Prod.snd).map (pathOf m) := by
    rw [List.map_map, List.map_map]
    exact List.map_congr_left fun pair inside => (paths pair (List.mem_append_left _ inside)).symm
  have isUnit : entry.unit = trail.unit := (derived.unit _ member).1
  have ownPath : pathOf m trail = entry.path := paths _ member
  obtain ⟨visit, u, continues, found, isEntry⟩ := derived.split rfl
  dsimp only at continues found isEntry
  have placed : (ofModule m).unit trail.unit = place (nameOf m.units m.root) u entry := by
    rw [← isUnit]
    exact unit_of_mem (isEntries ▸ derived.once) (isEntries ▸ List.mem_map_of_mem member) (isUnit.symm ▸ found)
  cases continues with
  | body position =>
      have isRoot := (linked _ member).eq_root rfl
      cases isRoot
      have first : earlier = [] := derived.eq_nil_of_body linked rfl
      subst first
      refine .body rfl ?_
      rw [ownPath, isEntry, nameOf_eq found]
      exact (leastFree_freshPath [] u.name).eq_of_nil
  | @below child outerEntry outer before =>
      have outerPath : pathOf m outer = outerEntry.path := paths _ (List.mem_append_left _ before)
      have isName : nameOf m.units child = u.name := nameOf_eq found
      refine .below (List.mem_map_of_mem before) found ?_ ?_
      · rw [ownPath, outerPath, ← taken, isEntry, isName]
        exact leastFree_freshPath _ _
      · intro unnamed
        rw [show (ofModule m).unit child = _ from placed, outerPath, isName, isEntry]
        exact qualname_place _ rfl unnamed

/-- The unit of every trail has its path and its qualified name from the units of the trails before. -/
theorem arises_of_split (split : trails m = front ++ trail :: back) : Arises m front trail := by
  obtain ⟨made, derived, isEntries, isTrails⟩ := exists_derived m
  have linked : ∀ pair ∈ made, pair.2.Linked m := by
    intro pair member
    exact trails_linked m pair.2 (isTrails ▸ List.mem_map_of_mem member)
  rw [split] at isTrails
  obtain ⟨earlier, rest, rfl, rfl, isRest⟩ := List.map_eq_append_iff.mp isTrails
  obtain ⟨⟨entry, last⟩, later, rfl, isLast, _⟩ := List.map_eq_cons_iff.mp isRest
  rw [← isLast]
  exact arises_of_derived derived isEntries linked

/-- What holds at the module body, and at a unit when it holds at the unit around it, holds at every trail. -/
theorem trails_induction {P : Trail → Prop}
    (body : ∀ {back : List Trail}, trails m = ⟨[], m.root⟩ :: back →
      pathOf m ⟨[], m.root⟩ = nameOf m.units m.root → P ⟨[], m.root⟩)
    (below : ∀ {front back : List Trail} {outer : Trail} {child : Nat},
      trails m = front ++ outer.onTo child :: back → outer ∈ front →
        LeastFree (front.map (pathOf m)) (pathOf m outer ++ "." ++ nameOf m.units child)
          (pathOf m (outer.onTo child)) →
          P outer → P (outer.onTo child)) :
    ∀ trail ∈ trails m, P trail := by
  -- By the number of units on the way: the unit around has one less.
  have all (length : Nat) : ∀ {trail : Trail}, trail.before.length < length → trail ∈ trails m → P trail := by
    induction length with
    | zero =>
        intro trail shorter
        exact absurd shorter (Nat.not_lt_zero _)
    | succ length ih =>
        intro trail shorter member
        obtain ⟨front, back, split⟩ := List.append_of_mem member
        cases arises_of_split split with
        | body first isPath =>
            subst first
            exact body split isPath
        | @below outer child u before _ isLeast =>
            rw [Trail.onTo, Trail.positions, List.length_append, List.length_singleton] at shorter
            exact below split before isLeast (ih (by omega) (split ▸ List.mem_append_left _ before))
  exact fun trail member => all (trail.before.length + 1) (Nat.lt_succ_self _) member

/-! ### Tags -/

/-- A path has a tag when the path it is made from has one, or is taken. -/
theorem LeastFree.sharp_mem_iff {taken : List String} {path name : String} (isLeast : LeastFree taken path name) :
    '#' ∈ name.toList ↔ '#' ∈ path.toList ∨ path ∈ taken := by
  cases isLeast with
  | free isFree =>
      rw [or_iff_left isFree]
  | tag number isTaken =>
      rw [toList_tagged]
      exact ⟨fun _ => .inr isTaken, fun _ => List.mem_append_right _ List.mem_cons_self⟩

theorem LeastFree.mem_or_eq {taken : List String} {path name : String} (isLeast : LeastFree taken path name) :
    path ∈ taken ∨ name = path := by
  cases isLeast with
  | free isFree => exact .inr rfl
  | tag number isTaken => exact .inl isTaken

theorem sharp_mem_below (outer name : String) :
    '#' ∈ (outer ++ "." ++ name).toList ↔ '#' ∈ outer.toList ∨ '#' ∈ name.toList := by
  simp

/-- The trails that are followed before one. -/
def earlierThan (m : CompiledModule) (trail : Trail) : List Trail :=
  (trails m).takeWhile fun other => other ≠ trail

/-- An earlier unit is reached by the same names. -/
def Repeats (m : CompiledModule) (trail : Trail) : Prop :=
  ∃ twin ∈ earlierThan m trail, twin.chain m.units = trail.chain m.units

instance (m : CompiledModule) (trail : Trail) : Decidable (Repeats m trail) :=
  inferInstanceAs (Decidable (∃ twin ∈ earlierThan m trail, twin.chain m.units = trail.chain m.units))

theorem earlierThan_eq (split : trails m = front ++ trail :: back) : earlierThan m trail = front := by
  obtain ⟨made, derived, _, isTrails⟩ := exists_derived m
  have once : (trails m).Nodup := by
    apply List.Nodup.of_map Trail.unit
    rw [← isTrails, ← derived.units_eq]
    exact derived.once
  rw [split, List.nodup_append] at once
  rw [earlierThan, split, List.takeWhile_append_of_pos, List.takeWhile_cons_of_neg (by simp), List.append_nil]
  intro other member
  exact decide_eq_true (once.2.2 other member trail List.mem_cons_self)

/-- A unit with the names of a unit inside another is itself inside a unit with the names of the other. -/
theorem exists_outer_of_chain_eq {outer twin : Trail} {child : Nat} (split : trails m = front ++ twin :: back)
    (same : twin.chain m.units = (outer.onTo child).chain m.units) :
    ∃ twinOuter ∈ front, twinOuter.chain m.units = outer.chain m.units ∧
      LeastFree (front.map (pathOf m)) (pathOf m twinOuter ++ "." ++ nameOf m.units child) (pathOf m twin) := by
  cases arises_of_split split with
  | body =>
      have lengths := congrArg List.length same
      rw [length_chain, chain_onTo, List.length_append, length_chain, List.length_singleton] at lengths
      simp at lengths
  | @below twinOuter twinChild u before _ isLeast =>
      rw [chain_onTo, chain_onTo] at same
      obtain ⟨sameOuter, sameName⟩ := List.append_inj' same rfl
      exact ⟨twinOuter, before, sameOuter, List.singleton_inj.mp sameName ▸ isLeast⟩

/-- Of two units with the same names, one of them around a unit, the other one comes first: what is visited between
    the unit around and the unit inside has more names. -/
theorem eq_or_earlier {outer other : Trail} {child : Nat} (split : trails m = front ++ outer.onTo child :: back)
    (before : outer ∈ front) (alsoBefore : other ∈ front) (same : other.chain m.units = outer.chain m.units) :
    other = outer ∨ ∃ past future, trails m = past ++ outer :: future ∧ other ∈ past := by
  obtain ⟨past, between, isFront⟩ := List.append_of_mem before
  have outerSplit : trails m = past ++ outer :: (between ++ outer.onTo child :: back) := by
    rw [split, isFront, List.append_assoc, List.cons_append]
  rw [isFront, List.mem_append, List.mem_cons] at alsoBefore
  rcases alsoBefore with earlier | isOuter | later
  · exact .inr ⟨past, _, outerSplit, earlier⟩
  · exact .inl isOuter
  · have grouped := (List.pairwise_append.mp (grouped_of_split outerSplit)).2.2
    have around := grouped other later (outer.onTo child) List.mem_cons_self
      (Trail.surrounds_onTo_iff.mpr (.inl rfl))
    have lengths := congrArg List.length same
    rw [length_chain, length_chain] at lengths
    exact absurd around.length_lt (by omega)

/-- The second of two units with the same names has a tag in its path. When the two are inside the same unit, the path
    is taken; and otherwise the unit around the second one is itself the second one of its names. -/
theorem sharp_of_repeats : ∀ trail ∈ trails m, Repeats m trail → '#' ∈ (pathOf m trail).toList := by
  apply trails_induction
  case body =>
    rintro back split _ ⟨twin, earlier, _⟩
    rw [earlierThan_eq (split.trans (List.nil_append _).symm)] at earlier
    cases earlier
  case below =>
    rintro front back outer child split before isLeast ih ⟨twin, earlier, same⟩
    rw [earlierThan_eq split] at earlier
    rw [isLeast.sharp_mem_iff, sharp_mem_below]
    obtain ⟨past, between, isFront⟩ := List.append_of_mem earlier
    have twinSplit : trails m = past ++ twin :: (between ++ outer.onTo child :: back) := by
      rw [split, isFront, List.append_assoc, List.cons_append]
    obtain ⟨twinOuter, twinBefore, sameOuter, twinLeast⟩ := exists_outer_of_chain_eq twinSplit same
    have alsoBefore : twinOuter ∈ front := isFront ▸ List.mem_append_left _ twinBefore
    rcases eq_or_earlier split before alsoBefore sameOuter with rfl | ⟨past, _, outerSplit, isEarlier⟩
    -- Both are in one unit and ask for the same path, which the first has, or found taken before it.
    · right
      rcases twinLeast.mem_or_eq with isTaken | isPath
      · rw [isFront, List.map_append]
        exact List.mem_append_left _ isTaken
      · rw [← isPath]
        exact List.mem_map_of_mem earlier
    · left
      left
      exact ih ⟨twinOuter, (earlierThan_eq outerSplit).symm ▸ isEarlier, sameOuter⟩

section Plain

variable (plain : ∀ u ∈ m.units, PlainName u.name)

include plain

theorem plain_nameOf (position : Nat) : PlainName (nameOf m.units position) :=
  plain_chain plain ⟨[], position⟩ _ (List.mem_singleton_self _)

theorem spells_pathOf (member : trail ∈ trails m) : Spells (pathOf m trail) (trail.chain m.units) := by
  obtain ⟨made, derived, isEntries, isTrails⟩ := exists_derived m
  rw [← isTrails] at member
  obtain ⟨pair, isPair, rfl⟩ := List.mem_map.mp member
  rw [pathOf_eq derived isEntries pair isPair]
  exact (derived.records plain pair isPair).path

/-- What a unit inside another asks for spells its names. -/
theorem spells_below {outer : Trail} (member : outer ∈ trails m) (child : Nat) :
    Spells (pathOf m outer ++ "." ++ nameOf m.units child) ((outer.onTo child).chain m.units) := by
  have below := (spells_pathOf plain member).below (plain_nameOf plain child) []
  rwa [(leastFree_freshPath [] _).eq_of_nil, ← chain_onTo] at below

/-- What is asked for is taken only by a unit with the same names. -/
theorem repeats_of_taken {outer : Trail} {child : Nat} (split : trails m = front ++ outer.onTo child :: back)
    (before : outer ∈ front) (isTaken : pathOf m outer ++ "." ++ nameOf m.units child ∈ front.map (pathOf m)) :
    Repeats m (outer.onTo child) := by
  have known : ∀ other ∈ front, other ∈ trails m := fun other member => split ▸ List.mem_append_left _ member
  obtain ⟨twin, earlier, isPath⟩ := List.mem_map.mp isTaken
  have asked := spells_below plain (known outer before) child
  have own := spells_pathOf plain (known twin earlier)
  refine ⟨twin, (earlierThan_eq split).symm ▸ earlier, ?_⟩
  rw [← dotted_inj (plain_chain plain _) (plain_chain plain _) own.nonempty asked.nonempty, ← own.plainPath,
    ← asked.plainPath, isPath]

/-- A path has a tag exactly when the names of the unit are repeated, or those of a unit around it. -/
theorem sharp_mem_pathOf_iff : ∀ trail ∈ trails m,
    ('#' ∈ (pathOf m trail).toList ↔
      ∃ outer ∈ trails m, (outer = trail ∨ outer.Surrounds trail) ∧ Repeats m outer) := by
  apply trails_induction
  case body =>
    intro back split isPath
    have member : ⟨[], m.root⟩ ∈ trails m := split ▸ List.mem_cons_self
    constructor
    · intro sharp
      exact absurd (isPath ▸ sharp) (plain_nameOf plain m.root).sharp
    · rintro ⟨outer, _, rfl | around, repeats⟩
      · exact sharp_of_repeats _ member repeats
      · cases around.unit_mem
  case below =>
    intro front back outer child split before isLeast ih
    have member : outer.onTo child ∈ trails m := split ▸ List.mem_append_right front List.mem_cons_self
    constructor
    · intro sharp
      rw [isLeast.sharp_mem_iff, sharp_mem_below, or_iff_left (plain_nameOf plain child).sharp] at sharp
      rcases sharp with ofOuter | isTaken
      · obtain ⟨other, known, onTheWay, repeats⟩ := ih.mp ofOuter
        exact ⟨other, known, .inr (Trail.surrounds_onTo_iff.mpr onTheWay), repeats⟩
      · exact ⟨outer.onTo child, member, .inl rfl, repeats_of_taken plain split before isTaken⟩
    · rintro ⟨other, known, rfl | onTheWay, repeats⟩
      · exact sharp_of_repeats _ member repeats
      · rw [isLeast.sharp_mem_iff, sharp_mem_below]
        exact .inl (.inl (ih.mpr ⟨other, known, Trail.surrounds_onTo_iff.mp onTheWay, repeats⟩))

end Plain

/-! ### Qualified names -/

theorem LeastFree.exists_append {taken : List String} {path name : String} (isLeast : LeastFree taken path name) :
    ∃ more, name = path ++ more := by
  cases isLeast with
  | free => exact ⟨"", String.append_empty.symm⟩
  | tag number => exact ⟨"#" ++ toString number, String.append_assoc⟩

theorem qualnameFor_append (rootName rest : String) : qualnameFor rootName (rootName ++ "." ++ rest) = rest := by
  have text : (rootName ++ "." ++ rest).toList = (rootName ++ ".").toList ++ rest.toList := String.toList_append
  rw [qualnameFor, text, Chars.dropPattern?_append]
  exact String.ofList_toList

/-- What a unit inside another asks for is below the name of the module body. -/
theorem exists_rest : ∀ trail ∈ trails m, ∀ name,
    ∃ rest, pathOf m trail ++ "." ++ name = nameOf m.units m.root ++ "." ++ rest := by
  apply trails_induction
  case body =>
    intro back _ isPath name
    exact ⟨name, by rw [isPath]⟩
  case below =>
    intro front back outer child _ _ isLeast ih name
    obtain ⟨rest, isBelow⟩ := ih (nameOf m.units child)
    obtain ⟨more, isPath⟩ := isLeast.exists_append
    refine ⟨rest ++ more ++ "." ++ name, ?_⟩
    rw [isPath, isBelow]
    simp only [String.append_assoc]

/-- The qualified name of a unit inside another spells its names below the module body, with the tags that the path of
    the other one has. -/
theorem spells_qualname (plain : ∀ u ∈ m.units, PlainName u.name) {outer : Trail} {child : Nat}
    (member : outer ∈ trails m)
    (isQualname : ((ofModule m).unit child).qualname =
      qualnameFor (nameOf m.units m.root) (pathOf m outer ++ "." ++ nameOf m.units child)) :
    Spells ((ofModule m).unit child).qualname ((outer.onTo child).chain m.units).tail ∧
      ('#' ∈ ((ofModule m).unit child).qualname.toList ↔ '#' ∈ (pathOf m outer).toList) := by
  obtain ⟨rest, isBelow⟩ := exists_rest outer member (nameOf m.units child)
  have spells := spells_below plain member child
  have sharp := sharp_mem_below (pathOf m outer) (nameOf m.units child)
  rw [isBelow] at spells sharp
  rw [sharp_mem_below, or_iff_left (plain_nameOf plain child).sharp,
    or_iff_right (plain_nameOf plain m.root).sharp] at sharp
  rw [isQualname, isBelow, qualnameFor_append]
  exact ⟨spells.tail (plain_nameOf plain m.root).point, sharp⟩

end

/-- The qualified names of a module whose units have plain names and no qualified names of their own. Every unit that
    can be reached has one way, and below the module body its qualified name is the names on the way, tags aside. It
    is just these names exactly when no unit around it has the names of a unit before it. -/
theorem qualname_eq_dotted_iff {m : CompiledModule} (plain : ∀ u ∈ m.units, PlainName u.name)
    (unnamed : ∀ u ∈ m.units, u.qualname = u.name) :
    let index := ofModule m
    Explores m (trails m) ∧
      index.paths.map Prod.snd = (trails m).map Trail.unit ∧
      ∀ trail ∈ trails m, trail.unit ≠ m.root →
        let names := (trail.chain m.units).tail
        plainPath (index.unit trail.unit).qualname = dotted names ∧
        ((index.unit trail.unit).qualname = dotted names ↔
          ∀ outer ∈ trails m, outer.Surrounds trail → ¬ Repeats m outer) := by
  intro index
  refine ⟨explores_trails plain, ?_, ?_⟩
  · exact List.map_map.trans (recorded_assignPaths plain).units_eq
  · intro trail member notRoot names
    obtain ⟨front, back, split⟩ := List.append_of_mem member
    cases arises_of_split split with
    | body =>
        exact absurd rfl notRoot
    | @below outer child u before found _ named =>
        have isQualname := named (unnamed u (List.mem_of_getElem? found))
        have around : outer ∈ trails m := split ▸ List.mem_append_left _ before
        obtain ⟨spells, sharp⟩ := spells_qualname plain around isQualname
        have plainNames : ∀ name ∈ names, PlainName name := fun name inside =>
          plain_chain plain _ name (List.mem_of_mem_tail inside)
        have untagged : (index.unit child).qualname = dotted names ↔ '#' ∉ (index.unit child).qualname.toList :=
          ⟨fun isDotted => isDotted ▸ sharp_not_mem_dotted plainNames, spells.eq_dotted⟩
        refine ⟨spells.plainPath, untagged.trans ?_⟩
        rw [sharp, sharp_mem_pathOf_iff plain outer around]
        constructor
        · intro none other known onTheWay repeats
          exact none ⟨other, known, Trail.surrounds_onTo_iff.mp onTheWay, repeats⟩
        · rintro none ⟨other, known, onTheWay, repeats⟩
          exact none other known (Trail.surrounds_onTo_iff.mpr onTheWay) repeats

/-- A function inside the first of two functions of one name, and the second of them. -/
theorem qualname_eq_dotted_tangled :
    ((ofModule tangled).unit 1).qualname = "f.g" ∧ ((ofModule tangled).unit 2).qualname = "f" := by
  have all := (qualname_eq_dotted_iff (m := tangled) (by decide) (by decide)).2.2
  constructor
  · exact (all ⟨[3, 0], 1⟩ (by decide) (by decide)).2.mpr (by decide)
  · exact (all ⟨[3], 2⟩ (by decide) (by decide)).2.mpr (by decide)

/-- The function inside the second of two functions of one name has the tag of that one in its qualified name. -/
theorem qualname_ne_dotted_twins :
    (∀ u ∈ twins.units, PlainName u.name ∧ u.qualname = u.name) ∧ ⟨[3, 2], 1⟩ ∈ trails twins ∧
      dotted (Trail.chain twins.units ⟨[3, 2], 1⟩).tail = "helper.inner" ∧
        ((ofModule twins).unit 1).qualname = "helper#2.inner" := by
  refine ⟨by decide, by decide, rfl, rfl⟩

end SourceRecovery.Index
