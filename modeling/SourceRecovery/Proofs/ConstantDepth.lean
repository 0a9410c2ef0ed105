/-
Module: SourceRecovery.Proofs.ConstantDepth
Layer: Proofs
Purpose: How deep the constants of a module nest. The room of an object stream counts the objects that are open while
  an object is read, and not how deep the object is in the end: a number stands for an object that has been read
  already, of any depth, and may stand at the bottom of the room that is left. So the constants of an artifact nest
  within the room and the deepest numbered object. A listing has no such room for values; a constant of it has one
  level for every line of a container around its innermost line, and as many as the brackets of that line allow.
Imports: Mathlib.Algebra.GroupWithZero.Nat, SourceRecovery.Proofs.ArtifactWriting,
  SourceRecovery.Proofs.ConsumedBytes, SourceRecovery.Proofs.ListingRoundTrip
Trusted boundary: none
Main exports: Artifact.numbered, Listing.Stacked, Listing.Line.Gives, constants_depth_le, constants_deeper_than_room
Open obligations: none
-/
import Mathlib.Algebra.GroupWithZero.Nat
import SourceRecovery.Proofs.ArtifactWriting
import SourceRecovery.Proofs.ConsumedBytes
import SourceRecovery.Proofs.ListingRoundTrip

namespace SourceRecovery

/-! ### Depths of containers -/

namespace Value

variable {v : Value} {depth : Nat}

theorem depthOfItems_le_iff {items : List Value} : depthOfItems items ≤ depth ↔ ∀ item ∈ items, item.depth ≤ depth := by
  induction items with
  | nil => simp [depthOfItems]
  | cons item items ih => rw [depthOfItems, Nat.max_le, ih, List.forall_mem_cons]

/-- The deepest of some values. -/
theorem exists_depth_eq_depthOfItems (first : Value) (items : List Value) :
    ∃ v ∈ first :: items, v.depth = depthOfItems (first :: items) := by
  induction items generalizing first with
  | nil => exact ⟨first, List.mem_singleton_self first, (Nat.max_zero _).symm⟩
  | cons second items ih =>
      obtain ⟨v, member, deepest⟩ := ih second
      rw [depthOfItems, ← deepest]
      rcases Nat.le_total first.depth v.depth with deeper | shallower
      · exact ⟨v, List.mem_cons_of_mem _ member, (Nat.max_eq_right deeper).symm⟩
      · exact ⟨first, List.mem_cons_self, (Nat.max_eq_left shallower).symm⟩

theorem depthOfPairs_le {pairs : List (Value × Value)}
    (each : ∀ entry ∈ pairs, entry.1.depth ≤ depth ∧ entry.2.depth ≤ depth) : depthOfPairs pairs ≤ depth := by
  induction pairs with
  | nil => exact Nat.zero_le _
  | cons entry pairs ih =>
      obtain ⟨here, later⟩ := List.forall_mem_cons.mp each
      rw [depthOfPairs]
      exact Nat.max_le.mpr ⟨here.1, Nat.max_le.mpr ⟨here.2, ih later⟩⟩

theorem depth_of_items? {items : List Value} (row : v.items? = some items) : v.depth = depthOfItems items + 1 := by
  cases v with
  | tuple | list | set | frozenset =>
      cases row
      rw [Value.depth]
  | _ => cases row

theorem depth_of_isScalar (scalar : v.isScalar = true) : v.depth = 1 := by
  cases v with
  | tuple | list | set | frozenset | dict | code => cases scalar
  | _ => rw [Value.depth] <;> simp

theorem depth_dict_insertAll_le {pairs : List (Value × Value)}
    (each : ∀ entry ∈ pairs, entry.1.depth ≤ depth ∧ entry.2.depth ≤ depth) :
    (Value.dict (insertAll [] pairs)).depth ≤ depth + 1 := by
  rw [Value.depth]
  refine Nat.succ_le_succ (depthOfPairs_le ?_)
  exact forall_mem_insertAll (fun v => v.depth ≤ depth) each (List.forall_mem_nil _)

end Value

/-! ### Artifacts -/

namespace ObjectStream

open UnitStore (Any)

/-- The numbered objects that have been read to their end. -/
def finished (refs : List (Option Value)) : List Value :=
  refs.filterMap id

theorem mem_finished {refs : List (Option Value)} {v : Value} : v ∈ finished refs ↔ some v ∈ refs := by
  simp [finished]

theorem finished_reserved (refs : List (Option Value)) : finished (refs ++ [none]) = finished refs := by
  simp [finished]

/-- Within the room, or below the bottom of the room with the deepest numbered object. -/
def Within (room deepest : Nat) (v : Value) : Prop :=
  v.depth ≤ room + (deepest - 1)

theorem Within.mono {room deepest deeper : Nat} {v : Value} (within : Within room deepest v)
    (grows : deepest ≤ deeper) : Within room deeper v := by
  unfold Within at *
  omega

/-- The deepest numbered object. A code unit takes up one level of the room and its table of constants another. -/
def depthStore : UnitStore StreamState where
  size s := Value.depthOfItems (finished s.refs)
  Sound s := ∀ u ∈ s.units, ∀ v ∈ u.consts, Within (maxDepth - 2) (Value.depthOfItems (finished s.refs)) v

theorem depthRules {room : Nat} (fits : room < maxDepth) :
    Rules depthStore (Within room) (Within (room + 1)) (fun deepest items => ∀ v ∈ items, Within (maxDepth - 2) deepest v)
      Any where
  sound sound _ := sound
  size _ _ := rfl
  part_mono := Within.mono
  scalar scalar := by
    rw [Within, Value.depth_of_isScalar scalar]
    omega
  row row each := by
    rw [Within, Value.depth_of_items? row, Nat.add_right_comm]
    exact Nat.succ_le_succ (Value.depthOfItems_le_iff.mpr each)
  dict each := by
    rw [Within, Nat.add_right_comm]
    exact Value.depth_dict_insertAll_le each
  code _ := by
    unfold Within
    simp only [Value.depth]
    omega
  tuple within := by
    intro v member
    rw [Within, Value.depth] at within
    have deep := Value.depthOfItems_le_iff.mp (Nat.le_refl _) v member
    unfold Within maxDepth at *
    omega
  consts_mono each grows v member := (each v member).mono grows
  add known _ := by
    intro s position t sound enough done
    cases done
    refine ⟨?_, Nat.le_refl _, trivial⟩
    intro u member
    rcases List.mem_append.mp member with old | new
    · exact sound u old
    · cases List.mem_singleton.mp new
      exact fun v member => (known v member).mono enough

variable {s t : StreamState} {v : Value}

theorem sound_of_grows (sound : depthStore.Sound s) (units : t.units = s.units)
    (grows : depthStore.size s ≤ depthStore.size t) : depthStore.Sound t := by
  intro u member v inside
  rw [units] at member
  exact (sound u member v inside).mono grows

theorem within_of_numbered {room : Nat} (numbered : some v ∈ s.refs) : Within (room + 1) (depthStore.size s) v := by
  have deep : v.depth ≤ depthStore.size s :=
    Value.depthOfItems_le_iff.mp (Nat.le_refl _) v (mem_finished.mpr numbered)
  unfold Within
  omega

/-- An object that is finished takes no number away from another. -/
theorem size_le_finish {refs : List (Option Value)} (grows : refs ++ [none] <+: s.refs) (v : Value) :
    depthStore.size s ≤ depthStore.size { s with refs := s.refs.set refs.length (some v) } := by
  obtain ⟨behind, whole⟩ := grows
  refine Value.depthOfItems_le_iff.mpr fun other member => ?_
  refine Value.depthOfItems_le_iff.mp (Nat.le_refl _) other (mem_finished.mpr ?_)
  have known := mem_finished.mp member
  rw [← whole] at known ⊢
  rw [set_reserved]
  rcases List.mem_append.mp known with old | later
  · exact List.mem_append_left _ (some_mem_reserved.mp old)
  · exact List.mem_append_right _ (List.mem_cons_of_mem _ later)

/-- What is read with some room nests within the room, but for the objects that are referred to by their numbers. -/
theorem keeps_depth_readObject (version : Version) (room : Nat) (fits : room ≤ maxDepth) :
    ∀ least, depthStore.Keeps least (Within room) (readObject version room) := by
  induction room with
  | zero => exact fun _ => keeps_fault _
  | succ room ih =>
      intro least s v t sound enough done
      have contents : ∀ {kind : Char} {inner : StreamState} (start : StreamState), depthStore.Sound start →
          readContents (readObject version room) version kind start = .ok (v, inner) →
          depthStore.Kept (Within (room + 1)) start v inner :=
        fun start soundStart read => keeps_readContents (depthRules fits) (ih (Nat.le_of_lt fits)) version _ start _ _
          soundStart (Nat.le_refl _) read
      have same : ∀ rest, depthStore.size s = depthStore.size { s with rest, refs := s.refs ++ [none] } :=
        fun _ => congrArg Value.depthOfItems (finished_reserved s.refs).symm
      have reserved : ∀ rest, depthStore.Sound { s with rest, refs := s.refs ++ [none] } :=
        fun rest => sound_of_grows sound rfl (Nat.le_of_eq (same rest))
      rcases readWith_cases done with ⟨numbered, rest, rfl | rfl⟩ | ⟨rest, kind, read⟩ | ⟨rest, kind, inner, read, rfl⟩
      · exact ⟨sound, Nat.le_refl _, within_of_numbered numbered⟩
      · exact ⟨reserved rest, Nat.le_of_eq (same rest), (within_of_numbered numbered).mono (Nat.le_of_eq (same rest))⟩
      · exact (contents { s with rest } sound read).of_size_le (Nat.le_refl _)
      · have kept := contents _ (reserved rest) read
        obtain ⟨used, _, uses⟩ := frugal_readContents (frugal_readObject version room) version kind _ v inner read
        have grows := size_le_finish uses.refs v
        have whole := Nat.le_trans (Nat.le_of_eq (same rest)) kept.grows
        exact ⟨sound_of_grows kept.sound rfl grows, Nat.le_trans whole grows, kept.result.mono grows⟩

end ObjectStream

namespace Artifact

/-- The objects of an artifact that have numbers. -/
def numbered (data : List UInt8) : List Value :=
  match streamEnd? data with
  | none => []
  | some final => ObjectStream.finished final.refs

theorem constant_depth_le {data : List UInt8} {m : CompiledModule} (done : Artifact.read data = .ok m) :
    ∀ u ∈ m.units, ∀ v ∈ u.consts,
      v.depth ≤ ObjectStream.maxDepth - 2 + (Value.depthOfItems (numbered data) - 1) := by
  obtain ⟨_, version, root, final, known, read, rfl⟩ := exists_of_read done
  have start : ObjectStream.depthStore.Sound { rest := data.drop headerLength } := List.forall_mem_nil _
  have kept := ObjectStream.keeps_depth_readObject version _ (Nat.le_refl _) 0 _ _ final start (Nat.zero_le _) read
  rw [numbered, streamEnd?_of_readObject known read]
  exact kept.sound

end Artifact

/-! ### Listings -/

theorem Literal.depth_le_of_isScalar {v : Value} (scalar : v.isScalar = true) (opened : Nat) : v.depth ≤ opened + 1 := by
  rw [Value.depth_of_isScalar scalar]
  exact Nat.succ_le_succ (Nat.zero_le _)

/-- A literal nests within the brackets of its text. -/
theorem Literal.depthRules : Literal.Rules fun opened v => v.depth ≤ opened + 1 where
  mono deep grows := Nat.le_trans deep (Nat.succ_le_succ grows)
  constant constant := depth_le_of_isScalar (isScalar_of_isConstant constant) _
  int _ := depth_le_of_isScalar rfl _
  negate _ negates := depth_le_of_isScalar (isScalar_of_negate negates) _
  row row each := by
    rw [Value.depth_of_items? row]
    exact Nat.succ_le_succ (Value.depthOfItems_le_iff.mpr each)
  dict := Value.depth_dict_insertAll_le
  items row deep := by
    rw [Value.depth_of_items? row] at deep
    exact Value.depthOfItems_le_iff.mp (Nat.le_of_succ_le deep)

namespace Listing

open UnitStore (Any)

/-- What a line gives by itself: a literal, a unit, or a container with nothing in it. -/
inductive Line.Gives (line : Line) : Value → Prop where
  | value : line.Gives (valueOfLine line.text)
  | code (position : Nat) (title : line.text = "[Code]") : line.Gives (.code position)
  | container {make : List Value → Value} {closing : String} (opens : container? line.text = some (make, closing)) :
      line.Gives (make [])

/-- Among some lines, lines that stand one in another: each further in than the one before, and all but the innermost one
    with the bracket of a container alone on it. -/
structure Stacked (lines outer : List Line) (line : Line) : Prop where
  among : (outer ++ [line]).Sublist lines
  inward : (outer ++ [line]).Pairwise fun before after => before.indent < after.indent
  opening : ∀ other ∈ outer, (container? other.text).isSome = true

theorem depth_valueOfLine_le (text : String) : (valueOfLine text).depth ≤ Literal.openings text.toList + 1 := by
  unfold valueOfLine
  split
  case h_1 read => exact Literal.part_of_readWhole Literal.depthRules read
  case h_2 => exact Literal.depth_le_of_isScalar rfl _

theorem depth_container_nil {text closing : String} {make : List Value → Value}
    (opens : container? text = some (make, closing)) : (make []).depth = 1 :=
  Value.depth_of_items? (items?_of_container? opens [])

/-- What a line gives nests within the brackets of the line. -/
theorem Line.Gives.depth_le {line : Line} {v : Value} (gives : line.Gives v) :
    v.depth ≤ Literal.openings line.text.toList + 1 := by
  cases gives with
  | value => exact depth_valueOfLine_le line.text
  | code position title => exact Nat.le_add_left 1 _
  | container opens =>
      rw [depth_container_nil opens]
      exact Nat.le_add_left 1 _

theorem Stacked.single {lines : List Line} {line : Line} (member : line ∈ lines) : Stacked lines [] line where
  among := List.singleton_sublist.mpr member
  inward := List.pairwise_singleton _ line
  opening := List.forall_mem_nil _

theorem Stacked.sublist {lines more outer : List Line} {line : Line} (stacked : Stacked lines outer line)
    (among : lines.Sublist more) : Stacked more outer line :=
  { stacked with among := stacked.among.trans among }

/-- A line that opens a container in front of lines that stand further in. -/
theorem Stacked.cons {lines outer : List Line} {first line : Line} (stacked : Stacked lines outer line)
    (opens : (container? first.text).isSome = true) (inward : ∀ other ∈ outer ++ [line], first.indent < other.indent) :
    Stacked (first :: lines) (first :: outer) line where
  among := stacked.among.cons_cons first
  inward := List.pairwise_cons.mpr ⟨inward, stacked.inward⟩
  opening := List.forall_mem_cons.mpr ⟨opens, stacked.opening⟩

/-- The levels of a value are lines that stand one in another, all further in than a margin, and the levels that the
    innermost one gives. -/
def Levels (margin : Nat) (lines : List Line) (v : Value) : Prop :=
  ∃ outer line inner, Stacked lines outer line ∧ (∀ other ∈ outer ++ [line], margin < other.indent) ∧
    line.Gives inner ∧ v.depth = outer.length + inner.depth

namespace Levels

variable {margin : Nat} {lines : List Line} {v : Value}

theorem sublist {more : List Line} (levels : Levels margin lines v) (among : lines.Sublist more) :
    Levels margin more v := by
  obtain ⟨outer, line, inner, stacked, rest⟩ := levels
  exact ⟨outer, line, inner, stacked.sublist among, rest⟩

theorem of_gives {line : Line} (member : line ∈ lines) (inward : margin < line.indent) (gives : line.Gives v) :
    Levels margin lines v :=
  ⟨[], line, v, .single member, List.forall_mem_singleton.mpr inward, gives, (Nat.zero_add _).symm⟩

/-- A container has one level more than the deepest of its entries. -/
theorem container {line : Line} {make : List Value → Value} {closing : String} {items : List Value}
    (inward : margin < line.indent) (opens : container? line.text = some (make, closing))
    (each : ∀ item ∈ items, Levels line.indent lines item) : Levels margin (line :: lines) (make items) := by
  have depth := Value.depth_of_items? (items?_of_container? opens items)
  cases items with
  | nil => exact of_gives List.mem_cons_self inward (.container opens)
  | cons item items =>
      obtain ⟨deepest, member, same⟩ := Value.exists_depth_eq_depthOfItems item items
      obtain ⟨outer, inmost, inner, stacked, further, gives, levels⟩ := each deepest member
      refine ⟨line :: outer, inmost, inner, stacked.cons (by rw [opens]; rfl) further, ?_, gives, ?_⟩
      · exact List.forall_mem_cons.mpr ⟨inward, fun other member => Nat.lt_trans inward (further other member)⟩
      · rw [depth, ← same, levels, List.length_cons]
        exact Nat.add_right_comm ..

end Levels

/-- The lines that have been read, out of all of them. -/
def depthStore (lines : List Line) : UnitStore ReaderState where
  size s := lines.length - s.rest.length
  Sound s := s.rest <:+ lines ∧ ∀ u ∈ s.units, ∀ v ∈ u.consts, ∃ margin, Levels margin lines v

/-- The levels of a value are lines that have not been read before it. -/
theorem depthRules (lines : List Line) :
    Rules (depthStore lines) (fun line start inner => lines.drop start = line :: lines.drop inner)
      (fun margin start _ v => Levels margin (lines.drop start) v)
      (fun _ values => ∀ v ∈ values, ∃ margin, Levels margin lines v) Any where
  rest {s rest} sound suffix :=
    ⟨⟨suffix.trans sound.1, sound.2⟩, Nat.sub_le_sub_left suffix.length_le _, trivial⟩
  enter {s line rest} sound starts := by
    have behind : rest <:+ s.rest := by
      rewrite [starts]
      exact List.suffix_cons line rest
    have here := List.suffix_iff_eq_drop.mp sound.1
    have later := List.suffix_iff_eq_drop.mp (behind.trans sound.1)
    simp only [depthStore]
    rw [← here, ← later, starts]
  line {line indent start bound} entered inward := by
    rw [entered]
    exact .of_gives List.mem_cons_self inward .value
  part_mono levels lower _ := levels.sublist (List.drop_sublist_drop_left _ lower)
  row {line indent start inner bound make closing items} entered inward opens each := by
    rw [entered]
    exact .container inward opens each
  code {line indent start inner bound position} entered inward title _ := by
    rw [entered]
    exact .of_gives List.mem_cons_self inward (.code position title)
  consts_of each v member := ⟨_, (each v member).sublist (List.drop_sublist _ _)⟩
  consts_mono each _ := each
  add {least u} known _ slice := by
    intro s position t sound _ done
    cases done
    refine ⟨⟨sound.1, ?_⟩, Nat.le_refl _, trivial⟩
    intro other member
    rcases List.mem_append.mp member with old | new
    · exact sound.2 other old
    · cases List.mem_singleton.mp new
      exact known

theorem levels_of_read {listing : String} {loaded : Loaded} (done : Listing.read listing = .ok loaded) :
    ∀ u ∈ loaded.module.units, ∀ v ∈ u.consts, ∃ margin, Levels margin (linesOf listing) v := by
  obtain ⟨version, fuel, body, root, final, suffix, read, rfl⟩ := exists_of_read done
  have start : (depthStore body).Sound { rest := body } := ⟨List.suffix_refl body, List.forall_mem_nil _⟩
  have kept := (keepsUnits (depthRules body) version fuel).unit _ 0 _ root final start (Nat.zero_le _) read
  intro u unit v member
  obtain ⟨margin, levels⟩ := kept.sound.2 u unit v member
  exact ⟨margin, levels.sublist suffix.sublist⟩

end Listing

/-! ### Modules -/

/-- A constant of an artifact nests within the room that is left for constants and the deepest object that it may refer
    to by a number. A constant of a listing has as many levels as the lines of containers that stand around its innermost
    line, and those that this line gives, which has a bracket for each of them but one. So no constant is deeper than
    objects may nest when no numbered object has more than three levels, and when the lines of a listing stand one in
    another less often than that, the brackets of the innermost one included. -/
theorem constants_depth_le (data : List UInt8) (listing : String) :
    (∀ m, Artifact.read data = .ok m → ∀ u ∈ m.units, ∀ v ∈ u.consts,
      v.depth ≤ ObjectStream.maxDepth - 2 + (Value.depthOfItems (Artifact.numbered data) - 1) ∧
        (Value.depthOfItems (Artifact.numbered data) ≤ 3 → v.depth ≤ ObjectStream.maxDepth)) ∧
    (∀ loaded, Listing.read listing = .ok loaded → ∀ u ∈ loaded.module.units, ∀ v ∈ u.consts,
      (∃ outer line inner, Listing.Stacked (Listing.linesOf listing) outer line ∧ line.Gives inner ∧
        v.depth = outer.length + inner.depth ∧ inner.depth ≤ Literal.openings line.text.toList + 1) ∧
      ((∀ outer line, Listing.Stacked (Listing.linesOf listing) outer line →
        outer.length + Literal.openings line.text.toList < ObjectStream.maxDepth) → v.depth ≤ ObjectStream.maxDepth)) := by
  refine ⟨fun m read u unit v member => ?_, fun loaded read u unit v member => ?_⟩
  · have deep := Artifact.constant_depth_le read u unit v member
    refine ⟨deep, fun shallow => ?_⟩
    unfold ObjectStream.maxDepth at *
    omega
  · obtain ⟨_, outer, line, inner, stacked, _, gives, levels⟩ := Listing.levels_of_read read u unit v member
    have brackets := gives.depth_le
    refine ⟨⟨outer, line, inner, stacked, gives, levels, brackets⟩, fun few => ?_⟩
    have fewer := few outer line stacked
    omega

/-- An artifact with two constants: a numbered value with four levels, and some tuples around its number. -/
def graftedArtifact (tuples : Nat) : List UInt8 :=
  [85, 13, 13, 10] ++ List.replicate 12 0 ++
    bareUnit 99 ([41, 2] ++ [169, 1, 41, 1, 41, 1, 78] ++ (List.replicate tuples [41, 1]).flatten ++ [114, 0, 0, 0, 0])
      109

/-- How deep the constants of a module nest, unit by unit. -/
def CompiledModule.constantDepths (m : CompiledModule) : List (List Nat) :=
  m.units.map fun u => u.consts.map Value.depth

theorem CompiledModule.exists_constant {m : CompiledModule} {depths : List (List Nat)} {row : List Nat} {depth : Nat}
    (known : m.constantDepths = depths) (inRow : row ∈ depths) (inDepths : depth ∈ row) :
    ∃ u ∈ m.units, ∃ v ∈ u.consts, v.depth = depth := by
  rw [← known] at inRow
  obtain ⟨u, unit, rfl⟩ := List.mem_map.mp inRow
  obtain ⟨v, member, deep⟩ := List.mem_map.mp inDepths
  exact ⟨u, unit, v, member, deep⟩

/-- Three tuples around a value with four levels, which has a number; and a listing of units, one of them inside a tuple,
    on ten lines with one bracket each at most. -/
theorem constants_depth_le_grafted :
    (∃ m, Artifact.read (graftedArtifact 3) = .ok m ∧ m.constantDepths = [[4, 7]] ∧
      Value.depthOfItems (Artifact.numbered (graftedArtifact 3)) = 4 ∧
      ∀ u ∈ m.units, ∀ v ∈ u.consts, v.depth ≤ ObjectStream.maxDepth + 1) ∧
    (∃ loaded, Listing.read nestedListing = .ok loaded ∧ loaded.module.constantDepths = [[], [], [2, 1]] ∧
      ∀ u ∈ loaded.module.units, ∀ v ∈ u.consts, v.depth ≤ ObjectStream.maxDepth) := by
  have artifact : (Artifact.read (graftedArtifact 3)).toOption.map CompiledModule.constantDepths = some [[4, 7]] := by
    decide +kernel
  have numbered : Value.depthOfItems (Artifact.numbered (graftedArtifact 3)) = 4 := by decide +kernel
  have listing : (Listing.read nestedListing).toOption.map (fun l => l.module.constantDepths) =
      some [[], [], [2, 1]] := by decide +kernel
  have lines : (Listing.linesOf nestedListing).length = 10 := by decide +kernel
  have brackets : ∀ line ∈ Listing.linesOf nestedListing, Literal.openings line.text.toList ≤ 1 := by decide +kernel
  obtain ⟨m, read, depths⟩ := exists_of_toOption artifact
  obtain ⟨loaded, listed, listedDepths⟩ := exists_of_toOption listing
  obtain ⟨deep, listedDeep⟩ := constants_depth_le (graftedArtifact 3) nestedListing
  rw [numbered] at deep
  refine ⟨⟨m, read, depths, numbered, fun u unit v member => (deep m read u unit v member).1⟩,
    ⟨loaded, listed, listedDepths, fun u unit v member => (listedDeep loaded listed u unit v member).2 ?_⟩⟩
  intro outer line stacked
  have few := stacked.among.length_le
  have one := brackets line (stacked.among.subset (List.mem_append_right outer (List.mem_singleton_self line)))
  rw [lines, List.length_append, List.length_singleton] at few
  unfold ObjectStream.maxDepth
  omega

/-! #### Constants deeper than the room -/

/-- A value inside a number of tuples. -/
def Value.tower : Nat → Value
  | 0 => .none
  | levels + 1 => .tuple [tower levels]

theorem Value.depth_tower (levels : Nat) : (tower levels).depth = levels + 1 := by
  induction levels with
  | zero => rfl
  | succ levels ih => simp [tower, Value.depth, depthOfItems, ih]

theorem Value.restorable_tower (levels : Nat) : (tower levels).Restorable := by
  induction levels with
  | zero => simp [tower, Restorable]
  | succ levels ih => simp [tower, Restorable, AllRestorable, ih]

namespace Listing

/-- A listing whose one unit has one constant. -/
def ofConstant (v : Value) : String :=
  Text.join (("(Python 3.11)" :: "[Code]" :: moveIn 4 (sectionLines "Constants" [v.literal])) ++ [""])

theorem linesOf_ofConstant {v : Value} (restorable : v.Restorable) :
    linesOf (ofConstant v) =
      [row 0 "(Python 3.11)", row 0 "[Code]", row 4 ("[" ++ "Constants" ++ "]"), row 8 v.literal] := by
  have legible : ∀ line ∈ "(Python 3.11)" :: "[Code]" :: moveIn 4 (sectionLines "Constants" [v.literal]),
      Legible line := by
    refine List.forall_mem_cons.mpr ⟨⟨by decide, '3', by decide, by decide⟩, List.forall_mem_cons.mpr
      ⟨(row_code 0).1.legible (by decide), legible_moveIn (legible_sectionLines (by decide) ?_)⟩⟩
    exact List.forall_mem_singleton.mpr (legible_literal restorable)
  rw [ofConstant, linesOf_join legible, List.map_cons, List.map_cons, map_row_moveIn, map_row_sectionLines]
  rfl

theorem readUnit_ofConstant {v : Value} (restorable : v.Restorable) :
    ∃ u slices, readUnit ⟨3, 11⟩ 16 maxDepth
        ⟨[row 0 "[Code]", row 4 ("[" ++ "Constants" ++ "]"), row 8 v.literal], [], []⟩ =
      .ok (0, ⟨[], [u], slices⟩) ∧ u.consts = [v] := by
  have lineText : (row 8 v.literal).text = Text.trim v.literal := row_text 8 v.literal
  have other := literal_not_opening restorable
  have value : readConst ⟨3, 11⟩ 13 199 (row 8 v.literal) ⟨[], [], []⟩ ⟨[row 8 v.literal], [], []⟩ =
      .ok (v, ⟨[], [], []⟩) := by
    have notUnit : Text.trim v.literal ≠ "[Code]" := fun same => other (by simp [same])
    rw [readConst_line (by rwa [lineText]) (by rw [lineText]; exact container?_eq_none other), lineText,
      valueOfLine_literal restorable]
  have values : readConsts ⟨3, 11⟩ 14 199 4 ⟨[row 8 v.literal], [], []⟩ = .ok ([v], ⟨[], [], []⟩) :=
    readConsts_cons (nextInside?_cons (inside_row 4 (solid_literal restorable)) [] [] []) value (readConsts_end rfl)
  have title := solid_sectionTitle "Constants"
  have fields : readFields ⟨3, 11⟩ 15 199 0 ⟨.empty "" ⟨3, 11⟩, none⟩
      ⟨[row 4 ("[" ++ "Constants" ++ "]"), row 8 v.literal], [], []⟩ =
      .ok (⟨{ CodeUnit.empty "" ⟨3, 11⟩ with consts := [v] }, none⟩, ⟨[], [], []⟩) :=
    (readFields_constants (nextInside?_cons (inside_row 0 title) [row 8 v.literal] [] [])
      (by rw [row_text]; exact sectionTitle?_table _ (by simp))
      (by rw [row_indent 4 title]; exact values)).trans (readFields_end rfl)
  have unit : ∃ slices, readUnit ⟨3, 11⟩ 16 maxDepth
      ⟨[row 0 "[Code]", row 4 ("[" ++ "Constants" ++ "]"), row 8 v.literal], [], []⟩ =
      .ok (0, ⟨[], [Draft.finish ⟨{ CodeUnit.empty "" ⟨3, 11⟩ with consts := [v] }, none⟩], slices⟩) :=
    readUnit_cons (by rw [row_indent 0 (row_code 0).1]; exact fields)
  obtain ⟨slices, unit⟩ := unit
  exact ⟨_, slices, unit, rfl⟩

/-- Whatever literal stands among the constants of a listing is the constant of a unit. -/
theorem read_ofConstant {v : Value} (restorable : v.Restorable) :
    ∃ loaded, Listing.read (ofConstant v) = .ok loaded ∧ ∃ u ∈ loaded.module.units, u.consts = [v] := by
  obtain ⟨u, slices, unit, consts⟩ := readUnit_ofConstant restorable
  have banner : (row 0 "(Python 3.11)").text = "(Python 3.11)" := by
    rw [row_text]
    decide +kernel
  have version : versionIn? "(Python 3.11)".toList = some ⟨3, 11⟩ := by decide +kernel
  have module : readModule ⟨3, 11⟩ 1 [row 0 "[Code]", row 4 ("[" ++ "Constants" ++ "]"), row 8 v.literal] =
      .ok ⟨⟨⟨3, 11⟩, [u], 0⟩, slices⟩ := by
    rw [readModule, StateT.run]
    simp only [List.length_cons, List.length_nil]
    rw [unit]
  have opens := (row_code 0).2
  have all := linesOf_ofConstant restorable
  have notBlock : (row 0 "(Python 3.11)").text ≠ "[Code]" := by
    rw [banner]
    decide
  rw [← banner] at version
  refine ⟨⟨⟨⟨3, 11⟩, [u], 0⟩, slices⟩, ?_, u, List.mem_singleton_self u, consts⟩
  generalize row 0 "(Python 3.11)" = first at all version notBlock
  generalize row 0 "[Code]" = second at all opens module
  have known : isKnownVersion ⟨3, 11⟩ = true := rfl
  simpa [Listing.read, all, opens, notBlock, bannerVersion?_singleton, version, known] using module

end Listing

/-- Where the room ends, a number may still stand for a value with four levels, so a constant is deeper than objects may
    nest. In a listing constants of any depth are read. -/
theorem constants_deeper_than_room :
    (∃ m, Artifact.read (graftedArtifact 197) = .ok m ∧
      ∃ u ∈ m.units, ∃ v ∈ u.consts, v.depth = ObjectStream.maxDepth + 1) ∧
    (∀ depth, ∃ listing loaded, Listing.read listing = .ok loaded ∧
      ∃ u ∈ loaded.module.units, ∃ v ∈ u.consts, depth < v.depth) := by
  refine ⟨?_, fun depth => ?_⟩
  · have artifact : (Artifact.read (graftedArtifact 197)).toOption.map CompiledModule.constantDepths =
        some [[4, 201]] := by decide +kernel
    obtain ⟨m, read, depths⟩ := exists_of_toOption artifact
    exact ⟨m, read, CompiledModule.exists_constant depths (List.mem_singleton_self _) (by simp [ObjectStream.maxDepth])⟩
  · obtain ⟨loaded, read, u, unit, consts⟩ := Listing.read_ofConstant (Value.restorable_tower depth)
    refine ⟨_, loaded, read, u, unit, _, by rw [consts]; exact List.mem_singleton_self _, ?_⟩
    rw [Value.depth_tower]
    exact Nat.lt_succ_self depth

end SourceRecovery
