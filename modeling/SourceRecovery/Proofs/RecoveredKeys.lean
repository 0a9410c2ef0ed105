/-
Module: SourceRecovery.Proofs.RecoveredKeys
Layer: Proofs
Purpose: The dictionaries in recovered values. Dictionaries come from object streams, from the literals of a listing and
  from the replay of instructions, and numbered objects and stack slots carry them on. Each of the three builds them by
  insertion and keeps what it carries, so in every value that is recovered from an opened module no two keys of a
  dictionary compare as equal, at any depth.
Imports: SourceRecovery.Index.Basic, SourceRecovery.Proofs.LiteralStability, SourceRecovery.Proofs.ModuleNesting,
  SourceRecovery.Proofs.RecoveredStores, SourceRecovery.Proofs.ReplayFrame
Trusted boundary: none
Main exports: Value.KeysApart, ObjectStream.keyRules, Listing.keyRules, Replay.keysApart_step, Replay.keysApart_run,
  Index.Opened, Index.recovered_literal
Open obligations: none
-/
import SourceRecovery.Index.Basic
import SourceRecovery.Proofs.LiteralStability
import SourceRecovery.Proofs.ModuleNesting
import SourceRecovery.Proofs.RecoveredStores
import SourceRecovery.Proofs.ReplayFrame

namespace SourceRecovery

/-! ### Values -/

namespace Value

/-- No two keys compare as equal when the value is a dictionary; its parts aside. -/
def KeysDiffer : Value → Prop
  | .dict pairs => DistinctKeys pairs
  | _ => True

/-- No two keys of a dictionary compare as equal, at any depth. -/
def KeysApart (v : Value) : Prop :=
  v.Everywhere KeysDiffer

/-- A row of values whose keys are apart. -/
def AllApart (items : List Value) : Prop :=
  ∀ item ∈ items, item.KeysApart

/-- A row of pairs whose keys and values have their own keys apart. -/
def PairsApart (pairs : List (Value × Value)) : Prop :=
  ∀ entry ∈ pairs, entry.1.KeysApart ∧ entry.2.KeysApart

variable {v : Value}

theorem keysDiffer_of_sound (sound : v.Sound) : v.KeysDiffer := by
  cases v with
  | dict => exact sound
  | _ => trivial

/-- A literal is sound when it is not the least integer and its keys differ. -/
theorem sound_of_isLiteral (literal : v.isLiteral = true) (notLeast : v ≠ .int Int64.minValue) (differ : v.KeysDiffer) :
    v.Sound := by
  cases v with
  | int n => exact fun least => notLeast (congrArg Value.int least)
  | dict => exact differ
  | code => simp [isLiteral] at literal
  | _ => trivial

theorem keysApart_scalar (scalar : v.isScalar = true) : v.KeysApart := by
  refine everywhere_scalar scalar ?_
  cases v with
  | dict => cases scalar
  | _ => trivial

theorem keysApart_code (unit : Nat) : (Value.code unit).KeysApart :=
  everywhere_code trivial

theorem keysApart_of_items? {items : List Value} (row : v.items? = some items) (each : AllApart items) :
    v.KeysApart := by
  refine everywhere_of_items? row ?_ each
  cases v with
  | dict => cases row
  | _ => trivial

/-- Insertion keeps the keys of a dictionary apart. -/
theorem KeysApart.insertAll {pairs added : List (Value × Value)} (apart : (Value.dict pairs).KeysApart)
    (new : PairsApart added) : (Value.dict (insertAll pairs added)).KeysApart :=
  everywhere_dict (distinctKeys_insertAll apart.here added) (forall_mem_insertAll KeysApart new apart.pairs)

theorem keysApart_insertAll_nil {added : List (Value × Value)} (new : PairsApart added) :
    (Value.dict (insertAll [] added)).KeysApart :=
  KeysApart.insertAll (everywhere_dict List.Pairwise.nil (List.forall_mem_nil _)) new

end Value

open Value (AllApart PairsApart)
open UnitStore (Any)

/-- The constants of all units have their keys apart. -/
def UnitsApart (units : List CodeUnit) : Prop :=
  ∀ u ∈ units, AllApart u.consts

theorem UnitsApart.concat {units : List CodeUnit} (apart : UnitsApart units) {u : CodeUnit} (new : AllApart u.consts) :
    UnitsApart (units ++ [u]) := by
  intro other member
  rcases List.mem_append.mp member with old | isNew
  · exact apart other old
  · rw [List.mem_singleton.mp isNew]
    exact new

/-! ### Object streams -/

namespace ObjectStream

/-- Between two reads the keys in numbered objects and in the constants of units are apart. -/
structure KeysSound (s : StreamState) : Prop where
  refs : ∀ v, some v ∈ s.refs → v.KeysApart
  units : UnitsApart s.units

/-- The dictionaries of a stream, wherever they are kept. -/
def keyStore : UnitStore StreamState where
  size _ := 0
  Sound := KeysSound

theorem keyRules :
    Rules keyStore (fun _ => Value.KeysApart) (fun _ => Value.KeysApart) (fun _ => AllApart) Any where
  sound sound _ := ⟨sound.refs, sound.units⟩
  size _ _ := rfl
  part_mono apart _ := apart
  scalar := Value.keysApart_scalar
  row := Value.keysApart_of_items?
  dict := Value.keysApart_insertAll_nil
  code _ := Value.keysApart_code _
  tuple apart := apart.items? rfl
  consts_mono apart _ := apart
  add new _ := by
    intro s position t sound _ done
    cases done
    exact ⟨⟨sound.refs, sound.units.concat new⟩, Nat.le_refl _, trivial⟩

variable {s : StreamState} {v : Value}

theorem KeysSound.reserved (sound : KeysSound s) (rest : List UInt8) :
    KeysSound { s with rest, refs := s.refs ++ [none] } :=
  ⟨fun v member => sound.refs v (some_mem_reserved.mp member), sound.units⟩

theorem KeysSound.finished (sound : KeysSound s) (apart : v.KeysApart) (number : Nat) :
    KeysSound { s with refs := s.refs.set number (some v) } where
  refs other member := by
    rcases List.mem_or_eq_of_mem_set member with known | same
    · exact sound.refs other known
    · cases same
      exact apart
  units := sound.units

/-- Every object that is read has its keys apart, also one that stands for an object with a number. -/
theorem keeps_keys_readObject (version : Version) (room : Nat) :
    ∀ least, keyStore.Keeps least (fun _ => Value.KeysApart) (readObject version room) := by
  induction room with
  | zero => exact fun _ => keeps_fault _
  | succ room ih =>
      intro least s v t sound enough done
      have contents : ∀ {kind : Char} {inner : StreamState} (start : StreamState), KeysSound start →
          readContents (readObject version room) version kind start = .ok (v, inner) →
          keyStore.Kept (fun _ => Value.KeysApart) start v inner :=
        fun start soundStart read => keeps_readContents keyRules ih version _ start _ _ soundStart (Nat.le_refl _) read
      rcases readWith_cases done with ⟨numbered, rest, rfl | rfl⟩ | ⟨rest, kind, read⟩ | ⟨rest, kind, inner, read, rfl⟩
      · exact ⟨⟨sound.refs, sound.units⟩, Nat.le_refl _, sound.refs v numbered⟩
      · exact ⟨sound.reserved rest, Nat.le_refl _, sound.refs v numbered⟩
      · exact (contents { s with rest } ⟨sound.refs, sound.units⟩ read).of_size_le (Nat.le_refl _)
      · have kept := contents _ (sound.reserved rest) read
        exact ⟨kept.sound.finished kept.result _, kept.grows, kept.result⟩

end ObjectStream

theorem Artifact.unitsApart {data : List UInt8} {m : CompiledModule} (done : Artifact.read data = .ok m) :
    UnitsApart m.units := by
  obtain ⟨_, version, root, final, _, read, rfl⟩ := exists_of_read done
  have start : ObjectStream.KeysSound { rest := data.drop headerLength } :=
    ⟨fun _ member => absurd member List.not_mem_nil, List.forall_mem_nil _⟩
  have kept := ObjectStream.keeps_keys_readObject version _ 0 _ _ final start (Nat.le_refl _) read
  exact kept.sound.units

/-! ### Listings -/

namespace Listing

theorem keysApart_valueOfLine (text : String) : (valueOfLine text).KeysApart := by
  unfold valueOfLine
  split
  case h_1 read => exact (Literal.everywhere_sound_of_readWhole read).imp fun _ => Value.keysDiffer_of_sound
  case h_2 => exact Value.keysApart_scalar rfl

/-- The dictionaries in the units of a listing. -/
def keyStore : UnitStore ReaderState where
  size _ := 0
  Sound s := UnitsApart s.units

theorem keyRules :
    Rules keyStore (fun _ _ _ => True) (fun _ _ _ => Value.KeysApart) (fun _ => AllApart) Any where
  rest sound _ := ⟨sound, Nat.le_refl _, trivial⟩
  enter _ _ := trivial
  line _ _ := keysApart_valueOfLine _
  part_mono apart _ _ := apart
  row _ _ opens each := Value.keysApart_of_items? (items?_of_container? opens _) each
  code _ _ _ _ := Value.keysApart_code _
  consts_of apart := apart
  consts_mono apart _ := apart
  add new _ slice := by
    intro s position t sound _ done
    cases done
    exact ⟨UnitsApart.concat sound new, Nat.le_refl _, trivial⟩

theorem unitsApart {listing : String} {loaded : Loaded} (done : Listing.read listing = .ok loaded) :
    UnitsApart loaded.module.units := by
  obtain ⟨version, fuel, body, root, final, _, read, rfl⟩ := exists_of_read done
  have start : keyStore.Sound { rest := body } := List.forall_mem_nil _
  exact ((keepsUnits keyRules version fuel).unit _ 0 _ root final start (Nat.le_refl _) read).sound

end Listing

/-! ### Replay -/

namespace Replay

variable {stack after : Stack}

/-! #### What single instructions do -/

theorem allApart_of_pop? {count : Nat} {items : List Value} (popped : pop? count stack = some (items, after))
    (apart : AllApart stack) : AllApart items ∧ AllApart after := by
  unfold pop? at popped
  split at popped
  case isTrue =>
      cases popped
      refine ⟨fun v member => apart v ?_, fun v member => apart v (List.mem_of_mem_drop member)⟩
      exact List.mem_of_mem_take (List.mem_reverse.mp member)
  case isFalse =>
      cases popped

/-- A change of one slot keeps the stack when it keeps the value in the slot. -/
theorem allApart_of_change? {slot : Nat} {f : Value → Option Value} (changed : change? slot f stack = some after)
    (keeps : ∀ v w : Value, f v = some w → v.KeysApart → w.KeysApart) (apart : AllApart stack) : AllApart after := by
  induction stack generalizing slot after with
  | nil =>
      simp [change?] at changed
  | cons top below ih =>
      obtain ⟨apartTop, apartBelow⟩ := List.forall_mem_cons.mp apart
      unfold change? at changed
      split at changed
      · cases changed
      · obtain ⟨value, isValue, rfl⟩ := Option.map_eq_some_iff.mp changed
        exact List.forall_mem_cons.mpr ⟨keeps top value isValue apartTop, apartBelow⟩
      · obtain ⟨deeper, isDeeper, rfl⟩ := Option.map_eq_some_iff.mp changed
        exact List.forall_mem_cons.mpr ⟨apartTop, ih isDeeper apartBelow⟩

theorem allApart_foldl_addToSet {items added : List Value} (known : AllApart items) (new : AllApart added) :
    AllApart (added.foldl addToSet items) := by
  induction added generalizing items with
  | nil =>
      exact known
  | cons value added ih =>
      obtain ⟨first, later⟩ := List.forall_mem_cons.mp new
      refine ih ?_ later
      unfold addToSet
      split
      · exact known
      · exact List.forall_mem_append.mpr ⟨known, List.forall_mem_singleton.mpr first⟩

theorem pairsApart_pairUp : ∀ {items : List Value}, AllApart items → PairsApart (pairUp items)
  | [], _ | [_], _ => List.forall_mem_nil _
  | _ :: _ :: _, apart => by
      obtain ⟨key, apart⟩ := List.forall_mem_cons.mp apart
      obtain ⟨value, rest⟩ := List.forall_mem_cons.mp apart
      exact List.forall_mem_cons.mpr ⟨⟨key, value⟩, pairsApart_pairUp rest⟩

theorem pairsApart_zip {keys values : List Value} (apartKeys : AllApart keys) (apartValues : AllApart values) :
    PairsApart (keys.zip values) := by
  rintro ⟨key, value⟩ member
  obtain ⟨isKey, isValue⟩ := List.of_mem_zip member
  exact ⟨apartKeys key isKey, apartValues value isValue⟩

theorem keysApart_of_extendList {added : List Value} (new : AllApart added) (v w : Value)
    (extended : extendList added v = some w) (apart : v.KeysApart) : w.KeysApart := by
  cases v with
  | list items =>
      cases extended
      exact Value.keysApart_of_items? rfl (List.forall_mem_append.mpr ⟨apart.items? rfl, new⟩)
  | _ => cases extended

theorem keysApart_of_extendSet {added : List Value} (new : AllApart added) (v w : Value)
    (extended : extendSet added v = some w) (apart : v.KeysApart) : w.KeysApart := by
  cases v with
  | set items =>
      cases extended
      exact Value.keysApart_of_items? rfl (allApart_foldl_addToSet (apart.items? rfl) new)
  | _ => cases extended

theorem keysApart_of_extendDict {added : List (Value × Value)} (new : PairsApart added) (v w : Value)
    (extended : extendDict added v = some w) (apart : v.KeysApart) : w.KeysApart := by
  cases v with
  | dict pairs =>
      cases extended
      exact Value.KeysApart.insertAll apart new
  | _ => cases extended

/-- An instruction that builds a container from the topmost values. -/
theorem allApart_of_build {count : Nat} (build : List Value → Value)
    (built : (pop? count stack).map (fun popped => build popped.1 :: popped.2) = some after)
    (keeps : ∀ items, AllApart items → (build items).KeysApart) (apart : AllApart stack) : AllApart after := by
  obtain ⟨⟨items, below⟩, popped, rfl⟩ := Option.map_eq_some_iff.mp built
  obtain ⟨apartItems, apartBelow⟩ := allApart_of_pop? popped apart
  exact List.forall_mem_cons.mpr ⟨keeps items apartItems, apartBelow⟩

/-- An instruction that adds the items of the topmost value to a container. -/
theorem allApart_of_extend {slot : Nat} {top : Value} {extend : List Value → Value → Option Value}
    (extended : (top.items?.bind fun items => change? slot (extend items) stack) = some after)
    (keeps : ∀ {items}, AllApart items → ∀ v w : Value, extend items v = some w → v.KeysApart → w.KeysApart)
    (apart : AllApart (top :: stack)) : AllApart after := by
  obtain ⟨items, row, changed⟩ := Option.bind_eq_some_iff.mp extended
  obtain ⟨apartTop, apartBelow⟩ := List.forall_mem_cons.mp apart
  exact allApart_of_change? changed (keeps (apartTop.items? row)) apartBelow

theorem allApart_of_buildKeyed? {count : Nat} (built : buildKeyed? count stack = some after) (apart : AllApart stack) :
    AllApart after := by
  cases stack with
  | nil =>
      cases built
  | cons top below =>
      obtain ⟨apartTop, apartBelow⟩ := List.forall_mem_cons.mp apart
      obtain ⟨keys, row, built⟩ := Option.bind_eq_some_iff.mp built
      split at built
      case isTrue =>
          obtain ⟨⟨values, deeper⟩, popped, isAfter⟩ := Option.bind_eq_some_iff.mp built
          cases isAfter
          obtain ⟨apartValues, apartDeeper⟩ := allApart_of_pop? popped apartBelow
          have pairs := pairsApart_zip (apartTop.items? row) apartValues
          exact List.forall_mem_cons.mpr ⟨Value.keysApart_insertAll_nil pairs, apartDeeper⟩
      case isFalse =>
          cases built

/-! #### Steps and runs -/

variable {u : CodeUnit} (consts : AllApart u.consts)

include consts

/-- Every instruction with a result keeps the keys on the stack apart. -/
theorem keysApart_step {ins : Instruction} (stepped : step u stack ins = some after) (apart : AllApart stack) :
    AllApart after := by
  unfold step at stepped
  cases op : ins.op <;> rw [op] at stepped <;> dsimp only at stepped
  case loadConst =>
      obtain ⟨value, isValue, rfl⟩ := Option.map_eq_some_iff.mp stepped
      exact List.forall_mem_cons.mpr ⟨consts value (List.mem_of_getElem? isValue), apart⟩
  case buildTuple =>
      exact allApart_of_build Value.tuple stepped (fun _ => Value.keysApart_of_items? rfl) apart
  case buildList =>
      exact allApart_of_build Value.list stepped (fun _ => Value.keysApart_of_items? rfl) apart
  case buildSet =>
      refine allApart_of_build (fun items => Value.set (items.foldl addToSet [])) stepped (fun items new => ?_) apart
      exact Value.keysApart_of_items? rfl (allApart_foldl_addToSet (List.forall_mem_nil _) new)
  case buildMap =>
      refine allApart_of_build (fun items => Value.dict (Value.insertAll [] (pairUp items))) stepped ?_ apart
      exact fun items new => Value.keysApart_insertAll_nil (pairsApart_pairUp new)
  case buildConstKeyMap =>
      exact allApart_of_buildKeyed? stepped apart
  case mapAdd =>
      split at stepped
      case h_1 =>
          obtain ⟨value, apart⟩ := List.forall_mem_cons.mp apart
          obtain ⟨key, apart⟩ := List.forall_mem_cons.mp apart
          exact allApart_of_change? stepped (keysApart_of_extendDict (List.forall_mem_singleton.mpr ⟨key, value⟩)) apart
      case h_2 =>
          cases stepped
  case dictUpdate =>
      split at stepped
      case h_1 =>
          obtain ⟨top, apart⟩ := List.forall_mem_cons.mp apart
          exact allApart_of_change? stepped (keysApart_of_extendDict top.pairs) apart
      case h_2 =>
          cases stepped
  case listExtend =>
      cases stack with
      | nil => cases stepped
      | cons top below => exact allApart_of_extend stepped keysApart_of_extendList apart
  case setUpdate =>
      cases stack with
      | nil => cases stepped
      | cons top below => exact allApart_of_extend stepped keysApart_of_extendSet apart
  case listAppend =>
      cases stack with
      | nil => cases stepped
      | cons top below =>
          obtain ⟨value, apart⟩ := List.forall_mem_cons.mp apart
          exact allApart_of_change? stepped (keysApart_of_extendList (List.forall_mem_singleton.mpr value)) apart
  case setAdd =>
      cases stack with
      | nil => cases stepped
      | cons top below =>
          obtain ⟨value, apart⟩ := List.forall_mem_cons.mp apart
          exact allApart_of_change? stepped (keysApart_of_extendSet (List.forall_mem_singleton.mpr value)) apart
  all_goals cases stepped

/-- So does every run of instructions. -/
theorem keysApart_run {instructions : List Instruction} (ran : run u stack instructions = some after)
    (apart : AllApart stack) : AllApart after := by
  unfold run at ran
  induction instructions generalizing stack with
  | nil =>
      cases ran
      exact apart
  | cons ins rest ih =>
      rw [List.foldlM_cons] at ran
      obtain ⟨next, stepped, ran⟩ := Option.bind_eq_some_iff.mp ran
      exact ih ran (keysApart_step consts stepped apart)

/-- A recovered value is a literal, and its keys are apart. -/
theorem keysApart_of_mem_recover {wanted : List String} {name : String} {value : Value}
    (found : (name, value) ∈ recover u wanted) : value.isLiteral = true ∧ value.KeysApart := by
  obtain ⟨_, last⟩ := mem_recover_iff.mp found
  obtain ⟨_, _, _, _, _, _, traced⟩ := exists_cut_of_lastTrace? last
  obtain ⟨_, ran, literal⟩ := run_of_traceValue traced
  exact ⟨literal, keysApart_run consts ran (List.forall_mem_nil _) value (List.mem_singleton_self value)⟩

end Replay

/-! ### Indexes -/

namespace Index

/-- The index of a module that is read from an artifact or from a listing, whatever is known of a disassembler. -/
inductive Opened : Index → Prop where
  | artifact {data : List UInt8} {m : CompiledModule} (read : Artifact.read data = .ok m) (tool : Option ListingTool)
      (listings : Option (List (String × String))) : Opened { ofModule m with tool, listings }
  | listing {text : String} {loaded : Listing.Loaded} (read : Listing.read text = .ok loaded) :
      Opened (ofListing loaded.module loaded.slices)

/-- Units get their paths and keep their constants. -/
theorem unitsApart_placeUnits {units : List CodeUnit} (apart : UnitsApart units) (root : Nat)
    (entries : List PathEntry) : UnitsApart (placeUnits units root entries) := by
  intro u member
  obtain ⟨position, inside, rfl⟩ := List.mem_mapIdx.mp member
  have known : AllApart units[position].consts := apart _ (List.getElem_mem inside)
  split
  · exact known
  · exact known

theorem allApart_rootUnit {index : Index} (apart : UnitsApart index.units) : AllApart index.rootUnit.consts := by
  unfold rootUnit unit
  cases found : index.units[index.root]? with
  | none => exact List.forall_mem_nil _
  | some u => exact apart u (List.mem_of_getElem? found)

theorem Opened.unitsApart {index : Index} (opened : index.Opened) : UnitsApart index.units := by
  cases opened with
  | artifact read => exact unitsApart_placeUnits (Artifact.unitsApart read) _ _
  | listing read => exact unitsApart_placeUnits (Listing.unitsApart read) _ _

/-- Whatever module is opened and whatever names are wanted, no unit and no raw text occurs in a recovered value, and no
    two keys of a dictionary in it compare as equal, at any depth. So a recovered value can be written and read back
    unless a floating-point number or the least integer occurs in it. -/
theorem recovered_literal {index : Index} (opened : index.Opened) (wanted : List String) {name : String} {value : Value}
    (found : (name, value) ∈ Replay.recover index.rootUnit wanted) :
    (∀ unit, ¬(Value.code unit).Occurs value) ∧ (∀ text, ¬(Value.raw text).Occurs value) ∧
      (∀ pairs, (Value.dict pairs).Occurs value → pairs.Pairwise fun earlier later => earlier.1.same later.1 = false) ∧
      ((∀ part : Value, part.Occurs value → part.isExact = true ∧ part ≠ .int Int64.minValue) → value.Restorable) := by
  obtain ⟨literal, apart⟩ := Replay.keysApart_of_mem_recover (allApart_rootUnit opened.unitsApart) found
  have literals : ∀ part : Value, part.Occurs value → part.isLiteral = true :=
    fun part occurs => Value.isLiteral_of_occurs occurs literal
  refine ⟨fun unit occurs => ?_, fun text occurs => ?_, fun pairs occurs => apart _ occurs, fun plain => ?_⟩
  · simpa [Value.isLiteral] using literals _ occurs
  · simpa [Value.isLiteral] using literals _ occurs
  · refine Value.restorable_of_everywhere fun part occurs => ?_
    obtain ⟨isExact, notLeast⟩ := plain part occurs
    exact ⟨Value.sound_of_isLiteral (literals part occurs) notLeast (apart part occurs), isExact⟩

/-- An artifact whose body builds a dictionary with one key twice, out of constants of which one is a dictionary that was
    written with one key twice. -/
def repeatedKeysArtifact : List UInt8 :=
  [85, 13, 13, 10] ++ List.replicate 12 0 ++ [99] ++ List.replicate 24 0 ++
    [115, 12, 0, 0, 0, 100, 1, 100, 2, 100, 1, 100, 0, 105, 2, 90, 0] ++
    [41, 3, 123, 105, 1, 0, 0, 0, 78, 105, 1, 0, 0, 0, 84, 48, 105, 1, 0, 0, 0, 78] ++
    [41, 1, 122, 1, 88, 41, 0, 41, 0, 41, 0, 122, 0, 122, 1, 109] ++ List.replicate 4 0 ++ [115, 0, 0, 0, 0]

/-- A listing with a dictionary that is written with one key twice. -/
def repeatedKeysListing : String :=
  "(Python 3.8)\n[Code]\n [Names]\n  'X'\n [Constants]\n  \x7b1: 2, 1: 3\x7d\n [Disassembly]\n" ++
    "  0 LOAD_CONST\n  2 STORE_NAME\n"

/-- A value is recovered for a name. -/
def recovers (index : Index) (name : String) (v : Value) : Bool :=
  (Replay.recover index.rootUnit [name]).any fun entry => entry.1 == name && v.same entry.2

theorem mem_of_recovers {index : Index} {name : String} {v : Value} (found : index.recovers name v = true)
    (restorable : v.Restorable) : (name, v) ∈ Replay.recover index.rootUnit [name] := by
  obtain ⟨⟨other, value⟩, member, fits⟩ := List.any_eq_true.mp found
  rw [Bool.and_eq_true, beq_iff_eq] at fits
  obtain ⟨isName, same⟩ := fits
  cases isName
  rwa [Value.eq_of_same restorable same]

/-- Wherever a key is repeated, in the object stream, on the stack or in a literal, the dictionary has it once. -/
theorem recovered_literal_repeatedKeys :
    (∃ m, Artifact.read repeatedKeysArtifact = .ok m ∧
      ("X", .dict [(.int 1, .dict [(.int 1, .bool true)])]) ∈ Replay.recover (ofModule m).rootUnit ["X"]) ∧
    (∃ loaded, Listing.read repeatedKeysListing = .ok loaded ∧
      ("X", .dict [(.int 1, .int 3)]) ∈ Replay.recover (ofListing loaded.module loaded.slices).rootUnit ["X"]) ∧
    (∀ pairs, (Value.dict pairs).Occurs (.dict [(.int 1, .dict [(.int 1, .bool true)])]) → Value.DistinctKeys pairs) ∧
    ∀ pairs, (Value.dict pairs).Occurs (.dict [(.int 1, .int 3)]) → Value.DistinctKeys pairs := by
  have artifact : (Artifact.read repeatedKeysArtifact).toOption.map (fun m =>
      (ofModule m).recovers "X" (.dict [(.int 1, .dict [(.int 1, .bool true)])])) = some true := by decide +kernel
  have listing : (Listing.read repeatedKeysListing).toOption.map (fun loaded =>
      (ofListing loaded.module loaded.slices).recovers "X" (.dict [(.int 1, .int 3)])) = some true := by decide +kernel
  obtain ⟨m, read, found⟩ := exists_of_toOption artifact
  obtain ⟨loaded, listed, listedFound⟩ := exists_of_toOption listing
  have notLeast : (1 : Int64) ≠ Int64.minValue ∧ (3 : Int64) ≠ Int64.minValue := by decide
  have member := mem_of_recovers found (by simp [Value.Restorable, Value.PairsRestorable, notLeast])
  have listedMember := mem_of_recovers listedFound (by simp [Value.Restorable, Value.PairsRestorable, notLeast])
  exact ⟨⟨m, read, member⟩, ⟨loaded, listed, listedMember⟩,
    (recovered_literal (.artifact read none none) ["X"] member).2.2.1,
    (recovered_literal (.listing listed) ["X"] listedMember).2.2.1⟩

end Index

end SourceRecovery
