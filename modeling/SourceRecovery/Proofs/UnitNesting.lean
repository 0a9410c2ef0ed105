/-
Module: SourceRecovery.Proofs.UnitNesting
Layer: Proofs
Purpose: The order of the units of a module. Whatever bytes or lines a module is read from, a unit refers only to
  units that stand before it: directly, inside containers, and through numbered objects. So the module body is the
  last unit, and no unit is nested in itself. For object streams this is one instance of what all their readers have
  in common: they keep every store that has a rule for each thing they do.
Imports: SourceRecovery.Bytecode.Artifact, SourceRecovery.Listing.Reader
Trusted boundary: none
Main exports: Value.Holds, Value.Below, CodeUnit.NestsBelow, Ascending, UnitStore.Keeps, ObjectStream.Rules,
  ObjectStream.keeps_readContents, ObjectStream.readWith_cases
Open obligations: none
-/
import SourceRecovery.Bytecode.Artifact
import SourceRecovery.Listing.Reader

namespace SourceRecovery

/-! ### Units inside values -/

namespace Value

/-- A code unit occurs in a value, at any depth. -/
inductive Holds (unit : Nat) : Value → Prop where
  | code : Holds unit (.code unit)
  | entry {v : Value} {items : List Value} {item : Value} (row : v.items? = some items)
      (member : item ∈ items) (held : Holds unit item) : Holds unit v
  | key {pairs : List (Value × Value)} {entry : Value × Value} (member : entry ∈ pairs)
      (held : Holds unit entry.1) : Holds unit (.dict pairs)
  | value {pairs : List (Value × Value)} {entry : Value × Value} (member : entry ∈ pairs)
      (held : Holds unit entry.2) : Holds unit (.dict pairs)

/-- Every unit in a value stands before a position. -/
def Below (bound : Nat) (v : Value) : Prop :=
  ∀ unit, v.Holds unit → unit < bound

/-- Every unit in a row of values stands before a position. -/
def AllBelow (bound : Nat) (items : List Value) : Prop :=
  ∀ item ∈ items, item.Below bound

/-- Every unit in a row of pairs stands before a position. -/
def PairsBelow (bound : Nat) (pairs : List (Value × Value)) : Prop :=
  ∀ entry ∈ pairs, entry.1.Below bound ∧ entry.2.Below bound

variable {bound : Nat} {v : Value}

theorem Below.mono (below : v.Below bound) {higher : Nat} (grows : bound ≤ higher) : v.Below higher :=
  fun unit held => Nat.lt_of_lt_of_le (below unit held) grows

theorem AllBelow.mono {items : List Value} (below : AllBelow bound items) {higher : Nat} (grows : bound ≤ higher) :
    AllBelow higher items :=
  fun item member => (below item member).mono grows

/-- A unit stands before every position behind its own. -/
theorem below_code {unit : Nat} (before : unit < bound) : (Value.code unit).Below bound := by
  intro other held
  cases held with
  | code => exact before
  | entry row => cases row

/-- A tuple, list or set has the units of its entries. -/
theorem below_of_items? {items : List Value} (row : v.items? = some items) (below : AllBelow bound items) :
    v.Below bound := by
  intro unit held
  cases held with
  | code => cases row
  | entry otherRow member held =>
      cases row.symm.trans otherRow
      exact below _ member unit held
  | key => cases row
  | value => cases row

theorem Below.items? (below : v.Below bound) {items : List Value} (row : v.items? = some items) :
    AllBelow bound items :=
  fun _ member unit held => below unit (.entry row member held)

/-- A dictionary has the units of its keys and values. -/
theorem below_dict {pairs : List (Value × Value)} (below : PairsBelow bound pairs) :
    (Value.dict pairs).Below bound := by
  intro unit held
  cases held with
  | entry row => cases row
  | key member held => exact (below _ member).1 unit held
  | value member held => exact (below _ member).2 unit held

/-- A value that is neither a unit nor a container. -/
def isScalar : Value → Bool
  | .tuple _ | .list _ | .set _ | .frozenset _ | .dict _ | .code _ => false
  | _ => true

theorem items?_of_isScalar (scalar : v.isScalar = true) : v.items? = Option.none := by
  cases v <;> first | rfl | cases scalar

theorem below_scalar (scalar : v.isScalar = true) : v.Below bound := by
  intro unit held
  cases held with
  | code => cases scalar
  | entry row => cases (items?_of_isScalar scalar).symm.trans row
  | key => cases scalar
  | value => cases scalar

/-- A unit among the entries is one of the units that the entries hold. -/
theorem AllBelow.lt_of_mem_codes {items : List Value} (below : AllBelow bound items) {unit : Nat}
    (member : unit ∈ items.filterMap Value.code?) : unit < bound := by
  obtain ⟨item, isItem, isCode⟩ := List.mem_filterMap.mp member
  cases item with
  | code other =>
      cases isCode
      exact below _ isItem unit .code
  | _ => cases isCode

/-- Insertion brings in nothing but the key and the value. -/
theorem forall_mem_insert {right : Value → Prop} {key : Value} {pairs : List (Value × Value)}
    (rights : ∀ entry ∈ pairs, right entry.1 ∧ right entry.2) (first : right key) (second : right v) :
    ∀ entry ∈ Value.insert key v pairs, right entry.1 ∧ right entry.2 := by
  induction pairs with
  | nil => exact List.forall_mem_cons.mpr ⟨⟨first, second⟩, rights⟩
  | cons entry pairs ih =>
      obtain ⟨here, rest⟩ := List.forall_mem_cons.mp rights
      rw [Value.insert]
      split
      case isTrue => exact List.forall_mem_cons.mpr ⟨⟨here.1, second⟩, rest⟩
      case isFalse => exact List.forall_mem_cons.mpr ⟨here, ih rest⟩

theorem forall_mem_insertAll (right : Value → Prop) {added : List (Value × Value)}
    (new : ∀ entry ∈ added, right entry.1 ∧ right entry.2) :
    ∀ {pairs : List (Value × Value)}, (∀ entry ∈ pairs, right entry.1 ∧ right entry.2) →
      ∀ entry ∈ Value.insertAll pairs added, right entry.1 ∧ right entry.2 := by
  induction added with
  | nil => exact fun rights => rights
  | cons entry added ih =>
      intro pairs rights
      obtain ⟨here, later⟩ := List.forall_mem_cons.mp new
      exact ih later (forall_mem_insert rights here.1 here.2)

end Value

/-! ### Lists of units -/

/-- A unit refers to units before a position only, and its children are the units among its constants. -/
structure CodeUnit.NestsBelow (position : Nat) (u : CodeUnit) : Prop where
  consts : Value.AllBelow position u.consts
  children : u.children = u.consts.filterMap Value.code?

/-- Every unit refers to units before it only. -/
def Ascending (units : List CodeUnit) : Prop :=
  ∀ (position : Nat) (u : CodeUnit), units[position]? = some u → u.NestsBelow position

theorem ascending_nil : Ascending [] :=
  nofun

theorem Ascending.concat {units : List CodeUnit} (ascending : Ascending units) {u : CodeUnit}
    (nests : u.NestsBelow units.length) : Ascending (units ++ [u]) := by
  intro position other found
  rcases Nat.lt_trichotomy position units.length with before | same | behind
  · rw [List.getElem?_append_left before] at found
    exact ascending position other found
  · subst same
    rw [List.getElem?_concat_length] at found
    cases found
    exact nests
  · have short : (units ++ [u]).length ≤ position := by
      rw [List.length_append]
      exact behind
    rw [List.getElem?_eq_none short] at found
    cases found

/-! ### What a reader keeps -/

/-- How the state of a reader holds units: how many they are, and what is true of them between two reads. -/
structure UnitStore (σ : Type) where
  size : σ → Nat
  Sound : σ → Prop

namespace UnitStore

/-- Nothing is asked of a result. -/
def Any {α : Type} (_ : Nat) (_ : α) : Prop :=
  True

variable {σ ε α β : Type} {store : UnitStore σ} {least : Nat} {right : Nat → α → Prop}

/-- A read from one state to another keeps the units in order, drops none, and gives a result that is right for
    their number. -/
structure Kept (store : UnitStore σ) (right : Nat → α → Prop) (s : σ) (a : α) (t : σ) : Prop where
  sound : store.Sound t
  grows : store.size s ≤ store.size t
  result : right (store.size t) a

theorem Kept.of_size_le {s start t : σ} {a : α} (kept : store.Kept right s a t)
    (fewer : store.size start ≤ store.size s) : store.Kept right start a t :=
  ⟨kept.sound, Nat.le_trans fewer kept.grows, kept.result⟩

/-- Every read that succeeds in a sound state with at least `least` units. -/
def Keeps (store : UnitStore σ) (least : Nat) (right : Nat → α → Prop)
    (reader : StateT σ (Except ε) α) : Prop :=
  ∀ s a t, store.Sound s → least ≤ store.size s → reader s = .ok (a, t) → store.Kept right s a t

theorem Keeps.pure {a : α} (always : ∀ bound, least ≤ bound → right bound a) :
    store.Keeps least right (pure a : StateT σ (Except ε) α) := by
  intro s _ _ sound enough done
  cases done
  exact ⟨sound, Nat.le_refl _, always _ enough⟩

/-- Two reads that succeed one after the other. -/
theorem exists_of_bind {first : StateT σ (Except ε) α} {next : α → StateT σ (Except ε) β} {s t : σ} {b : β}
    (done : (first >>= next) s = .ok (b, t)) : ∃ a middle, first s = .ok (a, middle) ∧ next a middle = .ok (b, t) := by
  simp only [Bind.bind, StateT.bind] at done
  cases outcome : first s with
  | error fault =>
      rw [outcome] at done
      cases done
  | ok pair =>
      rw [outcome] at done
      exact ⟨pair.1, pair.2, rfl, done⟩

/-- What follows a read starts with at least as many units as the read has left. -/
theorem Keeps.bind {first : StateT σ (Except ε) α} {next : α → StateT σ (Except ε) β} {wanted : Nat → β → Prop}
    (keeps : store.Keeps least right first)
    (keepsNext : ∀ a bound, least ≤ bound → right bound a → store.Keeps bound wanted (next a)) :
    store.Keeps least wanted (first >>= next) := by
  intro s b t sound enough done
  obtain ⟨a, middle, begun, ended⟩ := exists_of_bind done
  have half := keeps s a middle sound enough begun
  have whole := keepsNext a _ (Nat.le_trans enough half.grows) half.result middle b t half.sound
    (Nat.le_refl _) ended
  exact ⟨whole.sound, Nat.le_trans half.grows whole.grows, whole.result⟩

/-- What is made of a result, when no unit is added in making it. -/
theorem Keeps.map {reader : StateT σ (Except ε) α} (keeps : store.Keeps least right reader) {make : α → β}
    {wanted : Nat → β → Prop} (made : ∀ bound a, right bound a → wanted bound (make a)) :
    store.Keeps least wanted (reader >>= fun a => Pure.pure (make a)) := by
  intro s b t sound enough done
  obtain ⟨a, middle, begun, ended⟩ := exists_of_bind done
  cases ended
  have kept := keeps s a t sound enough begun
  exact ⟨kept.sound, kept.grows, made _ _ kept.result⟩

theorem Keeps.ite {choice : Prop} [Decidable choice] {first second : StateT σ (Except ε) α}
    (keepsFirst : store.Keeps least right first) (keepsSecond : store.Keeps least right second) :
    store.Keeps least right (if choice then first else second) := by
  split
  case isTrue => exact keepsFirst
  case isFalse => exact keepsSecond

/-- A reader that never succeeds. -/
theorem Keeps.of_error {reader : StateT σ (Except ε) α} (fails : ∀ s, ∃ fault, reader s = .error fault) :
    store.Keeps least right reader := by
  intro s a t _ _ done
  obtain ⟨fault, failed⟩ := fails s
  cases failed.symm.trans done

end UnitStore

/-! ### Object streams -/

namespace ObjectStream

open UnitStore (Any)

section Bytes

/-- Nothing in a store depends on the bytes that remain. -/
structure Blind (store : UnitStore StreamState) : Prop where
  sound : ∀ {s : StreamState}, store.Sound s → ∀ rest, store.Sound { s with rest }
  size : ∀ (s : StreamState) rest, store.size { s with rest } = store.size s

variable {store : UnitStore StreamState} {least : Nat} {α : Type}

theorem keeps_fault {right : Nat → α → Prop} (cause : StreamCause) :
    store.Keeps least right (fault cause : StreamReader α) :=
  .of_error fun _ => ⟨_, rfl⟩

theorem keeps_get : store.Keeps least Any (get : StreamReader StreamState) := by
  intro s _ _ sound _ done
  cases done
  exact ⟨sound, Nat.le_refl _, trivial⟩

/-- Bytes are taken from the front and nothing else changes. -/
theorem exists_rest_of_take {count : Nat} {s t : StreamState} {bytes : List UInt8}
    (done : take count s = .ok (bytes, t)) : ∃ rest, t = { s with rest } := by
  unfold take at done
  simp only at done
  split at done
  case isTrue =>
    cases done
    exact ⟨_, rfl⟩
  case isFalse => cases done

theorem exists_rest_of_map {count : Nat} {make : List UInt8 → α} {s t : StreamState} {a : α}
    (done : (take count >>= fun bytes => pure (make bytes) : StreamReader α) s = .ok (a, t)) :
    ∃ rest, t = { s with rest } := by
  obtain ⟨bytes, taken, took, made⟩ := UnitStore.exists_of_bind done
  cases made
  exact exists_rest_of_take took

variable (blind : Blind store)

include blind

theorem Blind.kept {right : Nat → α → Prop} {s : StreamState} {a : α} (sound : store.Sound s) (rest : List UInt8)
    (result : right (store.size s) a) : store.Kept right s a { s with rest } where
  sound := blind.sound sound rest
  grows := Nat.le_of_eq (blind.size s rest).symm
  result := (blind.size s rest).symm ▸ result

theorem keeps_take (count : Nat) : store.Keeps least Any (take count) := by
  intro s bytes t sound enough done
  obtain ⟨rest, rfl⟩ := exists_rest_of_take done
  exact blind.kept sound rest trivial

theorem keeps_readByte : store.Keeps least Any readByte :=
  (keeps_take blind 1).map fun _ _ _ => trivial

theorem keeps_readWord : store.Keeps least Any readWord :=
  (keeps_take blind 4).map fun _ _ _ => trivial

theorem keeps_readSigned : store.Keeps least Any readSigned :=
  (keeps_take blind 4).map fun _ _ _ => trivial

theorem keeps_readDouble : store.Keeps least Any readDouble :=
  (keeps_take blind 8).map fun _ _ _ => trivial

theorem keeps_readLength : store.Keeps least Any readLength := by
  refine (keeps_readSigned blind).bind fun length _ _ _ => keeps_get.bind fun s _ _ _ => ?_
  exact .ite (keeps_fault _) (.pure fun _ _ => trivial)

theorem keeps_readText (count : Nat) : store.Keeps least Any (readText count) :=
  (keeps_take blind count).map fun _ _ _ => trivial

theorem keeps_readFloatText : store.Keeps least Any readFloatText := by
  refine (keeps_readByte blind).bind fun count _ _ _ => (keeps_readText blind count).bind fun text _ _ _ => ?_
  split
  · exact .pure fun _ _ => trivial
  · exact keeps_fault _

end Bytes

/-! #### Objects and their parts -/

/-- What is asked of the parts of an object, of an object without its number, of the constants of a unit and of its
    position, so that a store is kept. -/
structure Rules (store : UnitStore StreamState) (part whole : Nat → Value → Prop) (consts : Nat → List Value → Prop)
    (placed : Nat → Nat → Prop) : Prop extends Blind store where
  part_mono : ∀ {bound higher v}, part bound v → bound ≤ higher → part higher v
  scalar : ∀ {bound v}, v.isScalar = true → whole bound v
  row : ∀ {bound v items}, v.items? = some items → (∀ item ∈ items, part bound item) → whole bound v
  dict : ∀ {bound pairs}, (∀ entry ∈ pairs, part bound entry.1 ∧ part bound entry.2) →
    whole bound (.dict (Value.insertAll [] pairs))
  code : ∀ {bound position}, placed bound position → whole bound (.code position)
  tuple : ∀ {bound items}, part bound (.tuple items) → consts bound items
  consts_mono : ∀ {bound higher items}, consts bound items → bound ≤ higher → consts higher items
  add : ∀ {least u}, consts least u.consts → u.children = u.consts.filterMap Value.code? →
    store.Keeps least placed (addUnit u)

theorem readPairs_end {object : StreamReader Value} {fuel : Nat} {s : StreamState} (ends : s.rest.head? = some 48) :
    readPairs object (fuel + 1) s = .ok ([], { s with rest := s.rest.drop 1 }) := by
  rw [readPairs]
  simp only [bind, StateT.bind, get, getThe, MonadStateOf.get, StateT.get, pure, Except.pure, Except.bind,
    if_pos ends]
  rfl

theorem readPairs_step {object : StreamReader Value} {fuel : Nat} {s : StreamState}
    (goesOn : s.rest.head? ≠ some 48) :
    readPairs object (fuel + 1) s = (do
      let key ← object
      let value ← object
      return (key, value) :: (← readPairs object fuel)) s := by
  rw [readPairs]
  simp only [bind, StateT.bind, get, getThe, MonadStateOf.get, StateT.get, pure, Except.pure, Except.bind,
    if_neg goesOn]

theorem isScalar_integerValue (size : Int) (sum : Option (BitVec 128)) : (integerValue size sum).isScalar = true := by
  unfold integerValue
  split <;> rfl

section Parts

variable {store : UnitStore StreamState} {part whole : Nat → Value → Prop} {consts : Nat → List Value → Prop}
  {placed : Nat → Nat → Prop} (rules : Rules store part whole consts placed) {object : StreamReader Value}
  (parts : ∀ least, store.Keeps least part object) {least : Nat}

include rules

theorem keeps_readInteger : store.Keeps least whole readInteger := by
  refine (keeps_readSigned rules.toBlind).bind fun size _ _ _ => keeps_get.bind fun s _ _ _ => .ite (keeps_fault _) ?_
  exact (keeps_take rules.toBlind _).map fun _ _ _ => rules.scalar (isScalar_integerValue size _)

theorem keeps_string {reader : StreamReader Nat} (counts : store.Keeps least Any reader) :
    store.Keeps least whole (do return .str (← readText (← reader))) :=
  counts.bind fun count _ _ _ => (keeps_readText rules.toBlind count).map fun _ _ _ => rules.scalar rfl

include parts

theorem keeps_readMany (count : Nat) :
    ∀ {least : Nat}, store.Keeps least (fun bound items => ∀ item ∈ items, part bound item)
      (readMany object count) := by
  induction count with
  | zero => exact .pure fun _ _ => List.forall_mem_nil _
  | succ count ih =>
      refine (parts _).bind fun first _ _ right => ih.bind fun rest _ grows rights => .pure fun _ more => ?_
      exact List.forall_mem_cons.mpr ⟨rules.part_mono right (Nat.le_trans grows more),
        fun item member => rules.part_mono (rights item member) more⟩

theorem keeps_readPairs (fuel : Nat) :
    ∀ {least : Nat}, store.Keeps least (fun bound pairs => ∀ entry ∈ pairs, part bound entry.1 ∧ part bound entry.2)
      (readPairs object fuel) := by
  induction fuel with
  | zero => exact keeps_fault _
  | succ fuel ih =>
      intro least s pairs t sound enough done
      by_cases ends : s.rest.head? = some 48
      · cases (readPairs_end ends).symm.trans done
        exact rules.kept sound _ (List.forall_mem_nil _)
      · refine ((parts least).bind fun key _ _ first => (parts _).bind fun value _ grows second =>
          ih.bind fun rest _ more rights => .pure fun _ last => ?_) s pairs t sound enough
            ((readPairs_step ends).symm.trans done)
        refine List.forall_mem_cons.mpr ⟨⟨rules.part_mono first (Nat.le_trans grows (Nat.le_trans more last)),
          rules.part_mono second (Nat.le_trans more last)⟩, fun entry member => ?_⟩
        exact (rights entry member).imp (rules.part_mono · last) (rules.part_mono · last)

omit rules in
theorem keeps_readString (what : String) : store.Keeps least Any (readString object what) := by
  refine (parts least).bind fun v _ _ _ => ?_
  split
  · exact .pure fun _ _ => trivial
  · exact .pure fun _ _ => trivial
  · exact keeps_fault _

omit rules in
theorem keeps_readBytes (what : String) : store.Keeps least Any (readBytes object what) := by
  refine (parts least).bind fun v _ _ _ => ?_
  split
  · exact .pure fun _ _ => trivial
  · exact keeps_fault _

theorem keeps_readTuple (what : String) : store.Keeps least consts (readTuple object what) := by
  refine (parts least).bind fun v _ _ right => ?_
  split
  · exact .pure fun _ grows => rules.consts_mono (rules.tuple right) grows
  · exact keeps_fault _

omit rules parts in
theorem keeps_textsOf (what : String) (items : List Value) :
    ∀ {least : Nat}, store.Keeps least Any (textsOf what items) := by
  induction items with
  | nil => exact .pure fun _ _ => trivial
  | cons item items ih =>
      intro least
      cases item with
      | str s => exact ih.map fun _ _ _ => trivial
      | _ => exact keeps_fault _

theorem keeps_readNames (what : String) : store.Keeps least Any (readNames object what) :=
  (keeps_readTuple rules parts what).bind fun items _ _ _ => keeps_textsOf what items

theorem keeps_readVariables (version : Version) : store.Keeps least Any (readVariables object version) := by
  have names : ∀ {least : Nat} what, store.Keeps least Any (readNames object what) := keeps_readNames rules parts
  refine .ite ?_ ?_
  · refine (names _).bind fun names _ _ _ => (keeps_readBytes parts _).bind fun kinds _ _ _ => ?_
    exact .ite (.pure fun _ _ => trivial) (keeps_fault _)
  · refine (names _).bind fun own _ _ _ => (names _).bind fun free _ _ _ => ?_
    exact (names _).map fun _ _ _ => trivial

theorem keeps_readUnit (version : Version) : store.Keeps least placed (readUnit object version) := by
  have word : ∀ {least : Nat}, store.Keeps least Any readWord := keeps_readWord rules.toBlind
  unfold readUnit
  refine word.bind fun argCount _ _ _ => word.bind fun posOnlyCount _ _ _ => word.bind fun kwOnlyCount start _ _ => ?_
  extract_lets afterCounts
  have rest : ∀ bound, store.Keeps bound placed (afterCounts ()) := by
    refine fun _ => word.bind fun stackSize _ _ _ => word.bind fun flags _ _ _ =>
      (keeps_readBytes parts _).bind fun code _ _ _ => (keeps_readTuple rules parts _).bind fun values held _ right =>
      (keeps_readNames rules parts _).bind fun names _ atNames _ =>
      (keeps_readVariables rules parts version).bind fun tables _ atTables _ =>
      (keeps_readString parts _).bind fun filename _ atFilename _ =>
      (keeps_readString parts _).bind fun name named atName _ => ?_
    have known : consts named values := rules.consts_mono right (by omega)
    extract_lets afterNames
    have ending : ∀ qualname bound, named ≤ bound → store.Keeps bound placed (afterNames qualname) := by
      refine fun qualname _ fits => word.bind fun firstLine _ atLine _ => (parts _).bind fun _ lined atTable _ => ?_
      have still : consts lined values := rules.consts_mono known (by omega)
      exact .ite ((parts _).bind fun _ _ more _ => rules.add (rules.consts_mono still more) rfl) (rules.add still rfl)
    refine .ite ?_ ?_
    · exact (keeps_readString parts _).bind fun qualname _ more _ => ending qualname _ more
    · exact ending name named (Nat.le_refl _)
  exact .ite (rest _) (word.bind fun _ bound _ _ => rest bound)

theorem keeps_row {reader : StreamReader Nat} (counts : store.Keeps least Any reader)
    {make : List Value → Value} (isRow : ∀ items, (make items).items? = some items) :
    store.Keeps least whole (do return make (← readMany object (← reader))) :=
  counts.bind fun count _ _ _ => (keeps_readMany rules parts count).map fun _ items right => rules.row (isRow items) right

/-- Whatever the kind of an object, its contents keep the store. -/
theorem keeps_readContents (version : Version) (kind : Char) :
    store.Keeps least whole (readContents object version kind) := by
  have blind := rules.toBlind
  have one : ∀ {v : Value}, v.isScalar = true → store.Keeps least whole (pure v : StreamReader Value) :=
    fun scalar => .pure fun _ _ => rules.scalar scalar
  unfold readContents
  split
  -- the values that have no contents
  · exact one rfl
  · exact one rfl
  · exact one rfl
  · exact one rfl
  · exact one rfl
  -- numbers
  · exact (keeps_readSigned blind).map fun _ _ _ => rules.scalar rfl
  · exact (keeps_take blind 8).map fun _ _ _ => rules.scalar rfl
  · exact keeps_readInteger rules
  · exact (keeps_readFloatText blind).map fun _ _ _ => rules.scalar rfl
  · exact (keeps_readDouble blind).map fun _ _ _ => rules.scalar rfl
  · exact (keeps_readFloatText blind).bind fun _ _ _ _ => (keeps_readFloatText blind).map fun _ _ _ => rules.scalar rfl
  · exact (keeps_readDouble blind).bind fun _ _ _ _ => (keeps_readDouble blind).map fun _ _ _ => rules.scalar rfl
  -- byte strings and texts
  · exact (keeps_readLength blind).bind fun count _ _ _ => (keeps_take blind count).map fun _ _ _ => rules.scalar rfl
  · exact keeps_string rules (keeps_readLength blind)
  · exact keeps_string rules (keeps_readLength blind)
  · exact keeps_string rules (keeps_readLength blind)
  · exact keeps_string rules (keeps_readLength blind)
  · exact keeps_string rules (keeps_readByte blind)
  · exact keeps_string rules (keeps_readByte blind)
  -- containers
  · exact keeps_row rules parts (keeps_readLength blind) fun _ => rfl
  · exact keeps_row rules parts (keeps_readByte blind) fun _ => rfl
  · exact keeps_row rules parts (keeps_readLength blind) fun _ => rfl
  · exact keeps_row rules parts (keeps_readLength blind) fun _ => rfl
  · exact keeps_row rules parts (keeps_readLength blind) fun _ => rfl
  · exact keeps_get.bind fun s _ _ _ => (keeps_readPairs rules parts _).map fun _ pairs rights => rules.dict rights
  · exact (keeps_readUnit rules parts version).map fun bound position last => rules.code last
  · exact keeps_fault _

end Parts

/-! #### Numbered objects -/

/-- A number stands for an object that has been read to its end. -/
theorem mem_of_readReference {s t : StreamState} {v : Value} (done : readReference s = .ok (v, t)) :
    some v ∈ s.refs ∧ ∃ rest, t = { s with rest } := by
  obtain ⟨word, middle, read, done⟩ := UnitStore.exists_of_bind done
  obtain ⟨rest, rfl⟩ := exists_rest_of_map read
  obtain ⟨_, _, got, done⟩ := UnitStore.exists_of_bind done
  cases got
  rcases found : s.refs[word.toNat]? with _ | _ | value <;> simp only [found] at done <;> cases done
  exact ⟨List.mem_of_getElem? found, rest, rfl⟩

/-- An object under way has no value that could be referred to. -/
theorem some_mem_reserved {refs : List (Option Value)} {v : Value} : some v ∈ refs ++ [none] ↔ some v ∈ refs := by
  simp

/-- How an object is read: as the one with a number that was given before, by its contents, or by its contents after it
    was given a number. A reference may have a number too, which then never stands for an object. -/
theorem readWith_cases {object : StreamReader Value} {version : Version} {s t : StreamState} {v : Value}
    (done : readWith object version s = .ok (v, t)) :
    (some v ∈ s.refs ∧ ∃ rest, t = { s with rest } ∨ t = { s with rest, refs := s.refs ++ [none] }) ∨
    (∃ rest kind, readContents object version kind { s with rest } = .ok (v, t)) ∨
    (∃ rest kind inner, readContents object version kind { s with rest, refs := s.refs ++ [none] } = .ok (v, inner) ∧
      t = { inner with refs := inner.refs.set s.refs.length (some v) }) := by
  obtain ⟨byte, opened, read, done⟩ := UnitStore.exists_of_bind done
  obtain ⟨rest, rfl⟩ := exists_rest_of_map read
  simp only at done
  split at done
  case isTrue =>
    split at done
    case isTrue =>
      obtain ⟨numbered, after, rfl⟩ := mem_of_readReference done
      exact .inl ⟨numbered, after, .inl rfl⟩
    case isFalse => exact .inr (.inl ⟨rest, _, done⟩)
  case isFalse =>
    obtain ⟨number, reserved, reserves, done⟩ := UnitStore.exists_of_bind done
    cases reserves
    split at done
    case isTrue =>
      obtain ⟨numbered, after, rfl⟩ := mem_of_readReference done
      exact .inl ⟨some_mem_reserved.mp numbered, after, .inr rfl⟩
    case isFalse =>
      obtain ⟨value, inner, reads, done⟩ := UnitStore.exists_of_bind done
      obtain ⟨_, outer, finishes, done⟩ := UnitStore.exists_of_bind done
      cases finishes
      cases done
      exact .inr (.inr ⟨rest, _, inner, reads, rfl⟩)

/-! #### The order of units -/

/-- Between two reads the units are in order, and the numbered objects refer to units that are there. -/
structure Sound (s : StreamState) : Prop where
  refs : ∀ value, some value ∈ s.refs → value.Below s.units.length
  units : Ascending s.units

/-- The units of a stream. -/
def unitStore : UnitStore StreamState where
  size s := s.units.length
  Sound := Sound

/-- A value just read: its units are there, and when it is a unit it is the last one. -/
structure Newest (bound : Nat) (v : Value) : Prop where
  below : v.Below bound
  last : ∀ unit, v = .code unit → unit + 1 = bound

theorem Sound.withRest {s : StreamState} (sound : Sound s) (rest : List UInt8) : Sound { s with rest } :=
  ⟨sound.refs, sound.units⟩

theorem Sound.reserved {s : StreamState} (sound : Sound s) (rest : List UInt8) :
    Sound { s with rest, refs := s.refs ++ [none] } :=
  ⟨fun other member => sound.refs other (some_mem_reserved.mp member), sound.units⟩

theorem Sound.finished {s : StreamState} (sound : Sound s) {v : Value} (below : v.Below s.units.length)
    (number : Nat) : Sound { s with refs := s.refs.set number (some v) } where
  refs other member := by
    rcases List.mem_or_eq_of_mem_set member with known | same
    · exact sound.refs other known
    · cases same
      exact below
  units := sound.units

/-- A unit that refers to the units so far may go to their end. -/
theorem keeps_addUnit {least : Nat} {u : CodeUnit} (below : Value.AllBelow least u.consts)
    (children : u.children = u.consts.filterMap Value.code?) :
    unitStore.Keeps least (fun bound position => position + 1 = bound) (addUnit u) := by
  intro s position t sound enough done
  cases done
  have length : (s.units ++ [u]).length = s.units.length + 1 := List.length_append
  have grows : s.units.length ≤ (s.units ++ [u]).length := by omega
  exact {
    sound := {
      refs := fun value member => (sound.refs value member).mono grows
      units := sound.units.concat ⟨below.mono enough, children⟩ }
    grows := grows
    result := length.symm }

/-- The parts of an object refer to units that are there, and a unit stands where the list of units ended. -/
theorem unitRules : Rules unitStore Value.Below Newest Value.AllBelow (fun bound position => position + 1 = bound) where
  sound sound rest := sound.withRest rest
  size _ _ := rfl
  part_mono below grows := below.mono grows
  scalar scalar := ⟨Value.below_scalar scalar, by rintro unit rfl; cases scalar⟩
  row row below := ⟨Value.below_of_items? row below, by rintro unit rfl; cases row⟩
  dict below := by
    refine ⟨Value.below_dict (Value.forall_mem_insertAll (Value.Below _) below (List.forall_mem_nil _)), ?_⟩
    rintro unit ⟨⟩
  code last := by
    refine ⟨Value.below_code (by omega), ?_⟩
    rintro unit ⟨⟩
    exact last
  tuple below := below.items? rfl
  consts_mono below grows := below.mono grows
  add := keeps_addUnit

/-- A reader of the parts of an object, wherever it is used. -/
def KeepsBelow (object : StreamReader Value) : Prop :=
  ∀ least, unitStore.Keeps least Value.Below object

/-- An object is one that was numbered before, or it has just been read. -/
theorem kept_readWith {object : StreamReader Value} (parts : KeepsBelow object) (version : Version) {s t : StreamState}
    {v : Value} (sound : Sound s) (done : readWith object version s = .ok (v, t)) :
    unitStore.Kept Value.Below s v t ∧ (some v ∈ s.refs ∨ Newest t.units.length v) := by
  have contents : ∀ {start : StreamState} {kind : Char} {inner : StreamState}, Sound start →
      readContents object version kind start = .ok (v, inner) → unitStore.Kept Newest start v inner :=
    fun soundStart read => keeps_readContents unitRules parts version _ _ _ _ soundStart (Nat.le_refl _) read
  rcases readWith_cases done with ⟨numbered, rest, rfl | rfl⟩ | ⟨rest, kind, read⟩ | ⟨rest, kind, inner, read, rfl⟩
  · exact ⟨⟨sound.withRest rest, Nat.le_refl _, sound.refs v numbered⟩, .inl numbered⟩
  · exact ⟨⟨sound.reserved rest, Nat.le_refl _, sound.refs v numbered⟩, .inl numbered⟩
  · have kept := contents (sound.withRest rest) read
    exact ⟨⟨kept.sound, kept.grows, kept.result.below⟩, .inr kept.result⟩
  · have kept := contents (sound.reserved rest) read
    exact ⟨⟨kept.sound.finished kept.result.below _, kept.grows, kept.result.below⟩, .inr kept.result⟩

theorem keepsBelow_readObject (version : Version) (room : Nat) : KeepsBelow (readObject version room) := by
  induction room with
  | zero => exact fun _ => keeps_fault _
  | succ room ih => exact fun _ s v t sound _ done => (kept_readWith ih version sound done).1

theorem sound_start (rest : List UInt8) : Sound { rest } :=
  ⟨nofun, ascending_nil⟩

/-- A unit at the top of a stream is the last one: at the start there is no number to refer to. -/
theorem last_of_readObject {version : Version} {room unit : Nat} {rest : List UInt8} {t : StreamState}
    (done : readObject version room { rest } = .ok (.code unit, t)) :
    Ascending t.units ∧ unit + 1 = t.units.length := by
  cases room with
  | zero => cases done
  | succ room =>
      have read := kept_readWith (keepsBelow_readObject version room) version (sound_start rest) done
      refine ⟨read.1.sound.units, ?_⟩
      rcases read.2 with numbered | newest
      · cases numbered
      · exact newest.last unit rfl

end ObjectStream

end SourceRecovery
