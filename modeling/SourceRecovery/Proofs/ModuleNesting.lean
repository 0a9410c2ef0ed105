/-
Module: SourceRecovery.Proofs.ModuleNesting
Layer: Proofs
Purpose: Modules read from artifacts and from listings are well-founded. The readers of a listing keep every store that
  has a rule for each thing they do. A literal names no unit, so the constants of a listing refer only to the units
  written out among them; with the order of the units of an object stream this gives the same four facts about every
  module that is read.
Imports: SourceRecovery.Proofs.LiteralNesting
Trusted boundary: none
Main exports: Listing.Rules, Listing.keepsUnits, CompiledModule.WellFounded, wellFounded_of_read
Open obligations: none
-/
import SourceRecovery.Proofs.LiteralNesting

namespace SourceRecovery

/-! ### Listings -/

namespace Listing

open UnitStore (Any)

/-- What is asked so that the store of a listing is kept: of the values that are read from one size of the store to
    another and stand further in than a margin, of the constants of a unit and of its position. A line takes the store
    from the first to the second size that it is `entered` with. -/
structure Rules (store : UnitStore ReaderState) (entered : Line → Nat → Nat → Prop)
    (part : Nat → Nat → Nat → Value → Prop) (consts : Nat → List Value → Prop) (placed : Nat → Nat → Prop) : Prop where
  /-- Lines may be passed over. -/
  rest : ∀ {s : ReaderState} {rest}, store.Sound s → rest <:+ s.rest → store.Kept Any s () { s with rest }
  enter : ∀ {s : ReaderState} {line rest}, store.Sound s → s.rest = line :: rest →
    entered line (store.size s) (store.size { s with rest })
  line : ∀ {line indent start bound}, entered line start bound → indent < line.indent →
    part indent start bound (valueOfLine line.text)
  part_mono : ∀ {indent start lower bound higher v}, part indent start bound v → lower ≤ start → bound ≤ higher →
    part indent lower higher v
  row : ∀ {line indent start inner bound make closing items}, entered line start inner → indent < line.indent →
    container? line.text = some (make, closing) → (∀ item ∈ items, part line.indent inner bound item) →
    part indent start bound (make items)
  code : ∀ {line indent start inner bound position}, entered line start inner → indent < line.indent →
    line.text = "[Code]" → placed bound position → part indent start bound (.code position)
  consts_of : ∀ {indent start bound values}, (∀ v ∈ values, part indent start bound v) → consts bound values
  consts_mono : ∀ {bound higher values}, consts bound values → bound ≤ higher → consts higher values
  add : ∀ {least u}, consts least u.consts → u.children = u.consts.filterMap Value.code? → ∀ slice,
    store.Keeps least placed (addUnit u slice)

theorem suffix_of_nextInside? {indent : Nat} {s next : ReaderState} {line : Line}
    (found : nextInside? indent s = some (line, next)) :
    indent < line.indent ∧ ∃ rest, s.rest = line :: rest ∧ next = { s with rest } := by
  unfold nextInside? at found
  split at found
  case h_1 first rest starts =>
    split at found <;> cases found
    case isTrue.refl inward => exact ⟨inward, rest, starts, rfl⟩
  case h_2 => cases found

theorem items?_of_container? {text closing : String} {make : List Value → Value}
    (opens : container? text = some (make, closing)) (items : List Value) : (make items).items? = some items := by
  unfold container? at opens
  split at opens <;> cases opens <;> rfl

/-- Fields and tables leave the constants alone. -/
theorem consts_setField (draft : Draft) (key : String) (value : List Char) :
    (draft.setField key value).unit.consts = draft.unit.consts := by
  unfold Draft.setField
  dsimp only
  split <;> rfl

theorem consts_readField (draft : Draft) (text : String) :
    (draft.readField text).unit.consts = draft.unit.consts := by
  unfold Draft.readField
  split
  · exact consts_setField ..
  · rfl

theorem consts_setTable (draft : Draft) (title : String) (block : List Line) :
    (draft.setTable title block).unit.consts = draft.unit.consts := by
  unfold Draft.setTable
  dsimp only
  split <;> rfl

section Readers

variable {store : UnitStore ReaderState} {entered : Line → Nat → Nat → Prop} {part : Nat → Nat → Nat → Value → Prop}
  {consts : Nat → List Value → Prop} {placed : Nat → Nat → Prop} {least : Nat}

theorem keeps_tooDeep {α : Type} {right : Nat → α → Prop} : store.Keeps least right (tooDeep : Reader α) :=
  .of_error fun _ => ⟨_, rfl⟩

theorem keeps_get : store.Keeps least Any (get : Reader ReaderState) := by
  intro s _ _ sound _ done
  cases done
  exact ⟨sound, Nat.le_refl _, trivial⟩

/-- With this much fuel every reader keeps the store. -/
structure KeepsUnits (store : UnitStore ReaderState) (part : Nat → Nat → Nat → Value → Prop)
    (consts : Nat → List Value → Prop) (placed : Nat → Nat → Prop) (version : Version) (fuel : Nat) : Prop where
  unit : ∀ room least, store.Keeps least placed (readUnit version fuel room)
  fields : ∀ room indent draft least, consts least draft.unit.consts →
    store.Keeps least (fun bound draft => consts bound draft.unit.consts) (readFields version fuel room indent draft)
  values : ∀ room indent least,
    store.Keeps least (fun bound values => ∀ v ∈ values, part indent least bound v) (readConsts version fuel room indent)
  value : ∀ room indent line rest s v t, store.Sound s → s.rest = line :: rest → indent < line.indent →
    readConst version fuel room line { s with rest } s = .ok (v, t) → store.Kept (part indent (store.size s)) s v t

variable {version : Version} {fuel : Nat}

theorem keepsUnits_zero : KeepsUnits store part consts placed version 0 where
  unit room _ := by
    rw [readUnit]
    exact keeps_tooDeep
  fields room indent draft _ _ := by
    rw [readFields]
    exact keeps_tooDeep
  values room indent _ := by
    rw [readConsts]
    exact keeps_tooDeep
  value room indent line rest s v t _ _ _ done := by
    rw [readConst] at done
    cases done

variable (rules : Rules store entered part consts placed)

include rules

theorem keeps_takeBlock (indent : Nat) : store.Keeps least Any (takeBlock indent) := by
  intro s _ _ sound _ done
  cases done
  have kept := rules.rest sound (List.dropWhile_suffix fun line => decide (indent < line.indent))
  exact ⟨kept.sound, kept.grows, trivial⟩

theorem keeps_skipClosing (closing : String) : store.Keeps least Any (skipClosing closing) := by
  intro s _ _ sound _ done
  cases done
  dsimp only
  split
  case h_1 line rest starts =>
    split
    case isTrue =>
      refine rules.rest sound ?_
      rw [starts]
      exact List.suffix_cons line rest
    case isFalse => exact ⟨sound, Nat.le_refl _, trivial⟩
  case h_2 => exact ⟨sound, Nat.le_refl _, trivial⟩

namespace KeepsUnits

variable (inside : KeepsUnits store part consts placed version fuel)

include inside

theorem readUnit (room least : Nat) : store.Keeps least placed (readUnit version (fuel + 1) room) := by
  intro s position t sound enough done
  cases room with
  | zero =>
      rw [Listing.readUnit] at done
      cases done
  | succ room =>
      rw [Listing.readUnit] at done
      obtain ⟨_, _, got, done⟩ := UnitStore.exists_of_bind done
      cases got
      dsimp only at done
      cases starts : s.rest with
      | nil =>
          rw [starts] at done
          cases done
      | cons line rest =>
          rw [starts] at done
          obtain ⟨_, _, moved, done⟩ := UnitStore.exists_of_bind done
          cases moved
          have behind : rest <:+ s.rest := by
            rewrite [starts]
            exact List.suffix_cons line rest
          have next := rules.rest sound behind
          have empty : ∀ v ∈ ([] : List Value), part line.indent least least v := List.forall_mem_nil _
          have keeps : store.Keeps least placed (do
              let draft ← Listing.readFields version fuel room line.indent ⟨.empty "" version, none⟩
              let used := (line :: rest).length - (← get).rest.length
              addUnit draft.finish (sliceOf line.indent ((line :: rest).take used))) :=
            (inside.fields room line.indent _ least (rules.consts_of empty)).bind fun draft _ _ known =>
              keeps_get.bind fun after _ more _ => rules.add (u := draft.finish) (rules.consts_mono known more) rfl _
          exact (keeps _ position t next.sound (Nat.le_trans enough next.grows) done).of_size_le next.grows

/-- What is read after the line of a field or section. -/
theorem keeps_afterLine (room indent : Nat) (line : Line) {draft : Draft} (known : consts least draft.unit.consts) :
    store.Keeps least (fun bound draft => consts bound draft.unit.consts) (match sectionTitle? line.text with
      | none => Listing.readFields version fuel room indent (draft.readField line.text)
      | some title =>
        if title = "Constants" then do
          let consts ← Listing.readConsts version fuel room line.indent
          Listing.readFields version fuel room indent { draft with unit := { draft.unit with consts } }
        else do
          let block ← takeBlock line.indent
          Listing.readFields version fuel room indent (draft.setTable title block)) := by
  split
  case h_1 =>
    refine inside.fields room indent _ least ?_
    rwa [consts_readField]
  case h_2 title _ =>
    refine .ite ?_ ?_
    · exact (inside.values room _ _).bind fun values bound _ rights => inside.fields room indent _ bound (rules.consts_of rights)
    · refine (keeps_takeBlock rules _).bind fun block bound grows _ => inside.fields room indent _ bound ?_
      rw [consts_setTable]
      exact rules.consts_mono known grows

theorem readFields (room indent : Nat) (draft : Draft) (least : Nat) (known : consts least draft.unit.consts) :
    store.Keeps least (fun bound draft => consts bound draft.unit.consts)
      (readFields version (fuel + 1) room indent draft) := by
  intro s final t sound enough done
  rw [Listing.readFields] at done
  obtain ⟨_, _, got, done⟩ := UnitStore.exists_of_bind done
  cases got
  cases found : nextInside? indent s with
  | none =>
      simp only [found] at done
      cases done
      exact ⟨sound, Nat.le_refl _, rules.consts_mono known enough⟩
  | some pair =>
      obtain ⟨line, next⟩ := pair
      simp only [found] at done
      obtain ⟨_, rest, starts, rfl⟩ := suffix_of_nextInside? found
      obtain ⟨_, _, sets, done⟩ := UnitStore.exists_of_bind done
      cases sets
      have behind : rest <:+ s.rest := by
        rewrite [starts]
        exact List.suffix_cons line rest
      have moved := rules.rest sound behind
      have kept := inside.keeps_afterLine rules room indent line known _ final t moved.sound
        (Nat.le_trans enough moved.grows) done
      exact kept.of_size_le moved.grows

theorem readConsts (room indent least : Nat) :
    store.Keeps least (fun bound values => ∀ v ∈ values, part indent least bound v)
      (readConsts version (fuel + 1) room indent) := by
  intro s values t sound enough done
  rw [Listing.readConsts] at done
  obtain ⟨_, _, got, done⟩ := UnitStore.exists_of_bind done
  cases got
  cases found : nextInside? indent s with
  | none =>
      simp only [found] at done
      cases done
      exact ⟨sound, Nat.le_refl _, List.forall_mem_nil _⟩
  | some pair =>
      obtain ⟨line, next⟩ := pair
      simp only [found] at done
      obtain ⟨inward, rest, starts, rfl⟩ := suffix_of_nextInside? found
      obtain ⟨first, middle, read, done⟩ := UnitStore.exists_of_bind done
      have kept := inside.value room indent line rest s first middle sound starts inward read
      obtain ⟨more, final, readMore, done⟩ := UnitStore.exists_of_bind done
      have keptMore := inside.values room indent least middle more final kept.sound
        (Nat.le_trans enough kept.grows) readMore
      cases done
      exact ⟨keptMore.sound, Nat.le_trans kept.grows keptMore.grows,
        List.forall_mem_cons.mpr ⟨rules.part_mono kept.result enough keptMore.grows, keptMore.result⟩⟩

theorem readConst (room indent : Nat) (line : Line) (rest : List Line) (s : ReaderState) (v : Value) (t : ReaderState)
    (sound : store.Sound s) (starts : s.rest = line :: rest) (inward : indent < line.indent)
    (done : readConst version (fuel + 1) room line { s with rest } s = .ok (v, t)) :
    store.Kept (part indent (store.size s)) s v t := by
  have entered := rules.enter sound starts
  rw [Listing.readConst] at done
  split at done
  case isTrue isUnit =>
    obtain ⟨position, final, read, done⟩ := UnitStore.exists_of_bind done
    cases done
    have kept := inside.unit room _ s position t sound (Nat.le_refl _) read
    exact ⟨kept.sound, kept.grows, rules.code entered inward isUnit kept.result⟩
  case isFalse =>
    obtain ⟨_, _, sets, done⟩ := UnitStore.exists_of_bind done
    cases sets
    have behind : rest <:+ s.rest := by
      rewrite [starts]
      exact List.suffix_cons line rest
    have next := rules.rest sound behind
    cases opens : container? line.text with
    | none =>
      simp only [opens] at done
      cases done
      exact ⟨next.sound, next.grows, rules.line entered inward⟩
    | some pair =>
      obtain ⟨make, closing⟩ := pair
      simp only [opens] at done
      have keeps : store.Keeps (store.size { s with rest }) (part indent (store.size s)) (do
          let items ← Listing.readConsts version fuel room line.indent
          skipClosing closing
          return make items) :=
        (inside.values room _ _).bind fun items _ _ rights =>
          (keeps_skipClosing rules closing).bind fun _ _ grows _ => .pure fun bound more =>
            rules.row entered inward opens fun item member =>
              rules.part_mono (rights item member) (Nat.le_refl _) (Nat.le_trans grows more)
      exact (keeps _ v t next.sound (Nat.le_refl _) done).of_size_le next.grows

theorem succ : KeepsUnits store part consts placed version (fuel + 1) where
  unit := inside.readUnit rules
  fields := inside.readFields rules
  values := inside.readConsts rules
  value := inside.readConst rules

end KeepsUnits

theorem keepsUnits (version : Version) (fuel : Nat) : KeepsUnits store part consts placed version fuel := by
  induction fuel with
  | zero => exact keepsUnits_zero
  | succ fuel ih => exact ih.succ rules

end Readers

/-! #### The order of units -/

/-- Between two reads the units are in order, and each of them has its lines. -/
structure Sound (s : ReaderState) : Prop where
  units : Ascending s.units
  slices : s.slices.length = s.units.length

/-- The units of a listing. -/
def unitStore : UnitStore ReaderState where
  size s := s.units.length
  Sound := Sound

/-- A unit that refers to the units so far may go to their end, with its lines. -/
theorem keeps_addUnit {least : Nat} {u : CodeUnit} (below : Value.AllBelow least u.consts)
    (children : u.children = u.consts.filterMap Value.code?) (slice : String) :
    unitStore.Keeps least (fun bound position => position + 1 = bound) (addUnit u slice) := by
  intro s position t sound enough done
  cases done
  have length : (s.units ++ [u]).length = s.units.length + 1 := List.length_append
  have lengthSlices : (s.slices ++ [slice]).length = s.slices.length + 1 := List.length_append
  exact {
    sound := {
      units := sound.units.concat ⟨below.mono enough, children⟩
      slices := by rw [lengthSlices, length, sound.slices] }
    grows := by
      have grows : s.units.length ≤ (s.units ++ [u]).length := by omega
      exact grows
    result := length.symm }

theorem below_valueOfLine (text : String) (bound : Nat) : (valueOfLine text).Below bound := by
  unfold valueOfLine
  split
  case h_1 read => exact (Literal.below_of_readWhole read).mono (Nat.zero_le _)
  case h_2 => exact Value.below_scalar rfl

/-- A line names no unit, and a unit stands where the list of units ended. -/
theorem unitRules : Rules unitStore (fun _ _ _ => True) (fun _ _ => Value.Below) Value.AllBelow
    (fun bound position => position + 1 = bound) where
  rest sound _ := ⟨⟨sound.units, sound.slices⟩, Nat.le_refl _, trivial⟩
  enter _ _ := trivial
  line _ _ := below_valueOfLine _ _
  part_mono below _ grows := below.mono grows
  row _ _ opens below := Value.below_of_items? (items?_of_container? opens _) below
  code _ _ _ last := Value.below_code (by omega)
  consts_of below := below
  consts_mono below grows := below.mono grows
  add := keeps_addUnit

end Listing

/-! ### Modules -/

/-- The units of a module can be gone through from the first to the last, each after all it refers to. -/
structure CompiledModule.WellFounded (m : CompiledModule) : Prop where
  /-- The module body is the last unit. -/
  root_last : m.root + 1 = m.units.length
  /-- A unit that occurs in a constant, at any depth, stands before the unit that has the constant. -/
  holds_lt : ∀ (position : Nat) (u : CodeUnit), m.units[position]? = some u →
    ∀ value ∈ u.consts, ∀ unit, value.Holds unit → unit < position
  /-- The children of a unit stand before it. -/
  child_lt : ∀ (position : Nat) (u : CodeUnit), m.units[position]? = some u → ∀ child ∈ u.children, child < position
  /-- The children of a unit are the units among its constants, in their order. -/
  children_eq : ∀ u ∈ m.units, u.children = u.consts.filterMap Value.code?

theorem wellFounded_of_ascending {version : Version} {units : List CodeUnit} {root : Nat}
    (ascending : Ascending units) (last : root + 1 = units.length) :
    CompiledModule.WellFounded ⟨version, units, root⟩ where
  root_last := last
  holds_lt position u found value member unit held := (ascending position u found).consts value member unit held
  child_lt position u found child member := by
    have nests := ascending position u found
    rw [nests.children] at member
    exact nests.consts.lt_of_mem_codes member
  children_eq u member := by
    obtain ⟨position, found⟩ := List.getElem?_of_mem member
    exact (ascending position u found).children

/-- A module that is read from an artifact: behind the header, its version and the object stream give it. -/
theorem Artifact.exists_of_read {data : List UInt8} {m : CompiledModule} (done : Artifact.read data = .ok m) :
    headerLength ≤ data.length ∧ ∃ version root final, readVersion data = .ok version ∧
      ObjectStream.readObject version ObjectStream.maxDepth { rest := data.drop headerLength } =
        .ok (.code root, final) ∧
      m = ⟨version, final.units, root⟩ := by
  unfold Artifact.read at done
  split at done
  case isTrue => cases done
  case isFalse long =>
    refine ⟨Nat.le_of_not_lt long, ?_⟩
    split at done
    case h_1 => cases done
    case h_2 version known =>
      unfold Artifact.readBody at done
      split at done
      case h_1 => cases done
      case h_2 root final read =>
        cases done
        exact ⟨version, root, final, known, read, rfl⟩
      case h_3 => cases done

theorem Artifact.wellFounded {data : List UInt8} {m : CompiledModule} (done : Artifact.read data = .ok m) :
    m.WellFounded := by
  obtain ⟨_, version, root, final, _, read, rfl⟩ := exists_of_read done
  obtain ⟨ascending, last⟩ := ObjectStream.last_of_readObject read
  exact wellFounded_of_ascending ascending last

/-- A module that is read from a listing: the lines from its first unit on give it. -/
theorem Listing.exists_of_read {listing : String} {loaded : Loaded} (done : Listing.read listing = .ok loaded) :
    ∃ version fuel body root final, body <:+ linesOf listing ∧
      readUnit version fuel maxDepth { rest := body } = .ok (root, final) ∧
      loaded = ⟨⟨version, final.units, root⟩, final.slices⟩ := by
  unfold Listing.read at done
  dsimp only at done
  split at done
  case isTrue => cases done
  case isFalse =>
    split at done
    case h_1 => cases done
    case h_2 version _ =>
      split at done
      case isTrue =>
        unfold Listing.readModule at done
        split at done
        case h_1 => cases done
        case h_2 root final read =>
          cases done
          exact ⟨version, _, _, root, final, List.dropWhile_suffix _, read, rfl⟩
      case isFalse => cases done

theorem Listing.wellFounded {listing : String} {loaded : Loaded} (done : Listing.read listing = .ok loaded) :
    loaded.module.WellFounded ∧ loaded.slices.length = loaded.module.units.length := by
  obtain ⟨version, fuel, body, root, final, _, read, rfl⟩ := exists_of_read done
  have kept := (keepsUnits unitRules version fuel).unit _ 0 _ root final ⟨ascending_nil, rfl⟩ (Nat.le_refl _) read
  exact ⟨wellFounded_of_ascending kept.sound.units kept.result, kept.sound.slices⟩

/-- Whatever module is read, from an artifact or from a listing, its units are well-founded; and a listing gives every
    unit its lines. -/
theorem wellFounded_of_read :
    (∀ data m, Artifact.read data = .ok m → m.WellFounded) ∧
    (∀ listing loaded, Listing.read listing = .ok loaded →
      loaded.module.WellFounded ∧ loaded.slices.length = loaded.module.units.length) :=
  ⟨fun _ _ => Artifact.wellFounded, fun _ _ => Listing.wellFounded⟩

/-- A unit of an object stream with a name of one letter, and nothing else but its constants. -/
def bareUnit (kind : UInt8) (consts : List UInt8) (name : UInt8) : List UInt8 :=
  kind :: List.replicate 24 0 ++ [115, 0, 0, 0, 0] ++ consts ++ [41, 0, 41, 0, 41, 0, 41, 0, 122, 0, 122, 1, name]
    ++ List.replicate 4 0 ++ [115, 0, 0, 0, 0]

/-- An artifact whose body has one function three times: written out with a number, by that number, and by that
    number inside a tuple. -/
def sharedArtifact : List UInt8 :=
  [85, 13, 13, 10] ++ List.replicate 12 0 ++
    bareUnit 99 ([41, 3] ++ bareUnit 227 [41, 0] 102 ++ [114, 0, 0, 0, 0] ++ [41, 1, 114, 0, 0, 0, 0]) 109

/-- A listing whose body has one function inside a tuple and one beside it. -/
def nestedListing : String :=
  "m.pyc (Python 3.11)\n[Code]\n    Object Name: <module>\n    [Constants]\n        (\n            [Code]\n" ++
    "                Object Name: f\n        )\n        [Code]\n            Object Name: g\n"

theorem exists_of_toOption {ε α β : Type} {result : Except ε α} {view : α → β} {seen : β}
    (known : result.toOption.map view = some seen) : ∃ a, result = .ok a ∧ view a = seen := by
  cases result with
  | error fault => cases known
  | ok a => exact ⟨a, rfl, Option.some.inj known⟩

/-- A shared function is twice a child of the body, and all the same stands before it. -/
theorem wellFounded_of_read_shared :
    (∃ m, Artifact.read sharedArtifact = .ok m ∧ m.units.map CodeUnit.children = [[], [0, 0]] ∧ m.WellFounded) ∧
    (∃ loaded, Listing.read nestedListing = .ok loaded ∧
      loaded.module.units.map CodeUnit.children = [[], [], [1]] ∧ loaded.module.WellFounded ∧
      loaded.slices.length = loaded.module.units.length) := by
  have artifact : (Artifact.read sharedArtifact).toOption.map (fun m => m.units.map CodeUnit.children) =
      some [[], [0, 0]] := by decide +kernel
  have listing : (Listing.read nestedListing).toOption.map (fun l => l.module.units.map CodeUnit.children) =
      some [[], [], [1]] := by decide +kernel
  obtain ⟨m, read, children⟩ := exists_of_toOption artifact
  obtain ⟨loaded, listed, listedChildren⟩ := exists_of_toOption listing
  exact ⟨⟨m, read, children, wellFounded_of_read.1 _ m read⟩,
    ⟨loaded, listed, listedChildren, wellFounded_of_read.2 _ loaded listed⟩⟩

end SourceRecovery
