/-
Module: SourceRecovery.Proofs.ArtifactReading
Layer: Proofs
Purpose: An artifact that is written from a plan is read as the units of the plan, in the layout of every
  version that can be read. Positions of units are given out while the stream is read, so the readers are
  followed with the units that are there already.
Imports: SourceRecovery.Proofs.ArtifactWriting, SourceRecovery.Proofs.ObjectReading
Trusted boundary: none
Main exports: ObjectStream.encodes_writeValue, ObjectStream.readObject_writeConst, Artifact.read_write
Open obligations: none
-/
import SourceRecovery.Proofs.ArtifactWriting
import SourceRecovery.Proofs.ObjectReading

namespace SourceRecovery

/-! ### Values -/

namespace ObjectStream

open Value (AllStorable PairsStorable depthOfItems depthOfPairs)

/-- An object without numbers inside comes before a row without numbers. -/
theorem Items.cons_plain {part : Encoding} {table : Table} {v : Value} {items : List Value}
    {bytes more : List UInt8} (first : part table v bytes []) (rest : Items part table items more []) :
    Items part table (v :: items) (bytes ++ more) [] := by
  have behind : Items part (table ++ ([] : List Value).map some) items more [] := by
    rw [List.map_nil, List.append_nil]
    exact rest
  exact Items.cons first behind

/-- A row of objects that fits is an object. -/
theorem encodes_writeRow {kind : Char} {make : List Value → Value} (isRow : Row kind make)
    {items : List Value} {parts : List UInt8} {room : Nat} {table : Table}
    (size : items.length < 2 ^ 31) (written : Items (Encodes room) table items parts []) :
    Encodes (room + 1) table (make items) (writeRow kind items.length parts) [] := by
  apply Object.plain
  exact Contents.row isRow size written

mutual

/-- The object of a value is an encoding of it, as deep as the value, that numbers nothing. -/
theorem encodes_writeValue : ∀ {v : Value} {room : Nat}, v.Storable → v.depth ≤ room →
    ∀ table : Table, Encodes room table v (writeValue v) []
  | .none, room + 1, _, _, _ => Object.plain (.scalar .none)
  | .bool true, room + 1, _, _, _ => Object.plain (.scalar .true)
  | .bool false, room + 1, _, _, _ => Object.plain (.scalar .false)
  | .ellipsis, room + 1, _, _, _ => Object.plain (.scalar .ellipsis)
  | .int n, room + 1, _, _, _ => Object.plain (.scalar (.long n))
  | .float x, room + 1, _, _, _ => Object.plain (.scalar (.float x))
  | .complex re im, room + 1, _, _, _ => Object.plain (.scalar (.complex re im))
  | .str s, room + 1, size, _, _ => Object.plain (.scalar (.text 'u' s (by simp) size))
  | .bytes bs, room + 1, size, _, _ => Object.plain (.scalar (.bytes bs size))
  | .tuple items, room + 1, storable, deep, table =>
      encodes_writeRow .tuple storable.1
        (items_writeValues storable.2 (Nat.le_of_succ_le_succ deep) table)
  | .list items, room + 1, storable, deep, table =>
      encodes_writeRow .list storable.1
        (items_writeValues storable.2 (Nat.le_of_succ_le_succ deep) table)
  | .set items, room + 1, storable, deep, table =>
      encodes_writeRow .set storable.1
        (items_writeValues storable.2 (Nat.le_of_succ_le_succ deep) table)
  | .frozenset items, room + 1, storable, deep, table =>
      encodes_writeRow .frozenset storable.1
        (items_writeValues storable.2 (Nat.le_of_succ_le_succ deep) table)
  | .dict pairs, room + 1, storable, deep, table => by
      have written := items_writePairs storable.2 (Nat.le_of_succ_le_succ deep) table
      apply Object.plain
      exact Contents.dict storable.1 written

/-- The objects of a row of values are encodings of them. -/
theorem items_writeValues : ∀ {items : List Value} {room : Nat}, AllStorable items →
    depthOfItems items ≤ room → ∀ table : Table,
      Items (Encodes room) table items (writeValues items) []
  | [], _, _, _, table => Items.nil table
  | _ :: _, _, storable, deep, table => by
      obtain ⟨first, later⟩ := Nat.max_le.mp deep
      have here := encodes_writeValue storable.1 first table
      have behind := items_writeValues storable.2 later table
      exact Items.cons_plain here behind

/-- The objects of keys and values in turn are encodings of them. -/
theorem items_writePairs : ∀ {pairs : List (Value × Value)} {room : Nat}, PairsStorable pairs →
    depthOfPairs pairs ≤ room → ∀ table : Table,
      Items (Encodes room) table (entries pairs) (writePairs pairs) []
  | [], _, _, _, table => Items.nil table
  | (_, _) :: _, _, storable, deep, table => by
      obtain ⟨first, others⟩ := Nat.max_le.mp deep
      obtain ⟨second, later⟩ := Nat.max_le.mp others
      have key := encodes_writeValue storable.1 first table
      have value := encodes_writeValue storable.2.1 second table
      have behind := items_writePairs storable.2.2 later table
      exact Items.cons_plain key (Items.cons_plain value behind)

end

/-! ### Fields of a unit -/

/-- The reader takes the bytes as the value and changes nothing else. -/
def Takes (object : StreamReader Value) (bytes : List UInt8) (v : Value) : Prop :=
  ∀ (tail : List UInt8) (refs : Table) (units : List CodeUnit),
    object ⟨bytes ++ tail, refs, units⟩ = .ok (v, ⟨tail, refs, units⟩)

/-- The object of a value is taken as the value. -/
theorem takes_writeValue (version : Version) {v : Value} {room : Nat} (storable : v.Storable)
    (deep : v.depth ≤ room) : Takes (readObject version room) (writeValue v) v := by
  intro tail refs units
  have encoded := encodes_writeValue storable deep refs
  have back := (reads_encodes version room).value encoded tail units
  rw [List.map_nil, List.append_nil] at back
  exact back

section Fields

variable {object : StreamReader Value}

theorem readBytes_taken {bytes bs : List UInt8} (taken : Takes object bytes (.bytes bs)) (what : String)
    (tail : List UInt8) (refs : Table) (units : List CodeUnit) :
    readBytes object what ⟨bytes ++ tail, refs, units⟩ = .ok (bs, ⟨tail, refs, units⟩) := by
  rw [readBytes, bind_of_ok (taken tail refs units)]
  rfl

theorem readString_taken {bytes : List UInt8} {s : String} (taken : Takes object bytes (.str s))
    (what : String) (tail : List UInt8) (refs : Table) (units : List CodeUnit) :
    readString object what ⟨bytes ++ tail, refs, units⟩ = .ok (s, ⟨tail, refs, units⟩) := by
  rw [readString, bind_of_ok (taken tail refs units)]
  rfl

/-- Texts in a row are all texts. -/
theorem textsOf_map (what : String) (names : List String) (s : StreamState) :
    textsOf what (names.map .str) s = .ok (names, s) := by
  induction names with
  | nil =>
      rfl
  | cons name names ih =>
      rw [List.map_cons, textsOf, bind_of_ok ih]
      rfl

theorem readNames_taken {bytes : List UInt8} {names : List String}
    (taken : Takes object bytes (.ofNames names)) (what : String) (tail : List UInt8) (refs : Table)
    (units : List CodeUnit) :
    readNames object what ⟨bytes ++ tail, refs, units⟩ = .ok (names, ⟨tail, refs, units⟩) := by
  have row : readTuple object what ⟨bytes ++ tail, refs, units⟩ =
      .ok (names.map .str, ⟨tail, refs, units⟩) := by
    rw [readTuple, bind_of_ok (taken tail refs units)]
    rfl
  rw [readNames, bind_of_ok row]
  exact textsOf_map what names _

/-- Of names that are all of one kind, those with a bit are all or none. -/
theorem namesWith_replicate (bit kind : UInt8) (names : List String) :
    namesWith bit names (List.replicate names.length kind) = if kind &&& bit != 0 then names else [] := by
  induction names with
  | nil =>
      split <;> rfl
  | cons name names ih =>
      unfold namesWith at ih ⊢
      rw [List.length_cons, List.replicate_succ, List.zip_cons_cons, List.filter_cons]
      split
      · rename_i isSet
        rw [List.map_cons, ih, if_pos isSet]
      · rename_i notSet
        rw [ih, if_neg notSet]

/-- The variables of a unit are its own in either layout. -/
theorem readVariables_writeVariables (version : Version) {fields : UnitFields}
    (names : Takes object (writeValue (.ofNames fields.varNames)) (.ofNames fields.varNames))
    (kinds : Takes object (writeValue (.bytes (List.replicate fields.varNames.length 0x20)))
      (.bytes (List.replicate fields.varNames.length 0x20)))
    (empty : Takes object (writeValue (.ofNames [])) (.ofNames []))
    (tail : List UInt8) (refs : Table) (units : List CodeUnit) :
    readVariables object version ⟨writeVariables version fields ++ tail, refs, units⟩ =
      .ok (⟨fields.varNames, [], []⟩, ⟨tail, refs, units⟩) := by
  unfold readVariables writeVariables
  cases version.isModern with
  | true =>
      have readLocals := readNames_taken names "co_localsplusnames"
        (writeValue (.bytes (List.replicate fields.varNames.length 0x20)) ++ tail) refs units
      have readKinds := readBytes_taken kinds "co_localspluskinds" tail refs units
      simp only [if_true, List.append_assoc, bind_of_ok readLocals, bind_of_ok readKinds,
        List.length_replicate, namesWith_replicate]
      rfl
  | false =>
      have readOwn := readNames_taken names "co_varnames"
        (writeValue (.ofNames []) ++ (writeValue (.ofNames []) ++ tail)) refs units
      have readFree := readNames_taken empty "co_freevars" (writeValue (.ofNames []) ++ tail) refs units
      have readCell := readNames_taken empty "co_cellvars" tail refs units
      simp only [Bool.false_eq_true, if_false, List.append_assoc, bind_of_ok readOwn, bind_of_ok readFree,
        bind_of_ok readCell]
      rfl

/-- A word that fits is read, and the reading goes on behind it. -/
theorem readWord_bind {β : Type} (n : UInt32) (next : UInt32 → StreamReader β) (tail : List UInt8)
    (refs : Table) (units : List CodeUnit) :
    (readWord >>= next) ⟨littleBytes 4 n.toNat ++ tail, refs, units⟩ = next n ⟨tail, refs, units⟩ := by
  have word := readWord_littleBytes tail refs units n.toNat_lt
  rw [bind_of_ok word, UInt32.ofNat_toNat]

/-- The fields of a unit are read back from either layout, around constants that are read as `values` and
    leave the units `after`. -/
theorem readUnit_written (version : Version) {fields : UnitFields} {room : Nat}
    (takes : ∀ {v : Value}, v.Storable → v.depth ≤ room → Takes object (writeValue v) v)
    (storable : fields.Storable) (namesDeep : (Value.ofNames fields.names).depth ≤ room)
    (varNamesDeep : (Value.ofNames fields.varNames).depth ≤ room) {row : List UInt8} {refs : Table}
    {units after : List CodeUnit} {values : List Value}
    (constants : ∀ tail : List UInt8, object ⟨row ++ tail, refs, units⟩ =
      .ok (.tuple values, ⟨tail, refs, after⟩)) (tail : List UInt8) :
    readUnit object version
      ⟨writeCounts version fields ++ (writeValue (.bytes fields.code) ++ (row
        ++ (writeValue (.ofNames fields.names) ++ (writeVariables version fields
        ++ (writeEnding version fields ++ tail))))), refs, units⟩ =
      .ok (after.length, ⟨tail, refs, after ++
        [{ name := fields.name
           qualname := fields.name
           filename := "module.py"
           version
           firstLine := 1
           argCount := fields.argCount
           stackSize := fields.stackSize
           flags := fields.flags
           code := fields.code
           codeSize := fields.code.length
           instructions := Instruction.decode version fields.code
           consts := values
           names := fields.names
           varNames := fields.varNames
           children := values.filterMap Value.code? }]⟩) := by
  have positive : 1 ≤ room := Nat.le_trans (Nat.le_add_left 1 _) namesDeep
  have code := readBytes_taken (takes storable.code positive) "co_code"
  have names := readNames_taken (takes storable.names namesDeep) "co_names"
  have size : fields.varNames.length < 2 ^ 31 := by
    have row := storable.varNames.1
    rw [List.length_map] at row
    exact row
  have varCount : fields.varNames.length < 2 ^ 32 := Nat.lt_trans size (by decide)
  have fits : (Value.bytes (List.replicate fields.varNames.length 0x20)).Storable := by
    rw [Value.Storable, List.length_replicate]
    exact size
  have nothing : (Value.ofNames []).Storable := ⟨by decide, trivial⟩
  have fileName : (Value.str "module.py").Storable := by
    rw [Value.Storable]
    decide
  have noBytes : (Value.bytes []).Storable := by
    rw [Value.Storable]
    decide
  have tables := readVariables_writeVariables version (takes storable.varNames varNamesDeep)
    (takes fits positive) (takes nothing positive)
  have file := readString_taken (takes fileName positive) "co_filename"
  have name := readString_taken (takes storable.name positive) "co_name"
  have qualname := readString_taken (takes storable.name positive) "co_qualname"
  have lines := takes noBytes positive
  have consts (tail : List UInt8) : readTuple object "co_consts" ⟨row ++ tail, refs, units⟩ =
      .ok (values, ⟨tail, refs, after⟩) := by
    rw [readTuple, bind_of_ok (constants tail)]
    rfl
  have zero : littleBytes 4 0 = littleBytes 4 (0 : UInt32).toNat := rfl
  have one : littleBytes 4 1 = littleBytes 4 (1 : UInt32).toNat := rfl
  unfold readUnit writeCounts writeEnding
  cases modern : version.isModern with
  | true =>
      simp only [zero, one, if_true, List.nil_append, List.append_assoc, readWord_bind]
      rw [bind_of_ok (code _ refs units), bind_of_ok (consts _), bind_of_ok (names _ refs after),
        bind_of_ok (tables _ refs after), bind_of_ok (file _ refs after), bind_of_ok (name _ refs after),
        bind_of_ok (qualname _ refs after), readWord_bind, bind_of_ok (lines _ refs after),
        bind_of_ok (lines _ refs after)]
      rfl
  | false =>
      simp only [zero, one, Bool.false_eq_true, if_false, List.nil_append, List.append_assoc,
        readWord_bind]
      rw [bind_of_ok (readWord_littleBytes _ refs units varCount), readWord_bind, readWord_bind,
        bind_of_ok (code _ refs units), bind_of_ok (consts _), bind_of_ok (names _ refs after),
        bind_of_ok (tables _ refs after), bind_of_ok (file _ refs after), bind_of_ok (name _ refs after),
        bind_of_ok (pure_ok fields.name), readWord_bind, bind_of_ok (lines _ refs after)]
      rfl

end Fields

/-! ### Planned constants -/

open PlannedConst (unitCounts valuesAt childrenAt unitsOf depthOfAll unitAt)

mutual

/-- A constant brings as many units as are counted. -/
theorem length_units (version : Version) : ∀ (c : PlannedConst) (first : Nat),
    (c.units version first).length = c.unitCount
  | .value _, _ => rfl
  | .unit fields consts, first => by
      rw [PlannedConst.units, List.length_append, length_unitsOf version consts first]
      rfl

/-- A row of constants brings as many units as are counted. -/
theorem length_unitsOf (version : Version) : ∀ (consts : List PlannedConst) (first : Nat),
    (unitsOf version first consts).length = unitCounts consts
  | [], _ => rfl
  | c :: rest, first => by
      rw [unitsOf, List.length_append, length_units version c first,
        length_unitsOf version rest (first + c.unitCount)]
      rfl

end

/-- A value that can be written is no unit. -/
theorem code?_of_storable {v : Value} (storable : v.Storable) : v.code? = none := by
  cases v with
  | code unit => exact storable.elim
  | _ => rfl

/-- The units among what stands for a row of constants are those that it brings directly. -/
theorem filterMap_code?_valuesAt : ∀ {consts : List PlannedConst} (first : Nat),
    PlannedConst.AllStorable consts → (valuesAt first consts).filterMap Value.code? = childrenAt first consts
  | [], _, _ => rfl
  | .value v :: rest, first, storable => by
      have later := filterMap_code?_valuesAt first storable.2
      rw [valuesAt, PlannedConst.valueAt, List.filterMap_cons_none (code?_of_storable storable.1)]
      exact later
  | .unit fields consts :: rest, first, storable => by
      have here : (Value.code (first + unitCounts consts)).code? = some (first + unitCounts consts) := rfl
      have later := filterMap_code?_valuesAt (first + (PlannedConst.unit fields consts).unitCount) storable.2
      rw [valuesAt, PlannedConst.valueAt, List.filterMap_cons_some here, later]
      rfl

/-- The object of a constant has a byte at least. -/
theorem length_writeConst_pos (version : Version) {c : PlannedConst} (storable : c.Storable) :
    0 < (writeConst version c).length := by
  cases c with
  | value v =>
      have encoded := encodes_writeValue storable (Nat.le_refl v.depth) []
      obtain ⟨byte, more, starts, _⟩ := (reads_encodes version v.depth).opens encoded
      rw [writeConst, starts]
      exact Nat.succ_pos _
  | unit fields consts =>
      exact Nat.succ_pos _

/-- A row of constants has a byte at least for each of them, so its length is believed. -/
theorem length_le_length_writeConsts (version : Version) : ∀ {consts : List PlannedConst},
    PlannedConst.AllStorable consts → consts.length ≤ (writeConsts version consts).length
  | [], _ => Nat.le_refl _
  | c :: rest, storable => by
      have first := length_writeConst_pos version storable.1
      have later := length_le_length_writeConsts version storable.2
      rw [writeConsts, List.length_append, List.length_cons]
      omega

/-- An object of a kind other than a reference is read by its contents. -/
theorem readWith_writeObject {object : StreamReader Value} {version : Version} {kind : Char}
    (small : kind.toNat < 128) (notReference : kind ≠ 'r') (contents : List UInt8) (refs : Table)
    (units : List CodeUnit) :
    readWith object version ⟨writeObject kind contents, refs, units⟩ =
      readContents object version kind ⟨contents, refs, units⟩ := by
  have first := readByte_littleBytes contents refs units (n := kind.toNat) (by omega)
  have isKind : Char.ofNat (kind.toNat % 128) = kind := by
    rw [Nat.mod_eq_of_lt small, Char.ofNat_toNat]
  rw [readWith, writeObject, bind_of_ok first, isKind, if_pos small, if_neg notReference]

/-- A row of constants is read as a tuple when its parts are read. -/
theorem readObject_row {version : Version} {room : Nat} {consts : List PlannedConst}
    (storable : PlannedConst.AllStorable consts) (size : consts.length < 2 ^ 31) {refs : Table}
    {units after : List CodeUnit} {values : List Value} {tail : List UInt8}
    (parts : readMany (readObject version room) consts.length
      ⟨writeConsts version consts ++ tail, refs, units⟩ = .ok (values, ⟨tail, refs, after⟩)) :
    readObject version (room + 1)
      ⟨writeRow '(' consts.length (writeConsts version consts) ++ tail, refs, units⟩ =
        .ok (.tuple values, ⟨tail, refs, after⟩) := by
  have held : consts.length ≤ (writeConsts version consts ++ tail).length := by
    rw [List.length_append]
    exact Nat.le_trans (length_le_length_writeConsts version storable) (Nat.le_add_right _ _)
  have length := readLength_littleBytes (writeConsts version consts ++ tail) refs units size held
  have bytes : writeRow '(' consts.length (writeConsts version consts) ++ tail =
      writeObject '(' (littleBytes 4 consts.length ++ (writeConsts version consts ++ tail)) := by
    simp only [writeRow, writeObject, List.append_assoc]
  rw [readObject, bytes, readWith_writeObject (by decide) (by decide)]
  simp only [readContents, bind_of_ok length, bind_of_ok parts, pure_ok]

/-- The bytes of a unit with those that follow, field by field. -/
theorem append_writeConst_unit (version : Version) (fields : UnitFields) (consts : List PlannedConst)
    (tail : List UInt8) :
    writeConst version (.unit fields consts) ++ tail =
      writeObject 'c' (writeCounts version fields ++ (writeValue (.bytes fields.code)
        ++ (writeRow '(' consts.length (writeConsts version consts)
        ++ (writeValue (.ofNames fields.names) ++ (writeVariables version fields
        ++ (writeEnding version fields ++ tail)))))) := by
  simp only [writeConst, writeObject, List.append_assoc]

mutual

/-- The object of a constant is read as what stands for it, and its units come to those that are there. -/
theorem readObject_writeConst (version : Version) : ∀ {c : PlannedConst} {room : Nat}, c.Storable →
    c.depth ≤ room → ∀ (tail : List UInt8) (refs : Table) (units : List CodeUnit),
      readObject version room ⟨writeConst version c ++ tail, refs, units⟩ =
        .ok (c.valueAt units.length, ⟨tail, refs, units ++ c.units version units.length⟩)
  | .value v, room, storable, deep, tail, refs, units => by
      have taken := takes_writeValue version storable deep tail refs units
      rw [PlannedConst.units, List.append_nil]
      exact taken
  | .unit fields consts, room + 1, storable, deep, tail, refs, units => by
      obtain ⟨fieldsStorable, size, constsStorable⟩ := storable
      obtain ⟨tables, row⟩ := Nat.max_le.mp (Nat.le_of_succ_le_succ deep)
      obtain ⟨names, varNames⟩ := Nat.max_le.mp tables
      -- The row of constants lies one level below the unit, and the constants one level below the row.
      cases room with
      | zero =>
          exact absurd row (Nat.not_succ_le_zero _)
      | succ room =>
          have constants (tail : List UInt8) := readObject_row constsStorable size
            (readMany_writeConsts version constsStorable (Nat.le_of_succ_le_succ row) tail refs units)
          have whole := readUnit_written version (takes_writeValue version) fieldsStorable names varNames
            constants tail
          rw [List.length_append, length_unitsOf, filterMap_code?_valuesAt _ constsStorable,
            List.append_assoc] at whole
          rw [readObject, append_writeConst_unit, readWith_writeObject (by decide) (by decide)]
          simp only [readContents, bind_of_ok whole, pure_ok]
          rfl

/-- The objects of a row of constants are read one after the other. -/
theorem readMany_writeConsts (version : Version) : ∀ {consts : List PlannedConst} {room : Nat},
    PlannedConst.AllStorable consts → depthOfAll consts ≤ room →
    ∀ (tail : List UInt8) (refs : Table) (units : List CodeUnit),
      readMany (readObject version room) consts.length ⟨writeConsts version consts ++ tail, refs, units⟩ =
        .ok (valuesAt units.length consts, ⟨tail, refs, units ++ unitsOf version units.length consts⟩)
  | [], _, _, _, tail, refs, units => by
      rw [unitsOf, List.append_nil]
      rfl
  | c :: rest, room, storable, deep, tail, refs, units => by
      obtain ⟨first, later⟩ := Nat.max_le.mp deep
      have here := readObject_writeConst version storable.1 first (writeConsts version rest ++ tail) refs units
      have behind := readMany_writeConsts version storable.2 later tail refs
        (units ++ c.units version units.length)
      rw [List.length_append, length_units] at behind
      rw [List.length_cons, readMany, writeConsts, List.append_assoc, bind_of_ok here, bind_of_ok behind,
        List.append_assoc]
      rfl

end

end ObjectStream

/-! ### Artifacts -/

namespace Artifact

open PlannedConst (unitCounts)

/-- The header names the version. -/
theorem readVersion_write {version : Version} (supported : version ∈ supportedVersions)
    (fields : UnitFields) (consts : List PlannedConst) :
    readVersion (write version fields consts) = .ok version := by
  simp only [supportedVersions, List.mem_cons, List.not_mem_nil, or_false] at supported
  rcases supported with rfl | rfl | rfl | rfl | rfl
  all_goals
    rfl

/-- The body of an artifact follows its header. -/
theorem drop_write (version : Version) (fields : UnitFields) (consts : List PlannedConst) :
    (write version fields consts).drop headerLength =
      ObjectStream.writeConst version (.unit fields consts) :=
  rfl

theorem headerLength_le_length_write (version : Version) (fields : UnitFields)
    (consts : List PlannedConst) : headerLength ≤ (write version fields consts).length := by
  have header : (ObjectStream.littleBytes 2 (magicOf version) ++ [13, 10] ++ List.replicate 12 0).length =
      headerLength := rfl
  rw [write, List.length_append, header]
  exact Nat.le_add_right _ _

/-- An artifact that is written from a plan is read as the plan says, in the layout of every version: its
    units are those of the plan, every one after those nested in it and the module body last. -/
theorem read_write {version : Version} (supported : version ∈ supportedVersions) {fields : UnitFields}
    {consts : List PlannedConst} (storable : (PlannedConst.unit fields consts).Storable)
    (deep : (PlannedConst.unit fields consts).depth ≤ ObjectStream.maxDepth) :
    read (write version fields consts) =
      .ok { version
            units := (PlannedConst.unit fields consts).units version 0
            root := unitCounts consts } ∧
    ((PlannedConst.unit fields consts).units version 0).length = unitCounts consts + 1 := by
  constructor
  · have body := ObjectStream.readObject_writeConst version storable deep [] [] []
    have long := Nat.not_lt.mpr (headerLength_le_length_write version fields consts)
    rw [List.append_nil, List.nil_append] at body
    rw [read, if_neg long, readVersion_write supported, drop_write]
    simp only [readBody, StateT.run, body, PlannedConst.valueAt, List.length_nil, Nat.zero_add]
  · exact ObjectStream.length_units version (.unit fields consts) 0

/-- The body of a module with a pair, and with a function that has a table and a function of its own. -/
def nestedFields : UnitFields where
  name := "<module>"
  stackSize := 3
  code := [100, 0, 90, 0, 100, 1, 90, 1, 100, 2, 83, 0]
  names := ["PAIR", "update"]

/-- Its constants. -/
def nestedConsts : List PlannedConst :=
  [.value (.tuple [.int 1, .int (-2)]),
   .unit { name := "update", argCount := 1, flags := 0x43, stackSize := 2, code := [116, 0, 83, 0]
           names := ["refresh"], varNames := ["self"] }
     [.value (.dict [(.str "level", .float ⟨0x3fe0000000000000⟩)]), .unit { name := "<lambda>" } []],
   .value .none]

/-- Names that fit are a row that fits. -/
theorem storable_ofNames {names : List String} (size : names.length < 2 ^ 31)
    (fit : ∀ name ∈ names, (Text.Utf8.encode name).length < 2 ^ 31) : (Value.ofNames names).Storable := by
  have all : Value.AllStorable (names.map .str) := by
    clear size
    induction names with
    | nil =>
        exact trivial
    | cons name names ih =>
        exact ⟨fit name (by simp), ih fun other member => fit other (by simp [member])⟩
  refine ⟨?_, all⟩
  rw [List.length_map]
  exact size

theorem storable_nested : (PlannedConst.unit nestedFields nestedConsts).Storable := by
  have fits (fields : UnitFields)
      (small : (Text.Utf8.encode fields.name).length < 2 ^ 31 ∧ fields.code.length < 2 ^ 31
        ∧ (fields.names.length < 2 ^ 31 ∧ ∀ name ∈ fields.names, (Text.Utf8.encode name).length < 2 ^ 31)
        ∧ fields.varNames.length < 2 ^ 31
        ∧ ∀ name ∈ fields.varNames, (Text.Utf8.encode name).length < 2 ^ 31) : fields.Storable :=
    ⟨small.1, small.2.1, storable_ofNames small.2.2.1.1 small.2.2.1.2,
      storable_ofNames small.2.2.2.1 small.2.2.2.2⟩
  have key : (Text.Utf8.encode "level").length < 2 ^ 31 := by decide
  have pair : (Value.tuple [.int 1, .int (-2)]).Storable := ⟨by decide, trivial, trivial, trivial⟩
  have table : (Value.dict [(.str "level", .float ⟨0x3fe0000000000000⟩)]).Storable :=
    ⟨List.pairwise_singleton _ _, key, trivial, trivial⟩
  have innermost : (PlannedConst.unit { name := "<lambda>" } []).Storable :=
    ⟨fits _ (by decide), by decide, trivial⟩
  refine ⟨fits _ (by decide), by decide, pair, ?_, trivial, trivial⟩
  exact ⟨fits _ (by decide), by decide, table, innermost, trivial⟩

/-- The functions inside come first, each before the one around it. -/
theorem read_write_nested :
    (PlannedConst.unit nestedFields nestedConsts).depth ≤ ObjectStream.maxDepth ∧
    read (write ⟨3, 8⟩ nestedFields nestedConsts) =
      .ok ⟨⟨3, 8⟩, (PlannedConst.unit nestedFields nestedConsts).units ⟨3, 8⟩ 0, 2⟩ ∧
    read (write ⟨3, 11⟩ nestedFields nestedConsts) =
      .ok ⟨⟨3, 11⟩, (PlannedConst.unit nestedFields nestedConsts).units ⟨3, 11⟩ 0, 2⟩ := by
  have deep : (PlannedConst.unit nestedFields nestedConsts).depth ≤ ObjectStream.maxDepth := by decide
  refine ⟨deep, ?_, ?_⟩
  · exact (read_write (by decide) storable_nested deep).1
  · exact (read_write (by decide) storable_nested deep).1

end Artifact

end SourceRecovery
