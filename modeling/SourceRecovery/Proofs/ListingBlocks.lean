/-
Module: SourceRecovery.Proofs.ListingBlocks
Layer: Proofs
Purpose: The blocks of a listing. The writer nests the block of a unit among the constants of the unit that
  holds it, and the reader finds the end of a block by its margin alone, so every reader is followed along
  the lines of one block at any column, with lines behind it that do not stand further in.
Imports: SourceRecovery.Proofs.ListingLines
Trusted boundary: none
Main exports: Listing.Spans, Listing.Listable, Listing.listed, Listing.readsUnit_blockLines
Open obligations: none
-/
import SourceRecovery.Proofs.ListingLines

namespace SourceRecovery.Listing

open Text

/-! ### Modules that have a listing -/

/-- The text keeps its form at the end of a line: no line feed in it and no white space at its ends. -/
structure Inline (s : String) : Prop where
  unbroken : '\n' ∉ s.toList
  trimmed : Text.trim s = s

/-- A unit whose listing can be read: names fit on their lines, offsets fit in their column, and a constant
    that is no unit reads back from its literal. -/
structure ListableUnit (u : CodeUnit) : Prop where
  filename : Inline u.filename
  name : Inline u.name
  qualname : Inline u.qualname
  names : ∀ name ∈ u.names, '\n' ∉ name.toList
  offsets : ∀ ins ∈ u.instructions, ins.offset < 10000000
  consts : ∀ value ∈ u.consts, value.code? = none → value.Restorable
  children : u.children = u.consts.filterMap Value.code?

/-- The positions from `first` up to `stop` are those of the trees below `children`, one behind the other;
    `spans` tells which positions make up the tree of one of them. -/
def Tiles (spans : (first child : Nat) → Prop) : (children : List Nat) → (first stop : Nat) → Prop
  | [], first, stop => first = stop
  | child :: rest, first, stop => spans first child ∧ Tiles spans rest (child + 1) stop

/-- The positions from `first` up to `position` are, in post-order, those of the tree of the unit at
    `position`, which is at most `levels` levels deep. A unit has the units among its constants below it. -/
def Spans (units : List CodeUnit) : (levels first position : Nat) → Prop
  | 0, first, position =>
    ∃ u, units[position]? = some u ∧ Tiles (fun _ _ => False) (u.consts.filterMap Value.code?) first position
  | levels + 1, first, position =>
    ∃ u, units[position]? = some u ∧
      Tiles (Spans units levels) (u.consts.filterMap Value.code?) first position

/-- The unit at the top of a tree, and the units right below it: each is the top of a tree with fewer levels,
    and its block stands among the lines of the constants. -/
theorem Spans.exists_unit {units : List CodeUnit} {levels first position : Nat}
    (spans : Spans units levels first position) :
    ∃ (u : CodeUnit) (nested : Nat → Option (List String)) (below : (first child : Nat) → Prop),
      units[position]? = some u ∧ blockLines units levels position = unitLines nested units u ∧
        Tiles below (u.consts.filterMap Value.code?) first position ∧
        ∀ start child, below start child → ∃ less, less < levels ∧
          nested child = some (blockLines units less child) ∧ Spans units less start child := by
  cases levels with
  | zero =>
      obtain ⟨u, here, tiles⟩ := spans
      refine ⟨u, fun _ => none, fun _ _ => False, here, ?_, tiles, fun _ _ impossible => impossible.elim⟩
      simp only [blockLines, here]
  | succ levels =>
      obtain ⟨u, here, tiles⟩ := spans
      refine ⟨u, fun child => some (blockLines units levels child), Spans units levels, here, ?_, tiles, ?_⟩
      · simp only [blockLines, here]
      · exact fun start child span => ⟨levels, Nat.lt_succ_self levels, rfl, span⟩

/-- A module whose listing can be read: its version is known, its units are one tree in post-order, and the
    file name of its body cannot be taken for a banner. -/
structure Listable (m : CompiledModule) : Prop where
  version : isKnownVersion m.version = true
  units : ∀ u ∈ m.units, ListableUnit u
  tree : Spans m.units maxLevels 0 m.root
  last : m.root + 1 = m.units.length
  noBanner : ∀ u, m.units[m.root]? = some u → Text.contains u.filename "(Python " = false

/-- A unit as its listing holds it: the key in an index, the first line and the instruction words are not
    part of a listing, and the size is where an instruction after the last one would start. -/
def listed (version : Version) (u : CodeUnit) : CodeUnit :=
  { u with
    path := ""
    version
    firstLine := 0
    code := []
    codeSize := (u.instructions.getLast?.map fun ins => ins.offset + 2).getD 0 }

/-! ### Blocks by their margin -/

/-- The lines that follow do not stand further in than `column`. -/
def Outside (column : Nat) (tail : List Line) : Prop :=
  ∀ line ∈ tail.head?, line.indent ≤ column

theorem Outside.nil (column : Nat) : Outside column [] := by
  simp [Outside]

theorem Outside.cons {column : Nat} {line : Line} (outside : line.indent ≤ column) (tail : List Line) :
    Outside column (line :: tail) := by
  simpa [Outside] using outside

theorem Outside.mono {column further : Nat} {tail : List Line} (outside : Outside column tail)
    (le : column ≤ further) : Outside further tail := fun line member =>
  Nat.le_trans (outside line member) le

/-- A block ends before the lines that follow it. -/
theorem nextInside?_outside {column : Nat} {s : ReaderState} (outside : Outside column s.rest) :
    nextInside? column s = none := by
  unfold nextInside?
  split
  · rename_i line rest here
    have notInside : ¬ column < line.indent := Nat.not_lt.mpr (outside line (by simp [here]))
    simp [notInside]
  · rfl

/-- A line further in belongs to the block. -/
theorem nextInside?_cons {column : Nat} {line : Line} (inside : column < line.indent)
    (rest : List Line) (units : List CodeUnit) (slices : List String) :
    nextInside? column ⟨line :: rest, units, slices⟩ = some (line, ⟨rest, units, slices⟩) := by
  simp [nextInside?, inside]

/-- What starts at a column further in belongs to the block. -/
theorem inside_row (column : Nat) {body : String} (solid : Solid body) :
    column < (row (column + 4) body).indent := by
  rw [row_indent (column + 4) solid]
  omega

/-- The title of a block as a line. -/
theorem row_code (column : Nat) : Solid "[Code]" ∧ (row column "[Code]").text = "[Code]" := by
  refine ⟨⟨'[', "Code]".toList, rfl, by decide⟩, ?_⟩
  rw [row_text]
  decide

/-- Lines moved in stand at a later column. -/
theorem map_row_moveIn (column further : Nat) (lines : List String) :
    (moveIn further lines).map (row column) = lines.map (row (column + further)) := by
  simp only [moveIn, List.map_map]
  apply List.map_congr_left
  intro line _
  exact row_repeated column further line

/-- A section at a column: its title, and its lines further in. -/
theorem map_row_sectionLines (column : Nat) (title : String) (lines : List String) :
    (sectionLines title lines).map (row column) =
      row column ("[" ++ title ++ "]") :: lines.map (row (column + 4)) := by
  rw [sectionLines, List.map_cons, map_row_moveIn]

/-- The lines of a block and what follows are told apart by their margin. -/
theorem span_rows {column further : Nat} (less : column < further) {lines : List String}
    (solid : ∀ line ∈ lines, Solid line) {tail : List Line} (outside : Outside column tail) :
    (lines.map (row further) ++ tail).takeWhile (fun line => decide (column < line.indent)) =
        lines.map (row further) ∧
      (lines.map (row further) ++ tail).dropWhile (fun line => decide (column < line.indent)) = tail := by
  have inside : ∀ line ∈ lines.map (row further), decide (column < line.indent) = true := by
    intro line member
    obtain ⟨body, source, rfl⟩ := List.mem_map.mp member
    simp [row_indent further (solid body source), less]
  rw [List.takeWhile_append_of_pos inside, List.dropWhile_append_of_pos inside]
  cases tail with
  | nil =>
      simp
  | cons line tail =>
      have notInside : ¬ column < line.indent := Nat.not_lt.mpr (outside line rfl)
      simp [notInside]

/-! ### Steps of the reader -/

section Steps

section Runs

variable {α β : Type} (s : ReaderState)

theorem pure_apply (a : α) : (pure a : Reader α) s = .ok (a, s) :=
  rfl

theorem bind_apply (first : Reader α) (next : α → Reader β) :
    (first >>= next) s = (first s).bind fun result => next result.1 result.2 :=
  rfl

theorem get_apply : (get : Reader ReaderState) s = .ok (s, s) :=
  rfl

theorem set_apply (next : ReaderState) : (set next : Reader PUnit) s = .ok (⟨⟩, next) :=
  rfl

theorem modify_apply (change : ReaderState → ReaderState) : (modify change : Reader PUnit) s = .ok (⟨⟩, change s) :=
  rfl

end Runs

variable {version : Version} {fuel room column : Nat} {draft : Draft} {s next : ReaderState} {line : Line}

theorem readFields_end (done : nextInside? column s = none) :
    readFields version (fuel + 1) room column draft s = .ok (draft, s) := by
  simp only [readFields, bind_apply, get_apply, pure_apply, Except.bind, done]

theorem readFields_field (inside : nextInside? column s = some (line, next))
    (field : sectionTitle? line.text = none) :
    readFields version (fuel + 1) room column draft s =
      readFields version fuel room column (draft.readField line.text) next := by
  simp only [readFields, bind_apply, get_apply, set_apply, Except.bind, inside, field]

theorem readFields_table {title : String} (inside : nextInside? column s = some (line, next))
    (found : sectionTitle? line.text = some title) (other : title ≠ "Constants") :
    readFields version (fuel + 1) room column draft s =
      readFields version fuel room column
        (draft.setTable title (next.rest.takeWhile fun entry => decide (line.indent < entry.indent)))
        { next with rest := next.rest.dropWhile fun entry => decide (line.indent < entry.indent) } := by
  simp only [readFields, bind_apply, get_apply, set_apply, Except.bind, inside, found, other, takeBlock, if_false]

theorem readFields_constants {consts : List Value} {after : ReaderState}
    (inside : nextInside? column s = some (line, next))
    (found : sectionTitle? line.text = some "Constants")
    (read : readConsts version fuel room line.indent next = .ok (consts, after)) :
    readFields version (fuel + 1) room column draft s =
      readFields version fuel room column { draft with unit := { draft.unit with consts } } after := by
  simp only [readFields, bind_apply, get_apply, set_apply, Except.bind, inside, found, read, if_true]

theorem readConsts_end (done : nextInside? column s = none) :
    readConsts version (fuel + 1) room column s = .ok ([], s) := by
  simp only [readConsts, bind_apply, get_apply, pure_apply, Except.bind, done]

theorem readConsts_cons {first : Value} {rest : List Value} {after final : ReaderState}
    (inside : nextInside? column s = some (line, next))
    (here : readConst version fuel room line next s = .ok (first, after))
    (behind : readConsts version fuel room column after = .ok (rest, final)) :
    readConsts version (fuel + 1) room column s = .ok (first :: rest, final) := by
  simp only [readConsts, bind_apply, get_apply, pure_apply, Except.bind, inside, here, behind]

theorem readConst_unit {position : Nat} {after : ReaderState} (opens : line.text = "[Code]")
    (read : readUnit version fuel room s = .ok (position, after)) :
    readConst version (fuel + 1) room line next s = .ok (.code position, after) := by
  simp only [readConst, opens, if_true, bind_apply, pure_apply, Except.bind, read]

theorem readConst_line (notUnit : line.text ≠ "[Code]") (single : container? line.text = none) :
    readConst version (fuel + 1) room line next s = .ok (valueOfLine line.text, next) := by
  simp only [readConst, notUnit, if_false, bind_apply, set_apply, pure_apply, Except.bind, single]

theorem readUnit_cons {rest : List Line} {units : List CodeUnit} {slices : List String}
    {final : ReaderState}
    (read : readFields version fuel room line.indent ⟨.empty "" version, none⟩ ⟨rest, units, slices⟩ =
      .ok (draft, final)) :
    ∃ slice, readUnit version (fuel + 1) (room + 1) ⟨line :: rest, units, slices⟩ =
      .ok (final.units.length, ⟨final.rest, final.units ++ [draft.finish], slice⟩) := by
  simp only [readUnit, bind_apply, get_apply, modify_apply, Except.bind, read, addUnit]
  exact ⟨_, rfl⟩

end Steps

/-! ### Fields and tables -/

/-- The unit under way with a field set to a text. -/
def withField (draft : Draft) (field : String × String) : Draft :=
  draft.setField field.1 (Chars.trim field.2.toList)

/-- Field lines are read one after the other. -/
theorem readFields_fieldLines {version : Version} {room column : Nat} {units : List CodeUnit}
    {slices : List String} {tail : List Line} :
    ∀ {entries : List (String × String)}, (∀ field ∈ entries, field.1 ∈ fieldKeys) →
      ∀ (fuel : Nat) (draft : Draft),
        readFields version (fuel + entries.length) room column draft
            ⟨(entries.map fieldLine).map (row (column + 4)) ++ tail, units, slices⟩ =
          readFields version fuel room column
            (entries.foldl withField draft) ⟨tail, units, slices⟩
  | [], _, fuel, draft => rfl
  | field :: entries, known, fuel, draft => by
      have here : field.1 ∈ fieldKeys := known field (by simp)
      obtain ⟨c, more, starts, solid, notBracket⟩ := exists_front_fieldLine here
      have inside := inside_row column ⟨c, more, starts, solid⟩
      have isField : sectionTitle? (row (column + 4) (fieldLine field)).text = none := by
        rw [row_text]
        exact sectionTitle?_trim starts solid notBracket
      rw [List.length_cons, ← Nat.add_assoc, List.map_cons, List.map_cons, List.cons_append,
        readFields_field (nextInside?_cons inside _ _ _) isField, row_text,
        readField_fieldLine draft here, List.foldl_cons]
      exact readFields_fieldLines (fun other member => known other (by simp [member])) fuel _

/-- The fields of a unit are read back. -/
theorem foldl_withField_fields {u : CodeUnit} (listable : ListableUnit u) (version : Version) :
    (fields u).foldl withField ⟨.empty "" version, none⟩ =
      Draft.mk { CodeUnit.empty "" version with
          filename := u.filename
          name := u.name
          argCount := u.argCount
          posOnlyCount := u.posOnlyCount
          kwOnlyCount := u.kwOnlyCount
          stackSize := u.stackSize
          flags := u.flags } (some u.qualname) := by
  have whole : ∀ {s : String}, Inline s → String.ofList (Chars.trim s.toList) = s :=
    fun inline => inline.trimmed
  simp only [fields, List.foldl_cons, List.foldl_nil, withField, Draft.setField, fieldNumber_toString,
    fieldFlags_flagDigits, whole listable.filename, whole listable.name, whole listable.qualname]

/-- The titles of the tables. -/
theorem sectionTitle?_table :
    ∀ title ∈ ["Names", "Var Names", "Free Vars", "Cell Vars", "Constants", "Disassembly"],
      sectionTitle? (Text.trim ("[" ++ title ++ "]")) = some title := by
  decide

theorem solid_sectionTitle (title : String) : Solid ("[" ++ title ++ "]") := by
  refine ⟨'[', title.toList ++ [']'], ?_, by decide⟩
  simp

/-- A table that holds no constants is read as one block. -/
theorem readFields_sectionLines {version : Version} {fuel room column : Nat} {draft : Draft}
    {units : List CodeUnit} {slices : List String} {tail : List Line} {title : String}
    (table : title ∈ ["Names", "Var Names", "Free Vars", "Cell Vars", "Disassembly"])
    {lines : List String} (solid : ∀ line ∈ lines, Solid line) (outside : Outside (column + 4) tail) :
    readFields version (fuel + 1) room column draft
        ⟨(sectionLines title lines).map (row (column + 4)) ++ tail, units, slices⟩ =
      readFields version fuel room column (draft.setTable title (lines.map (row (column + 8))))
        ⟨tail, units, slices⟩ := by
  have margin := row_indent (column + 4) (solid_sectionTitle title)
  have inside := inside_row column (solid_sectionTitle title)
  have found : sectionTitle? (row (column + 4) ("[" ++ title ++ "]")).text = some title := by
    rw [row_text]
    apply sectionTitle?_table
    revert table
    simp only [List.mem_cons, List.not_mem_nil]
    grind
  have other : title ≠ "Constants" := by
    rintro rfl
    revert table
    decide
  obtain ⟨taken, left⟩ := span_rows (by omega : column + 4 < column + 8) solid outside
  rw [map_row_sectionLines, List.cons_append,
    readFields_table (nextInside?_cons inside _ _ _) found other]
  simp only [margin, Nat.add_assoc, Nat.reduceAdd, taken, left]

/-! ### Constants -/

/-- The units before a position, as they are read. -/
def readUpTo (version : Version) (units : List CodeUnit) (position : Nat) : List CodeUnit :=
  (units.take position).map (listed version)

/-- The lines are a block that is read as the unit at `position`, at any column and before any lines that do
    not stand further in; the units from `first` on come to those that are there. -/
def ReadsUnit (version : Version) (units : List CodeUnit) (room first position : Nat)
    (lines : List String) : Prop :=
  ∀ (column fuel : Nat) (tail : List Line) (slices : List String),
    3 * lines.length ≤ fuel → Outside column tail →
      ∃ final, readUnit version fuel room
          ⟨lines.map (row column) ++ tail, readUpTo version units first, slices⟩ =
        .ok (position, ⟨tail, readUpTo version units (position + 1), final⟩)

/-- Every child has its part of the positions. -/
theorem Tiles.exists_spans {spans : (first child : Nat) → Prop} :
    ∀ {children : List Nat} {first stop : Nat}, Tiles spans children first stop →
      ∀ child ∈ children, ∃ start, spans start child
  | [], _, _, _, _, member => absurd member List.not_mem_nil
  | head :: rest, first, stop, tiles, child, member => by
      rcases List.mem_cons.mp member with here | behind
      · rw [here]
        exact ⟨first, tiles.1⟩
      · exact tiles.2.exists_spans child behind

/-- A unit among the constants is the value of its position. -/
theorem eq_code_of_code? {value : Value} {child : Nat} (isCode : value.code? = some child) :
    value = .code child := by
  cases value <;> simp [Value.code?] at isCode
  rw [isCode]

/-- A constant that is no unit has one line. -/
theorem constantLines_literal (nested : Nat → Option (List String)) {value : Value}
    (notCode : value.code? = none) : constantLines nested value = [value.literal] := by
  simp [constantLines, notCode]

/-- A unit among the constants has the lines of its block. -/
theorem constantLines_code {nested : Nat → Option (List String)} {child : Nat} {lines : List String}
    (written : nested child = some lines) : constantLines nested (.code child) = lines := by
  simp [constantLines, Value.code?, written]

/-- A literal starts with something else than white space. -/
theorem solid_literal {value : Value} (restorable : value.Restorable) : Solid value.literal := by
  obtain ⟨c, more, starts, opens⟩ := Literal.exists_front_write restorable
  exact ⟨c, more, by rw [Value.literal, String.toList_ofList, starts], opens.notBlank⟩

section Constants

variable {version : Version} {units : List CodeUnit} {room : Nat}
  {nested : Nat → Option (List String)} {spans : (first child : Nat) → Prop}

/-- The lines of constants start at their column. -/
theorem outside_constantLines
    (written : ∀ first child, spans first child → ∃ more, nested child = some ("[Code]" :: more))
    {values : List Value} (restorable : ∀ value ∈ values, value.code? = none → value.Restorable)
    {first stop : Nat} (tiles : Tiles spans (values.filterMap Value.code?) first stop)
    {column : Nat} {tail : List Line} (outside : Outside column tail) :
    Outside column ((values.flatMap (constantLines nested)).map (row column) ++ tail) := by
  cases values with
  | nil =>
      exact outside
  | cons value values =>
      have front : ∃ line more, constantLines nested value = line :: more ∧ Solid line := by
        cases isCode : value.code? with
        | none =>
            refine ⟨value.literal, [], constantLines_literal nested isCode, ?_⟩
            exact solid_literal (restorable value (by simp) isCode)
        | some child =>
            obtain ⟨start, span⟩ := tiles.exists_spans child (by simp [isCode])
            obtain ⟨more, lines⟩ := written start child span
            rw [eq_code_of_code? isCode]
            exact ⟨"[Code]", more, constantLines_code lines, '[', _, rfl, by decide⟩
      obtain ⟨line, more, lines, solid⟩ := front
      rw [List.flatMap_cons, lines, List.cons_append, List.map_cons, List.cons_append]
      apply Outside.cons
      rewrite [row_indent column solid]
      omega

/-- A literal is read as one constant. -/
theorem readConsts_literal {fuel column : Nat} {value : Value} {values : List Value} {tail : List Line}
    {before : List CodeUnit} {slices : List String} {final : ReaderState} (literal : value.Restorable)
    (rest : readConsts version (fuel + 1) room column ⟨tail, before, slices⟩ = .ok (values, final)) :
    readConsts version (fuel + 2) room column
        ⟨row (column + 4) value.literal :: tail, before, slices⟩ = .ok (value :: values, final) := by
  have notOpening := literal_not_opening literal
  have inside := inside_row column (solid_literal literal)
  refine readConsts_cons (nextInside?_cons inside _ _ _) ?_ rest
  rw [readConst_line, row_text, valueOfLine_literal literal]
  · intro isUnit
    rw [row_text] at isUnit
    exact notOpening (by simp [isUnit])
  · rw [row_text]
    exact container?_eq_none notOpening

/-- A block is read as one constant. -/
theorem readConsts_block {fuel column child : Nat} {values : List Value} {tail : List Line}
    {before : List CodeUnit} {slices : List String} {middle final : ReaderState}
    (unit : readUnit version fuel room ⟨row (column + 4) "[Code]" :: tail, before, slices⟩ =
      .ok (child, middle))
    (rest : readConsts version (fuel + 1) room column middle = .ok (values, final)) :
    readConsts version (fuel + 2) room column ⟨row (column + 4) "[Code]" :: tail, before, slices⟩ =
      .ok (.code child :: values, final) := by
  obtain ⟨solid, opens⟩ := row_code (column + 4)
  have inside := inside_row column solid
  exact readConsts_cons (nextInside?_cons inside _ _ _) (readConst_unit opens unit) rest

/-- The constants of a unit are read back when the units among them are. -/
theorem readConsts_constantLines
    (reads : ∀ first child, spans first child → ∃ more, nested child = some ("[Code]" :: more) ∧
      ReadsUnit version units room first child ("[Code]" :: more)) :
    ∀ {values : List Value} {first stop : Nat},
      (∀ value ∈ values, value.code? = none → value.Restorable) →
      Tiles spans (values.filterMap Value.code?) first stop →
      ∀ (column fuel : Nat) (tail : List Line) (slices : List String),
        3 * (values.flatMap (constantLines nested)).length + 2 ≤ fuel → Outside column tail →
          ∃ final, readConsts version fuel room column
              ⟨(values.flatMap (constantLines nested)).map (row (column + 4)) ++ tail,
                readUpTo version units first, slices⟩ =
            .ok (values, ⟨tail, readUpTo version units stop, final⟩) := by
  intro values
  -- Along the constants; a unit moves `first` behind the positions of its tree.
  induction values with
  | nil =>
      intro first stop _ tiles column fuel tail slices enough outside
      obtain ⟨fuel, rfl⟩ : ∃ less, fuel = less + 1 := ⟨fuel - 1, by omega⟩
      obtain rfl : first = stop := tiles
      exact ⟨slices, readConsts_end (nextInside?_outside outside)⟩
  | cons value values ih =>
      intro first stop restorable tiles column fuel tail slices enough outside
      have restRestorable : ∀ other ∈ values, other.code? = none → other.Restorable :=
        fun other member => restorable other (by simp [member])
      obtain ⟨fuel, rfl⟩ : ∃ less, fuel = less + 2 := ⟨fuel - 2, by omega⟩
      cases isCode : value.code? with
      | none =>
          have behind : Tiles spans (values.filterMap Value.code?) first stop := by
            rwa [List.filterMap_cons_none isCode] at tiles
          rw [List.flatMap_cons, constantLines_literal nested isCode, List.singleton_append] at enough ⊢
          rw [List.map_cons, List.cons_append]
          rw [List.length_cons] at enough
          obtain ⟨final, rest⟩ := ih restRestorable behind column (fuel + 1) tail slices (by omega) outside
          exact ⟨final, readConsts_literal (restorable value (by simp) isCode) rest⟩
      | some child =>
          obtain rfl := eq_code_of_code? isCode
          have parts : spans first child ∧ Tiles spans (values.filterMap Value.code?) (child + 1) stop := by
            rwa [List.filterMap_cons_some isCode] at tiles
          obtain ⟨span, behind⟩ := parts
          obtain ⟨more, written, reading⟩ := reads first child span
          rw [List.flatMap_cons, constantLines_code written] at enough ⊢
          rw [List.length_append] at enough
          rw [List.map_append, List.append_assoc]
          have outsideRest : Outside (column + 4)
              ((values.flatMap (constantLines nested)).map (row (column + 4)) ++ tail) := by
            apply outside_constantLines _ restRestorable behind (outside.mono (by omega))
            intro start other spanOther
            obtain ⟨lines, found, _⟩ := reads start other spanOther
            exact ⟨lines, found⟩
          obtain ⟨middle, unit⟩ := reading (column + 4) fuel _ slices (by omega) outsideRest
          rw [List.length_cons] at enough
          obtain ⟨final, rest⟩ :=
            ih restRestorable behind column (fuel + 1) tail middle (by omega) outside
          rw [List.map_cons, List.cons_append] at unit ⊢
          exact ⟨final, readConsts_block unit rest⟩

end Constants

/-! ### Units -/

/-- The names of a table are read back. -/
theorem map_nameOfEntry (column : Nat) (names : List String) :
    ((names.map fun name => String.ofList (Value.writeText name)).map (row column)).map
      (fun entry => nameOfEntry entry.text) = names := by
  rw [List.map_map, List.map_map]
  apply List.map_id''
  intro name
  simp only [Function.comp_apply, row_text, nameOfEntry_writeText]

/-- The instructions of a unit are read back. -/
theorem filterMap_instructionOf? (column : Nat) (units : List CodeUnit) (u : CodeUnit) :
    ∀ {instructions : List Instruction}, (∀ ins ∈ instructions, ins.offset < 10000000) →
      ((instructions.map (instructionLine units u)).map (row column)).filterMap
        (fun entry => instructionOf? entry.text) = instructions
  | [], _ => rfl
  | ins :: rest, small => by
      have here : instructionOf? (row column (instructionLine units u ins)).text = some ins := by
        rw [row_text]
        exact instructionOf?_instructionLine units u (small ins (by simp))
      have behind := filterMap_instructionOf? column units u
        fun other member => small other (List.mem_cons_of_mem ins member)
      simp only [List.map_cons, List.filterMap_cons, here, behind]

/-- A quoted name starts with its quote. -/
theorem solid_writeText (name : String) : Solid (String.ofList (Value.writeText name)) := by
  have starts : ∃ more, (String.ofList (Value.writeText name)).toList =
      Value.pickQuote (name.toList.contains '\'') (name.toList.contains '"') :: more := by
    rw [String.toList_ofList]
    exact ⟨_, rfl⟩
  obtain ⟨more, text⟩ := starts
  exact ⟨_, more, text, Value.isBlank_pickQuote _ _⟩

/-- An instruction line starts with a digit. -/
theorem solid_instructionLine (units : List CodeUnit) (u : CodeUnit) (ins : Instruction) :
    Solid (instructionLine units u ins) := by
  have nonempty : Nat.toDigits 10 ins.offset ≠ [] := Nat.toDigits_ne_nil
  obtain ⟨c, more, digits⟩ := List.exists_cons_of_ne_nil nonempty
  have solid : isBlank c = false := isBlank_toDigits ins.offset c (by simp [digits])
  have text := toList_instructionLine units u ins
  rw [digits, List.cons_append] at text
  exact ⟨c, _, text, solid⟩

/-- A section stands at its column. -/
theorem outside_sectionLines {column margin : Nat} (within : margin ≤ column) (title : String)
    (lines : List String) (tail : List Line) :
    Outside column ((sectionLines title lines).map (row margin) ++ tail) := by
  rw [map_row_sectionLines, List.cons_append]
  apply Outside.cons
  rw [row_indent margin (solid_sectionTitle title)]
  exact within

/-- What is known of a unit when its block ends. -/
def drafted (version : Version) (u : CodeUnit) : Draft where
  unit :=
    { CodeUnit.empty "" version with
      filename := u.filename
      name := u.name
      argCount := u.argCount
      posOnlyCount := u.posOnlyCount
      kwOnlyCount := u.kwOnlyCount
      stackSize := u.stackSize
      flags := u.flags
      names := u.names
      varNames := u.varNames
      freeVars := u.freeVars
      cellVars := u.cellVars
      consts := u.consts
      instructions := u.instructions }
  qualname := some u.qualname

/-- The finished unit is the unit as its listing holds it. -/
theorem finish_drafted {u : CodeUnit} (listable : ListableUnit u) (version : Version) :
    (drafted version u).finish = listed version u := by
  simp only [drafted, Draft.finish, listed, CodeUnit.empty, Option.getD_some, listable.children]

/-- The fields and tables of a unit are read back when its constants are. -/
theorem readFields_bodyLines {version : Version} {fuel room column : Nat} {units before after : List CodeUnit}
    {slices final : List String} {tail : List Line} {nested : Nat → Option (List String)} {u : CodeUnit}
    (listable : ListableUnit u) (outside : Outside column tail)
    (consts : readConsts version (fuel + 2) room (column + 4)
        ⟨(u.consts.flatMap (constantLines nested)).map (row (column + 8)) ++
          ((sectionLines "Disassembly" (u.instructions.map (instructionLine units u))).map
            (row (column + 4)) ++ tail), before, slices⟩ =
      .ok (u.consts,
        ⟨(sectionLines "Disassembly" (u.instructions.map (instructionLine units u))).map
          (row (column + 4)) ++ tail, after, final⟩)) :
    readFields version (fuel + 3 + 4 + (fields u).length) room column ⟨.empty "" version, none⟩
        ⟨(bodyLines nested units u).map (row (column + 4)) ++ tail, before, slices⟩ =
      .ok (drafted version u, ⟨tail, after, final⟩) := by
  have constMargin := row_indent (column + 4) (solid_sectionTitle "Constants")
  have constInside := inside_row column (solid_sectionTitle "Constants")
  have constTitle : sectionTitle? (row (column + 4) ("[" ++ "Constants" ++ "]")).text =
      some "Constants" := by
    rw [row_text]
    exact sectionTitle?_table "Constants" (by decide)
  have solidNames : ∀ names : List String,
      ∀ line ∈ names.map (fun name => String.ofList (Value.writeText name)), Solid line := by
    intro names line member
    obtain ⟨name, _, rfl⟩ := List.mem_map.mp member
    exact solid_writeText name
  have solidInstructions : ∀ line ∈ u.instructions.map (instructionLine units u), Solid line := by
    intro line member
    obtain ⟨ins, _, rfl⟩ := List.mem_map.mp member
    exact solid_instructionLine units u ins
  have follows := fun title lines tail =>
    outside_sectionLines (Nat.le_refl (column + 4)) title lines tail
  simp only [bodyLines, List.map_append, List.append_assoc]
  rw [readFields_fieldLines fun field => mem_fieldKeys, foldl_withField_fields listable]
  simp only [nameLines]
  rw [readFields_sectionLines (by decide) (solidNames _) (follows _ _ _),
    readFields_sectionLines (by decide) (solidNames _) (follows _ _ _),
    readFields_sectionLines (by decide) (solidNames _) (follows _ _ _),
    readFields_sectionLines (by decide) (solidNames _) (follows _ _ _)]
  rw [map_row_sectionLines _ "Constants", List.cons_append,
    readFields_constants (nextInside?_cons constInside _ _ _) constTitle (by rw [constMargin]; exact consts),
    readFields_sectionLines (by decide) solidInstructions (outside.mono (by omega)),
    readFields_end (nextInside?_outside outside)]
  simp only [Draft.setTable, map_nameOfEntry, filterMap_instructionOf? _ _ _ listable.offsets, drafted]

/-- As many units are there as positions have been passed. -/
theorem length_readUpTo {version : Version} {units : List CodeUnit} {position : Nat} {u : CodeUnit}
    (here : units[position]? = some u) : (readUpTo version units position).length = position := by
  obtain ⟨below, _⟩ := List.getElem?_eq_some_iff.mp here
  rw [readUpTo, List.length_map, List.length_take]
  omega

/-- One more unit is there. -/
theorem readUpTo_succ {version : Version} {units : List CodeUnit} {position : Nat} {u : CodeUnit}
    (here : units[position]? = some u) :
    readUpTo version units position ++ [listed version u] = readUpTo version units (position + 1) := by
  simp [readUpTo, List.take_add_one, here]

/-- The block of a unit is read back when the units nested in it are. -/
theorem readsUnit_unitLines {version : Version} {units : List CodeUnit} {room first position : Nat}
    {nested : Nat → Option (List String)} {spans : (first child : Nat) → Prop}
    (reads : ∀ first child, spans first child → ∃ more, nested child = some ("[Code]" :: more) ∧
      ReadsUnit version units room first child ("[Code]" :: more))
    {u : CodeUnit} (here : units[position]? = some u) (listable : ListableUnit u)
    (tiles : Tiles spans (u.consts.filterMap Value.code?) first position) :
    ReadsUnit version units (room + 1) first position (unitLines nested units u) := by
  intro column fuel tail slices enough outside
  have margin := row_indent column (solid_sectionTitle "Code")
  have count : (fields u).length = 8 := rfl
  have size : 15 + (u.consts.flatMap (constantLines nested)).length ≤ (unitLines nested units u).length := by
    simp only [unitLines, bodyLines, nameLines, sectionLines, moveIn, List.length_cons,
      List.length_append, List.length_map, count]
    omega
  -- One step for the title, one for each field and each table, and one where the block ends.
  obtain ⟨fuel, rfl⟩ : ∃ less, fuel = less + 3 + 4 + (fields u).length + 1 := ⟨fuel - 16, by omega⟩
  obtain ⟨final, consts⟩ := readConsts_constantLines reads listable.consts tiles (column + 4) (fuel + 2)
    ((sectionLines "Disassembly" (u.instructions.map (instructionLine units u))).map (row (column + 4))
      ++ tail) slices (by omega) (outside_sectionLines (Nat.le_refl _) _ _ _)
  have body : readFields version (fuel + 3 + 4 + (fields u).length) room
        (row column ("[" ++ "Code" ++ "]")).indent ⟨.empty "" version, none⟩
        ⟨(bodyLines nested units u).map (row (column + 4)) ++ tail, readUpTo version units first, slices⟩ =
      .ok (drafted version u, ⟨tail, readUpTo version units position, final⟩) := by
    rw [margin]
    exact readFields_bodyLines listable outside consts
  obtain ⟨slice, read⟩ := readUnit_cons body
  refine ⟨slice, ?_⟩
  rw [unitLines, map_row_sectionLines, List.cons_append, read, finish_drafted listable,
    length_readUpTo here, readUpTo_succ here]

/-- The block of a unit opens with its title. -/
theorem unitLines_eq_cons (nested : Nat → Option (List String)) (units : List CodeUnit) (u : CodeUnit) :
    unitLines nested units u = "[Code]" :: moveIn 4 (bodyLines nested units u) := by
  have title : "[" ++ "Code" ++ "]" = "[Code]" := by decide
  rw [unitLines, sectionLines, title]

/-- The block at a position is read back, with everything nested in it. -/
theorem readsUnit_blockLines (version : Version) {units : List CodeUnit}
    (listable : ∀ u ∈ units, ListableUnit u) :
    ∀ {levels room first position : Nat}, levels < room → Spans units levels first position →
      ∃ more, blockLines units levels position = "[Code]" :: more ∧
        ReadsUnit version units room first position ("[Code]" :: more) := by
  intro levels
  induction levels using Nat.strongRecOn with
  | ind levels ih =>
      intro room first position deep spans
      obtain ⟨u, nested, below, here, block, tiles, trees⟩ := spans.exists_unit
      obtain ⟨room, rfl⟩ : ∃ less, room = less + 1 := ⟨room - 1, by omega⟩
      have reads : ∀ start child, below start child → ∃ more, nested child = some ("[Code]" :: more) ∧
          ReadsUnit version units room start child ("[Code]" :: more) := by
        intro start child span
        obtain ⟨less, fewer, written, tree⟩ := trees start child span
        obtain ⟨more, lines, read⟩ := ih less fewer (by omega : less < room) tree
        exact ⟨more, by rw [written, lines], read⟩
      have read := readsUnit_unitLines reads here (listable u (List.mem_of_getElem? here)) tiles
      rw [unitLines_eq_cons] at block read
      exact ⟨_, block, read⟩

end SourceRecovery.Listing
