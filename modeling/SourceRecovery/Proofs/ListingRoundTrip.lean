/-
Module: SourceRecovery.Proofs.ListingRoundTrip
Layer: Proofs
Purpose: A module is read back from its listing: every line of a listing stays one line, the banner gives the
  version, and the block behind it gives the units.
Imports: SourceRecovery.Proofs.ListingBlocks
Trusted boundary: none
Main exports: Listing.legible_blockLines, Listing.banner_line, Listing.read_ofModule
Open obligations: none
-/
import SourceRecovery.Proofs.ListingBlocks

namespace SourceRecovery.Listing

open Text

/-! ### Every line stays one line -/

/-- A text that starts with something else than white space and has no line feed is legible. -/
theorem Solid.legible {line : String} (solid : Solid line) (unbroken : '\n' ∉ line.toList) :
    Legible line := by
  obtain ⟨c, more, text, notBlank⟩ := solid
  exact ⟨unbroken, c, by simp [text], notBlank⟩

theorem legible_moveIn {columns : Nat} {lines : List String} (legible : ∀ line ∈ lines, Legible line) :
    ∀ line ∈ moveIn columns lines, Legible line := by
  intro moved member
  obtain ⟨line, inside, rfl⟩ := List.mem_map.mp member
  obtain ⟨unbroken, c, present, notBlank⟩ := legible line inside
  refine ⟨?_, c, ?_, notBlank⟩
  · simp [Text.repeated, unbroken]
  · simp [Text.repeated, present]

theorem legible_sectionLines {title : String} (unbroken : '\n' ∉ title.toList) {lines : List String}
    (legible : ∀ line ∈ lines, Legible line) :
    ∀ line ∈ sectionLines title lines, Legible line := by
  intro line member
  rcases List.mem_cons.mp member with rfl | inside
  · exact (solid_sectionTitle title).legible (by simp [unbroken])
  · exact legible_moveIn legible line inside

theorem legible_fieldLine {u : CodeUnit} (listable : ListableUnit u) :
    ∀ field ∈ fields u, Legible (fieldLine field) := by
  intro field member
  have known := mem_fieldKeys member
  obtain ⟨c, more, starts, solid, _⟩ := exists_front_fieldLine known
  obtain ⟨_, _, _, keyUnbroken, _⟩ := fieldKey_class field.1 known
  have valueUnbroken : '\n' ∉ field.2.toList := by
    have digits : ∀ n : Nat, '\n' ∉ (toString n).toList := by
      intro n
      rw [toList_toString]
      exact Value.newline_not_mem_toDigits n
    have capitals : '\n' ∉ (Text.hexDigits 8 u.flags.toNat).map Char.toUpper := by
      intro found
      obtain ⟨d, written, isBreak⟩ := List.mem_map.mp found
      exact forall_mem_hexDigits (fun d => d.toUpper ≠ '\n') (by decide) 8 _ d written isBreak
    simp only [fields, List.mem_cons, List.not_mem_nil, or_false] at member
    rcases member with rfl | rfl | rfl | rfl | rfl | rfl | rfl | rfl
    · exact listable.filename.unbroken
    · exact listable.name.unbroken
    · exact listable.qualname.unbroken
    · exact digits _
    · exact digits _
    · exact digits _
    · exact digits _
    · rw [toList_flags]
      simp [capitals]
  refine Solid.legible ⟨c, more, starts, solid⟩ ?_
  rw [toList_fieldLine]
  simp [keyUnbroken, valueUnbroken]

theorem legible_nameLines {title : String} (unbroken : '\n' ∉ title.toList) (names : List String) :
    ∀ line ∈ nameLines title names, Legible line := by
  apply legible_sectionLines unbroken
  intro line member
  obtain ⟨name, _, rfl⟩ := List.mem_map.mp member
  apply (solid_writeText name).legible
  rw [String.toList_ofList]
  exact Value.newline_not_mem_writeText name

theorem legible_literal {value : Value} (restorable : value.Restorable) : Legible value.literal := by
  apply (solid_literal restorable).legible
  rw [Value.literal, String.toList_ofList]
  exact Value.newline_not_mem_write restorable

/-- What an instruction's argument stands for has no line feed in it. -/
theorem newline_not_mem_argumentDetail? {units : List CodeUnit} (listable : ∀ u ∈ units, ListableUnit u)
    {u : CodeUnit} (here : ListableUnit u) {ins : Instruction} {detail : String}
    (shown : argumentDetail? units u ins = some detail) : '\n' ∉ detail.toList := by
  have tableName : u.nameAt? ins.arg = some detail → '\n' ∉ detail.toList :=
    fun found => here.names detail (List.mem_of_getElem? found)
  unfold argumentDetail? at shown
  split at shown
  · obtain ⟨value, found, text⟩ := Option.map_eq_some_iff.mp shown
    have member : value ∈ u.consts := List.mem_of_getElem? found
    split at text
    · split at text
      · rename_i nested present
        have name := (listable nested (List.mem_of_getElem? present)).name.unbroken
        rw [← text]
        simp [name]
      · rw [← text]
        simp
    · rename_i notCode
      have literal : value.code? = none := by
        cases value <;> first | rfl | exact absurd rfl (notCode _)
      rw [← text]
      exact (legible_literal (here.consts value member literal)).unbroken
  · exact tableName shown
  · exact tableName shown
  · exact tableName shown
  · cases shown

theorem legible_instructionLine {units : List CodeUnit} (listable : ∀ u ∈ units, ListableUnit u)
    {u : CodeUnit} (here : ListableUnit u) (ins : Instruction) :
    Legible (instructionLine units u ins) := by
  apply (solid_instructionLine units u ins).legible
  rw [toList_instructionLine]
  have name : '\n' ∉ ins.op.name.toList := fun member => ((ins.op.name_class).1 _ member).2 rfl
  have detail : '\n' ∉ detailText units u ins := by
    unfold detailText
    split
    · rename_i detail shown
      simp [newline_not_mem_argumentDetail? listable here shown]
    · simp
  simp [Value.newline_not_mem_toDigits, name, detail]

/-- The block of a unit is legible when its constants are. -/
theorem legible_unitLines {units : List CodeUnit} (listable : ∀ u ∈ units, ListableUnit u)
    {nested : Nat → Option (List String)} {u : CodeUnit} (here : ListableUnit u)
    (constants : ∀ value ∈ u.consts, ∀ line ∈ constantLines nested value, Legible line) :
    ∀ line ∈ unitLines nested units u, Legible line := by
  apply legible_sectionLines (by decide)
  intro line member
  simp only [bodyLines, List.mem_append] at member
  rcases member with (((((isField | isName) | isVar) | isFree) | isCell) | isConst) | isInstruction
  · obtain ⟨field, inside, rfl⟩ := List.mem_map.mp isField
    exact legible_fieldLine here field inside
  · exact legible_nameLines (by decide) _ line isName
  · exact legible_nameLines (by decide) _ line isVar
  · exact legible_nameLines (by decide) _ line isFree
  · exact legible_nameLines (by decide) _ line isCell
  · refine legible_sectionLines (by decide) ?_ line isConst
    intro shown inside
    obtain ⟨value, present, written⟩ := List.mem_flatMap.mp inside
    exact constants value present shown written
  · refine legible_sectionLines (by decide) ?_ line isInstruction
    intro shown inside
    obtain ⟨ins, _, rfl⟩ := List.mem_map.mp inside
    exact legible_instructionLine listable here ins

/-- The block at a position is legible, with everything nested in it. -/
theorem legible_blockLines {units : List CodeUnit} (listable : ∀ u ∈ units, ListableUnit u) :
    ∀ {levels first position : Nat}, Spans units levels first position →
      ∀ line ∈ blockLines units levels position, Legible line := by
  intro levels
  induction levels using Nat.strongRecOn with
  | ind levels ih =>
      intro first position spans
      obtain ⟨u, nested, below, here, block, tiles, trees⟩ := spans.exists_unit
      have unit := listable u (List.mem_of_getElem? here)
      rw [block]
      apply legible_unitLines listable unit
      intro value member
      cases isCode : value.code? with
      | none =>
          simp only [constantLines_literal _ isCode, List.mem_singleton, forall_eq]
          exact legible_literal (unit.consts value member isCode)
      | some child =>
          obtain ⟨start, span⟩ :=
            tiles.exists_spans child (List.mem_filterMap.mpr ⟨value, member, isCode⟩)
          obtain ⟨less, fewer, written, tree⟩ := trees start child span
          rw [eq_code_of_code? isCode, constantLines_code written]
          exact ih less fewer tree

/-! ### The banner -/

/-- The versions whose listings are known. -/
def knownVersions : List Version :=
  [⟨3, 6⟩, ⟨3, 7⟩, ⟨3, 8⟩, ⟨3, 9⟩, ⟨3, 10⟩, ⟨3, 11⟩, ⟨3, 12⟩, ⟨3, 13⟩]

theorem mem_knownVersions {version : Version} (known : isKnownVersion version = true) :
    version ∈ knownVersions := by
  obtain ⟨major, minor⟩ := version
  simp only [isKnownVersion, Version.atLeast, Bool.and_eq_true, Bool.or_eq_true, Bool.not_eq_true',
    Bool.or_eq_false_iff, Bool.and_eq_false_iff, decide_eq_true_eq, decide_eq_false_iff_not, beq_iff_eq,
    beq_eq_false_iff_ne, UInt8.lt_iff_toNat_lt, UInt8.le_iff_toNat_le, ne_eq, ← UInt8.toNat_inj,
    UInt8.reduceToNat] at known
  have isMajor : major.toNat = 3 := by omega
  have isMinor : minor.toNat = 6 ∨ minor.toNat = 7 ∨ minor.toNat = 8 ∨ minor.toNat = 9 ∨
      minor.toNat = 10 ∨ minor.toNat = 11 ∨ minor.toNat = 12 ∨ minor.toNat = 13 := by omega
  obtain rfl : major = 3 := UInt8.toNat_inj.mp isMajor
  have isOne : minor = 6 ∨ minor = 7 ∨ minor = 8 ∨ minor = 9 ∨ minor = 10 ∨ minor = 11 ∨ minor = 12 ∨
      minor = 13 := by
    simpa [← UInt8.toNat_inj] using isMinor
  rcases isOne with rfl | rfl | rfl | rfl | rfl | rfl | rfl | rfl <;> decide

/-- The version of the first banner in a line. -/
def versionIn? (cs : List Char) : Option Version :=
  match bannerIn? cs with
  | none => none
  | some (major, minor) =>
    match readUnsigned 10 256 major, readUnsigned 10 256 minor with
    | .ok a, .ok b => some ⟨UInt8.ofNat a, UInt8.ofNat b⟩
    | _, _ => none

theorem bannerVersion?_singleton (line : Line) :
    bannerVersion? [line] = versionIn? line.text.toList := by
  simp only [bannerVersion?, versionIn?, List.findSome?_cons, List.findSome?_nil]
  cases bannerIn? line.text.toList <;> rfl

/-- The banner of a version gives the version. -/
theorem versionIn?_banner : ∀ version ∈ knownVersions,
    versionIn? ("(Python " ++ version.text ++ ")").toList = some version := by
  decide +kernel

/-- A pattern that ends with its only blank is found before a blank as a whole, or in the text alone. -/
theorem dropPattern?_append_blank {pattern : List Char} (solid : ' ' ∉ pattern) (rest : List Char) :
    ∀ cs : List Char, Chars.dropPattern? (pattern ++ [' ']) (cs ++ ' ' :: rest) =
      if cs = pattern then some rest
      else (Chars.dropPattern? (pattern ++ [' ']) cs).map (· ++ ' ' :: rest) := by
  induction pattern with
  | nil =>
      intro cs
      cases cs with
      | nil =>
          simp [Chars.dropPattern?]
      | cons c cs =>
          by_cases blank : ' ' = c
          · subst blank
            simp [Chars.dropPattern?]
          · simp [Chars.dropPattern?, blank]
  | cons p pattern ih =>
      simp only [List.mem_cons, not_or] at solid
      intro cs
      cases cs with
      | nil =>
          have other : ¬ p = ' ' := fun same => solid.1 same.symm
          simp [Chars.dropPattern?, other]
      | cons c cs =>
          by_cases same : p = c
          · subst same
            have behind := ih solid.2 cs
            simpa [Chars.dropPattern?] using behind
          · have other : ¬ c = p := fun equal => same equal.symm
            simp [Chars.dropPattern?, same, other]

/-- A pattern that does not stand at the front is not dropped. -/
theorem dropPattern?_of_not_startsWith : ∀ {pattern cs : List Char},
    Chars.startsWith pattern cs = false → Chars.dropPattern? pattern cs = none
  | [], _, absent => by simp [Chars.startsWith, List.isPrefixOf] at absent
  | _ :: _, [], _ => rfl
  | p :: pattern, c :: cs, absent => by
      simp only [Chars.startsWith, List.isPrefixOf] at absent
      by_cases same : (p == c) = true
      · have behind : Chars.startsWith pattern cs = false := by
          simpa [Chars.startsWith, same] using absent
        simp [Chars.dropPattern?, same, dropPattern?_of_not_startsWith behind]
      · simp [Chars.dropPattern?, same]

/-- Where a banner starts before the blank of a later one, no version follows. -/
theorem bannerHere?_append {cs : List Char} (absent : Chars.startsWith "(Python ".toList cs = false)
    (rest : List Char) : bannerHere? (cs ++ ' ' :: '(' :: rest) = none := by
  have pattern : "(Python ".toList = "(Python".toList ++ [' '] := by decide
  have dropped := dropPattern?_append_blank (by decide : ' ' ∉ "(Python".toList) ('(' :: rest) cs
  rw [← pattern, dropPattern?_of_not_startsWith absent] at dropped
  unfold bannerHere?
  rw [dropped]
  -- The word of the banner can end right before the blank, but then a bracket follows and no digit.
  split
  · have notDigit : isDecimalDigit '(' = false := by decide
    simp [notDigit]
  · rfl

/-- The banner behind a text without one is the first one. -/
theorem bannerIn?_append {cs : List Char} (absent : Chars.contains "(Python ".toList cs = false)
    (rest : List Char) : bannerIn? (cs ++ ' ' :: '(' :: rest) = bannerIn? ('(' :: rest) := by
  induction cs with
  | nil =>
      have notHere : Chars.startsWith "(Python ".toList [] = false := by decide
      have here : bannerHere? (' ' :: '(' :: rest) = none := bannerHere?_append notHere rest
      simp [bannerIn?, here]
  | cons c cs ih =>
      simp only [Chars.contains, Bool.or_eq_false_iff] at absent
      have here := bannerHere?_append absent.1 rest
      rw [List.cons_append] at here ⊢
      rw [← ih absent.2]
      simp [bannerIn?, here]

/-- The banner line of a module, trimmed: before the banner stands the file name with a blank, or nothing
    when there is no file name. -/
theorem exists_trim_banner {filename : String} (inline : Inline filename) (version : Version) :
    ∃ before, Chars.trim (filename ++ " (Python " ++ version.text ++ ")").toList =
        before ++ ("(Python " ++ version.text ++ ")").toList ∧
      (before = [] ∨ before = filename.toList ++ [' ']) := by
  have text : (filename ++ " (Python " ++ version.text ++ ")").toList =
      filename.toList ++ ([' '] ++ ("(Python " ++ version.text ++ ")").toList) := by
    simp
  have opens : ∃ rest, ("(Python " ++ version.text ++ ")").toList = '(' :: rest := by
    simp
  have closes : ("(Python " ++ version.text ++ ")").toList =
      ("(Python " ++ version.text).toList ++ [')'] := by
    simp
  obtain ⟨rest, opens⟩ := opens
  generalize ("(Python " ++ version.text ++ ")").toList = shown at text opens closes ⊢
  have trimmed : Chars.trim filename.toList = filename.toList := by
    have whole := congrArg String.toList inline.trimmed
    rwa [Text.trim, String.toList_ofList] at whole
  rw [text]
  -- Without a file name the blank before the banner is trimmed away.
  cases name : filename.toList with
  | nil =>
      refine ⟨[], ?_, Or.inl rfl⟩
      rw [List.nil_append, Chars.trim_blanks_append (by decide)]
      exact Chars.trim_append_singleton opens closes (by decide) (by decide)
  | cons c more =>
      rw [name] at trimmed
      have ends : c :: more ++ ([' '] ++ shown) =
          (c :: more ++ ([' '] ++ ("(Python " ++ version.text).toList)) ++ [')'] := by
        rw [closes, List.append_assoc, List.append_assoc]
      refine ⟨c :: more ++ [' '], ?_, Or.inr rfl⟩
      rw [List.append_assoc]
      exact Chars.trim_append_singleton rfl ends (Chars.isBlank_of_trim_eq_cons trimmed) (by decide)

/-- The banner line of a module is legible, gives its version and opens no block. -/
theorem banner_line {m : CompiledModule} (listable : Listable m) {u : CodeUnit}
    (here : m.units[m.root]? = some u) :
    Legible (banner m) ∧ versionIn? (row 0 (banner m)).text.toList = some m.version ∧
      (row 0 (banner m)).text ≠ "[Code]" := by
  have unit := listable.units u (List.mem_of_getElem? here)
  have known := mem_knownVersions listable.version
  have noBanner : Chars.contains "(Python ".toList u.filename.toList = false :=
    listable.noBanner u here
  have shown : banner m = u.filename ++ " (Python " ++ m.version.text ++ ")" := by
    simp only [banner, here]
  obtain ⟨before, trimmed, cases⟩ := exists_trim_banner unit.filename m.version
  obtain ⟨rest, opens⟩ : ∃ rest, ("(Python " ++ m.version.text ++ ")").toList = '(' :: rest := by
    simp
  have version := versionIn?_banner m.version known
  have text : (row 0 (banner m)).text.toList = before ++ '(' :: rest := by
    rw [row_text, shown, Text.trim, String.toList_ofList, trimmed, opens]
  refine ⟨⟨?_, '(', ?_, by decide⟩, ?_, ?_⟩
  · have number : ∀ v ∈ knownVersions, '\n' ∉ v.text.toList := by decide +kernel
    rw [shown]
    simp [unit.filename.unbroken, number m.version known]
  · rw [shown]
    simp
  · rw [text]
    rw [opens] at version
    rcases cases with rfl | rfl
    · exact version
    · rw [List.append_assoc, List.singleton_append, versionIn?, bannerIn?_append noBanner]
      exact version
  · intro same
    have absent : '(' ∉ "[Code]".toList := by decide
    rw [← same, text] at absent
    simp at absent

/-- Reading the listing of a module gives the module back, as far as a listing holds it. -/
theorem read_ofModule (m : CompiledModule) (listable : Listable m) :
    ∃ loaded, Listing.read (Listing.ofModule m) = .ok loaded ∧
      loaded.module.version = m.version ∧ loaded.module.root = m.root ∧
      loaded.module.units = m.units.map (listed m.version) := by
  obtain ⟨u, _, _, here, _⟩ := listable.tree.exists_unit
  obtain ⟨legible, version, notBlock⟩ := banner_line listable here
  obtain ⟨more, block, reads⟩ := readsUnit_blockLines m.version listable.units
    (by decide : maxLevels < maxDepth) listable.tree
  have all : linesOf (ofModule m) = row 0 (banner m) :: row 0 "[Code]" :: more.map (row 0) := by
    have lines : ∀ line ∈ banner m :: blockLines m.units maxLevels m.root, Legible line := by
      intro line member
      rcases List.mem_cons.mp member with rfl | inside
      · exact legible
      · exact legible_blockLines listable.units listable.tree line inside
    rw [ofModule, linesOf_join lines, block, List.map_cons, List.map_cons]
  have opens := (row_code 0).2
  obtain ⟨slices, root⟩ := reads 0 (4 * (row 0 "[Code]" :: more.map (row 0)).length + 4) [] []
    (by simp only [List.length_cons, List.length_map]; omega) (Outside.nil 0)
  have module : readModule m.version 1 (row 0 "[Code]" :: more.map (row 0)) =
      .ok ⟨{ version := m.version, units := m.units.map (listed m.version), root := m.root }, slices⟩ := by
    rw [List.map_cons, List.append_nil, readUpTo, readUpTo, listable.last, List.take_length,
      List.take_zero, List.map_nil] at root
    simp only [readModule, StateT.run, root]
  refine ⟨⟨{ version := m.version, units := m.units.map (listed m.version), root := m.root }, slices⟩,
    ?_, rfl, rfl, rfl⟩
  simp [Listing.read, all, opens, notBlock, bannerVersion?_singleton, version, listable.version, module]

/-- A function in a function in a module: constants on both sides of the nested units, and a file name that
    nearly is a banner. -/
def nestedModule : CompiledModule where
  version := ⟨3, 11⟩
  root := 2
  units :=
    [{ name := "inner", qualname := "outer.<locals>.inner", filename := "a (Python", version := ⟨3, 11⟩,
       consts := [.none, .dict [(.str "[Code]", .frozenset [.int (-7)])]],
       instructions := [⟨0, .resume, 0⟩, ⟨2, .loadConst, 1⟩, ⟨4, .other 255, 300⟩] },
     { name := "outer", qualname := "outer", filename := "a (Python", version := ⟨3, 11⟩, flags := 19,
       consts := [.str "it's: ", .code 0, .tuple [.bytes [10]]], children := [0], names := ["inner"],
       cellVars := ["x y"], instructions := [⟨0, .loadConst, 1⟩, ⟨2, .storeName, 0⟩] },
     { name := "<module>", qualname := "", filename := "a (Python", version := ⟨3, 11⟩, stackSize := 4,
       consts := [.code 1, .ellipsis], children := [1], names := ["outer"],
       instructions := [⟨9999998, .storeName, 0⟩] }]

theorem listable_nestedModule : Listable nestedModule where
  version := by decide
  units := by
    intro u member
    simp only [nestedModule, List.mem_cons, List.not_mem_nil, or_false] at member
    have small : (-7 : Int64) ≠ Int64.minValue := by decide
    rcases member with rfl | rfl | rfl
    all_goals
      refine ⟨⟨by decide, by decide⟩, ⟨by decide, by decide⟩, ⟨by decide, by decide⟩, by decide, by decide, ?_, rfl⟩
      simp [Value.code?, Value.Restorable, Value.AllRestorable, Value.PairsRestorable, small]
  tree := ⟨_, rfl, ⟨_, rfl, ⟨_, rfl, rfl⟩, rfl⟩, rfl⟩
  last := rfl
  noBanner := by
    intro u here
    cases here
    decide

theorem read_ofModule_nestedModule :
    ∃ loaded, Listing.read (Listing.ofModule nestedModule) = .ok loaded ∧
      loaded.module.version = nestedModule.version ∧ loaded.module.root = nestedModule.root ∧
      loaded.module.units = nestedModule.units.map (listed nestedModule.version) :=
  read_ofModule nestedModule listable_nestedModule

end SourceRecovery.Listing
