/-
Module: SourceRecovery.Proofs.PathText
Layer: Proofs
Purpose: Paths as texts. A path spells a row of names when it is the names with points between, each with or
  without a number tag. Taking the tags away gives the names back, a tag keeps what a path spells, and a row
  of names with points between ends with another exactly when the row does.
Imports: SourceRecovery.Index.Paths, SourceRecovery.Proofs.LineText, SourceRecovery.Proofs.LiteralText
Trusted boundary: none
Main exports: Index.PlainName, Index.dotted, Index.Spells, Index.Spells.plainPath, Index.spells_freshPath,
  Index.endsWith_dotted_iff
Open obligations: none
-/
import SourceRecovery.Index.Paths
import SourceRecovery.Proofs.LineText
import SourceRecovery.Proofs.LiteralText

namespace SourceRecovery.Index

open Text

/-- A name in which neither points nor tags can be seen. -/
structure PlainName (name : String) : Prop where
  point : '.' ∉ name.toList
  sharp : '#' ∉ name.toList

instance (name : String) : Decidable (PlainName name) :=
  decidable_of_iff ('.' ∉ name.toList ∧ '#' ∉ name.toList)
    ⟨fun free => ⟨free.1, free.2⟩, fun plain => ⟨plain.point, plain.sharp⟩⟩

/-- Names with points between. -/
def dotted (names : List String) : String :=
  joinWith "." names

theorem toList_dotted (names : List String) :
    (dotted names).toList = ['.'].intercalate (names.map String.toList) :=
  String.toList_ofList

/-! ### Rows with points between -/

theorem intercalate_append_cons (sep : Char) {front back : List (List Char)} (frontNonempty : front ≠ [])
    (backNonempty : back ≠ []) :
    [sep].intercalate (front ++ back) = [sep].intercalate front ++ sep :: [sep].intercalate back := by
  induction front with
  | nil =>
      exact absurd rfl frontNonempty
  | cons piece front ih =>
      cases front with
      | nil =>
          cases back with
          | nil =>
              exact absurd rfl backNonempty
          | cons next back =>
              simp [List.intercalate_cons_cons]
      | cons second front =>
          have later := ih (by simp)
          simp only [List.cons_append] at later ⊢
          rw [List.intercalate_cons_cons, later, List.intercalate_cons_cons]
          simp

/-- A character between separators belongs to a piece. -/
theorem mem_intercalate {sep c : Char} {pieces : List (List Char)}
    (member : c ∈ [sep].intercalate pieces) : c = sep ∨ ∃ piece ∈ pieces, c ∈ piece := by
  induction pieces with
  | nil =>
      simp at member
  | cons piece pieces ih =>
      cases pieces with
      | nil =>
          right
          exact ⟨piece, by simp, by simpa using member⟩
      | cons next pieces =>
          rw [List.intercalate_cons_cons, List.mem_append, List.mem_append] at member
          rcases member with (here | between) | later
          · right
            exact ⟨piece, by simp, here⟩
          · left
            simpa using between
          · rcases ih later with isSep | ⟨other, inside, found⟩
            · left
              exact isSep
            · right
              exact ⟨other, by simp [inside], found⟩

theorem mem_intercalate_of_mem {sep c : Char} {piece : List Char} {pieces : List (List Char)}
    (inside : piece ∈ pieces) (member : c ∈ piece) : c ∈ [sep].intercalate pieces := by
  obtain ⟨front, back, rfl⟩ := List.append_of_mem inside
  cases front with
  | nil =>
      cases back with
      | nil =>
          simpa using member
      | cons next back =>
          simp [List.intercalate_cons_cons, member]
  | cons first front =>
      rw [intercalate_append_cons sep (by simp) (by simp)]
      cases back with
      | nil =>
          simp [member]
      | cons next back =>
          simp [List.intercalate_cons_cons, member]

/-- Rows of pieces without the separator end alike exactly when the texts do. -/
theorem suffix_intercalate_iff {sep : Char} {pieces row : List (List Char)}
    (piecesWhole : ∀ piece ∈ pieces, sep ∉ piece) (rowWhole : ∀ piece ∈ row, sep ∉ piece)
    (piecesNonempty : pieces ≠ []) (rowNonempty : row ≠ []) :
    sep :: [sep].intercalate pieces <:+ [sep].intercalate row ↔ pieces <:+ row ∧ row ≠ pieces := by
  constructor
  · rintro ⟨front, whole⟩
    have cut : (front ++ sep :: [sep].intercalate pieces).splitOn sep =
        front.splitOn sep ++ ([sep].intercalate pieces).splitOn sep :=
      List.splitOnP_append_cons front _ (beq_self_eq_true sep)
    rw [whole, List.splitOn_intercalate sep rowWhole rowNonempty,
      List.splitOn_intercalate sep piecesWhole piecesNonempty] at cut
    rw [cut]
    refine ⟨List.suffix_append _ _, ?_⟩
    intro same
    have length := congrArg List.length same
    rw [List.length_append] at length
    have none : front.splitOn sep = [] := List.eq_nil_of_length_eq_zero (by omega)
    exact List.splitOn_ne_nil sep front none
  · rintro ⟨⟨front, rfl⟩, differs⟩
    have frontNonempty : front ≠ [] := by
      rintro rfl
      exact differs rfl
    rw [intercalate_append_cons sep frontNonempty piecesNonempty]
    exact List.suffix_append _ _

section Dotted

variable {names segments : List String}

/-- A plain row is plain piece by piece. -/
theorem point_not_mem (plain : ∀ name ∈ names, PlainName name) :
    ∀ piece ∈ names.map String.toList, '.' ∉ piece := by
  intro piece member
  obtain ⟨name, inside, rfl⟩ := List.mem_map.mp member
  exact (plain name inside).point

theorem sharp_not_mem_dotted (plain : ∀ name ∈ names, PlainName name) :
    '#' ∉ (dotted names).toList := by
  intro member
  rw [toList_dotted] at member
  rcases mem_intercalate member with isPoint | ⟨piece, inside, found⟩
  · exact absurd isPoint (by decide)
  · obtain ⟨name, known, rfl⟩ := List.mem_map.mp inside
    exact (plain name known).sharp found

theorem map_toList_inj {as bs : List String} : as.map String.toList = bs.map String.toList ↔ as = bs :=
  List.map_inj_right fun _ _ => String.toList_inj.mp

theorem map_toList_suffix_iff {as bs : List String} :
    as.map String.toList <:+ bs.map String.toList ↔ as <:+ bs := by
  constructor
  · rintro ⟨front, whole⟩
    obtain ⟨before, behind, rfl, _, same⟩ := List.map_eq_append_iff.mp whole.symm
    rw [map_toList_inj] at same
    rw [same]
    exact List.suffix_append before as
  · intro ends
    exact ends.map String.toList

/-- Plain rows are written alike only when they are the same. -/
theorem dotted_inj (plainNames : ∀ name ∈ names, PlainName name)
    (plainSegments : ∀ name ∈ segments, PlainName name) (namesNonempty : names ≠ [])
    (segmentsNonempty : segments ≠ []) : dotted names = dotted segments ↔ names = segments := by
  constructor
  · intro same
    have texts := congrArg (fun s : String => s.toList.splitOn '.') same
    simp only [toList_dotted] at texts
    rw [List.splitOn_intercalate '.' (point_not_mem plainNames) (by simpa using namesNonempty),
      List.splitOn_intercalate '.' (point_not_mem plainSegments) (by simpa using segmentsNonempty)]
      at texts
    exact map_toList_inj.mp texts
  · rintro rfl
    rfl

/-- A plain row written out ends with a point and another exactly when the other one is its end. -/
theorem endsWith_dotted_iff (plainNames : ∀ name ∈ names, PlainName name)
    (plainSegments : ∀ name ∈ segments, PlainName name) (namesNonempty : names ≠ [])
    (segmentsNonempty : segments ≠ []) :
    endsWith (dotted names) ("." ++ dotted segments) = true ↔ segments <:+ names ∧ names ≠ segments := by
  have pattern : ("." ++ dotted segments).toList =
      '.' :: ['.'].intercalate (segments.map String.toList) := by
    rw [String.toList_append, toList_dotted]
    rfl
  unfold endsWith Chars.endsWith
  rw [List.isSuffixOf_iff_suffix, pattern, toList_dotted,
    suffix_intercalate_iff (point_not_mem plainSegments) (point_not_mem plainNames)
      (by simpa using segmentsNonempty) (by simpa using namesNonempty),
    map_toList_suffix_iff, Ne, map_toList_inj]

end Dotted

/-! ### Tags -/

/-- A text without the separator is not split. -/
theorem splitOnce_eq_none {sep : Char} {cs : List Char} (absent : sep ∉ cs) :
    Chars.splitOnce sep cs = none := by
  induction cs with
  | nil =>
      rfl
  | cons c cs ih =>
      have other : (c == sep) = false := by
        simp only [List.mem_cons, not_or] at absent
        simpa using fun same : c = sep => absent.1 same.symm
      have behind := ih fun member => absent (List.mem_cons_of_mem c member)
      simp [Chars.splitOnce, other, behind]

/-- A segment without a tag stays as it is. -/
theorem plainSegment_of_not_mem {segment : List Char} (absent : '#' ∉ segment) :
    plainSegment segment = segment := by
  rw [plainSegment, splitOnce_eq_none absent]

/-- A number tag is taken away. -/
theorem plainSegment_tag {segment : List Char} (absent : '#' ∉ segment) (number : Nat) :
    plainSegment (segment ++ '#' :: Nat.toDigits 10 number) = segment := by
  have nonempty : (Nat.toDigits 10 number).isEmpty = false := by simp
  have digits : (Nat.toDigits 10 number).all isAsciiDigit = true := by
    rw [List.all_eq_true]
    intro c member
    exact Literal.isAsciiDigit_of_mem_toDigits member
  rw [plainSegment, Chars.splitOnce_append absent]
  simp only [nonempty, digits, Bool.not_false, Bool.and_self, if_true]

theorem toList_tagged (path : String) (number : Nat) :
    (tagged path number).toList = path.toList ++ '#' :: Nat.toDigits 10 number := by
  simp [tagged, Nat.repr]

/-- A fresh path is the path itself or the path with a tag. -/
theorem freshPath_cases (taken : List String) (path : String) :
    freshPath taken path = path ∨ ∃ number, freshPath taken path = tagged path number := by
  unfold freshPath
  split
  · dsimp only
    cases found : (List.map (tagged path) (List.range' 2 (taken.length + 1))).find?
        fun candidate => !taken.contains candidate with
    | none =>
        left
        rfl
    | some candidate =>
        obtain ⟨number, _, isTagged⟩ := List.mem_map.mp (List.mem_of_find?_eq_some found)
        right
        exact ⟨number, isTagged.symm⟩
  · left
    rfl

/-! ### Spelling -/

/-- The path is the names with points between, each with or without a number tag. -/
def Spells (path : String) (names : List String) : Prop :=
  ∃ pieces : List (List Char), pieces ≠ [] ∧ path.toList = ['.'].intercalate pieces ∧
    (∀ piece ∈ pieces, '.' ∉ piece) ∧ pieces.map plainSegment = names.map String.toList

/-- A path spells one name at least. -/
theorem Spells.nonempty {path : String} {names : List String} (spells : Spells path names) :
    names ≠ [] := by
  obtain ⟨pieces, nonempty, _, _, plain⟩ := spells
  rintro rfl
  exact nonempty (by simpa using plain)

/-- A path without its tags is the names that it spells. -/
theorem Spells.plainPath {path : String} {names : List String} (spells : Spells path names) :
    plainPath path = dotted names := by
  obtain ⟨pieces, nonempty, isPath, whole, plain⟩ := spells
  rw [Index.plainPath, isPath, List.splitOn_intercalate '.' whole nonempty, plain]
  rfl

/-- A path without tags is the names that it spells. -/
theorem Spells.eq_dotted {path : String} {names : List String} (spells : Spells path names)
    (untagged : '#' ∉ path.toList) : path = dotted names := by
  obtain ⟨pieces, _, isPath, _, plain⟩ := spells
  have same : pieces.map plainSegment = pieces := by
    refine (List.map_congr_left (g := id) ?_).trans (List.map_id pieces)
    intro piece inside
    apply plainSegment_of_not_mem
    intro sharp
    exact untagged (isPath ▸ mem_intercalate_of_mem inside sharp)
  rw [same] at plain
  rw [← String.toList_inj, toList_dotted, isPath, plain]

/-- Behind its first name a path spells the others. -/
theorem Spells.tail {first rest : String} {names : List String} (spells : Spells (first ++ "." ++ rest) names)
    (point : '.' ∉ first.toList) : Spells rest names.tail := by
  obtain ⟨pieces, nonempty, isPath, whole, plain⟩ := spells
  have text : (first ++ "." ++ rest).toList = first.toList ++ '.' :: rest.toList := by simp
  have cut : pieces = first.toList :: rest.toList.splitOn '.' := by
    rw [← List.splitOn_intercalate '.' whole nonempty, ← isPath, text,
      List.splitOn_append_cons_self_of_not_mem point]
  subst cut
  refine ⟨_, List.splitOn_ne_nil _ _, (List.intercalate_splitOn '.').symm, ?_, ?_⟩
  · intro piece inside
    exact whole piece (List.mem_cons_of_mem _ inside)
  · rw [List.map_tail, ← plain]
    rfl

/-- What follows the last piece belongs to it. -/
theorem intercalate_append_last (sep : Char) (front : List (List Char)) (last more : List Char) :
    [sep].intercalate (front ++ [last ++ more]) = [sep].intercalate (front ++ [last]) ++ more := by
  cases front with
  | nil =>
      simp
  | cons piece front =>
      rw [intercalate_append_cons sep (by simp) (by simp), intercalate_append_cons sep (by simp) (by simp)]
      simp

/-- One more name, tagged or not, is spelled behind those that are spelled. -/
theorem spells_freshPath (front : List (List Char)) (names : List String) {path name : String}
    (whole : ∀ piece ∈ front, '.' ∉ piece) (plain : front.map plainSegment = names.map String.toList)
    (isPath : path.toList = ['.'].intercalate (front ++ [name.toList])) (plainName : PlainName name)
    (taken : List String) : Spells (freshPath taken path) (names ++ [name]) := by
  have spelled (last : List Char) (point : '.' ∉ last) (isName : plainSegment last = name.toList) :
      (∀ piece ∈ front ++ [last], '.' ∉ piece) ∧
        (front ++ [last]).map plainSegment = (names ++ [name]).map String.toList := by
    constructor
    · intro piece member
      rcases List.mem_append.mp member with before | isLast
      · exact whole piece before
      · rw [List.mem_singleton.mp isLast]
        exact point
    · rw [List.map_append, plain, List.map_append, List.map_singleton, isName, List.map_singleton]
  rcases freshPath_cases taken path with isFree | ⟨number, isTagged⟩
  · refine ⟨front ++ [name.toList], by simp, by rw [isFree, isPath], ?_⟩
    exact spelled _ plainName.point (plainSegment_of_not_mem plainName.sharp)
  · refine ⟨front ++ [name.toList ++ '#' :: Nat.toDigits 10 number], by simp, ?_, ?_⟩
    · rw [isTagged, toList_tagged, isPath, intercalate_append_last]
    · apply spelled _ _ (plainSegment_tag plainName.sharp number)
      rw [List.mem_append, List.mem_cons]
      rintro (inName | isSharp | inDigits)
      · exact plainName.point inName
      · exact absurd isSharp (by decide)
      · exact absurd (Literal.isAsciiDigit_of_mem_toDigits inDigits) (by decide)

/-- The path of the first unit spells its name. -/
theorem spells_first {name : String} (plainName : PlainName name) (taken : List String) :
    Spells (freshPath taken name) [name] :=
  spells_freshPath [] [] (by simp) rfl (by simp) plainName taken

/-- The path of a unit below another spells one name more. -/
theorem Spells.below {parent : String} {names : List String} (spells : Spells parent names)
    {name : String} (plainName : PlainName name) (taken : List String) :
    Spells (freshPath taken (parent ++ "." ++ name)) (names ++ [name]) := by
  obtain ⟨pieces, nonempty, isPath, whole, plain⟩ := spells
  apply spells_freshPath pieces names whole plain _ plainName
  rw [intercalate_append_cons '.' nonempty (by simp), String.toList_append, String.toList_append, isPath]
  simp

end SourceRecovery.Index
