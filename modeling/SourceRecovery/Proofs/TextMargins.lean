/-
Module: SourceRecovery.Proofs.TextMargins
Layer: Proofs
Purpose: Margins of a text. The common margin is looked for in lines without their carriage returns and taken away from
  the pieces between line feeds, and both see the same white space before the same non-blank pieces. So moving a block in
  and out again leaves all of it as it was, but for blank lines, and a text that was moved out stays where it is.
Imports: SourceRecovery.Agent.Response, SourceRecovery.Proofs.LineText, SourceRecovery.Proofs.TextSearch,
  SourceRecovery.Repair.Patch
Trusted boundary: none
Main exports: Response.sharedFronts, Response.margins, Response.commonMargin_eq, Response.toList_dedent,
  Response.eq_commonMargin_append, Response.isBlankText_dedent
Open obligations: none
-/
import SourceRecovery.Agent.Response
import SourceRecovery.Proofs.LineText
import SourceRecovery.Proofs.TextSearch
import SourceRecovery.Repair.Patch

namespace SourceRecovery

open Text

/-! ### White space in pieces -/

namespace Text.Chars

theorem allBlank_append (front back : List Char) : allBlank (front ++ back) = (allBlank front && allBlank back) :=
  List.all_append

/-- White space before a text does not make it less blank. -/
theorem allBlank_append_of_blank {front : List Char} (blank : ∀ c ∈ front, isBlank c = true) (back : List Char) :
    allBlank (front ++ back) = allBlank back := by
  have blankFront : allBlank front = true := List.all_eq_true.mpr blank
  rw [allBlank_append, blankFront, Bool.true_and]

theorem allBlank_dropReturn (line : List Char) : allBlank (dropReturn line) = allBlank line := by
  obtain ⟨blanks, whole, blank⟩ := exists_dropReturn line
  have blankEnd : allBlank blanks = true := List.all_eq_true.mpr blank
  have same := allBlank_append (dropReturn line) blanks
  rw [← whole, blankEnd, Bool.and_true] at same
  exact same.symm

/-- A text is blank when all its pieces are. -/
theorem allBlank_intercalate (pieces : List (List Char)) : allBlank (['\n'].intercalate pieces) = pieces.all allBlank := by
  induction pieces with
  | nil => rfl
  | cons first rest ih =>
      cases rest with
      | nil => simp
      | cons second rest =>
          have lineFeed : allBlank ['\n'] = true := by decide
          rw [List.intercalate_cons_cons, allBlank_append, allBlank_append, ih, lineFeed, Bool.and_true]
          exact List.all_cons.symm

end Text.Chars

namespace Response

open Text.Chars

/-! ### Shared fronts -/

theorem sharedFront_append (front a b : List Char) : sharedFront (front ++ a) (front ++ b) = front ++ sharedFront a b := by
  induction front with
  | nil => rfl
  | cons c front ih => simp [sharedFront, ih]

/-- What two texts share stands at the front of both. -/
theorem sharedFront_starts (a b : List Char) : sharedFront a b <+: a ∧ sharedFront a b <+: b := by
  induction a generalizing b with
  | nil => simp [sharedFront]
  | cons c a ih =>
      cases b with
      | nil => simp [sharedFront]
      | cons d b =>
          rw [sharedFront]
          split
          case isTrue same =>
            rw [← beq_iff_eq.mp same, List.cons_prefix_cons, List.cons_prefix_cons]
            exact ⟨⟨rfl, (ih b).1⟩, rfl, (ih b).2⟩
          case isFalse => exact ⟨List.nil_prefix, List.nil_prefix⟩

/-- The front that all of some texts share. -/
def sharedFronts : List (List Char) → List Char
  | [] => []
  | first :: rest => rest.foldl sharedFront first

theorem foldl_sharedFront_append (front first : List Char) (rest : List (List Char)) :
    (rest.map (front ++ ·)).foldl sharedFront (front ++ first) = front ++ rest.foldl sharedFront first := by
  induction rest generalizing first with
  | nil => rfl
  | cons next rest ih => rw [List.map_cons, List.foldl_cons, sharedFront_append, ih, List.foldl_cons]

/-- With one more front before all texts, they share it too. -/
theorem sharedFronts_map_append (front : List Char) {texts : List (List Char)} (nonempty : texts ≠ []) :
    sharedFronts (texts.map (front ++ ·)) = front ++ sharedFronts texts := by
  cases texts with
  | nil => exact absurd rfl nonempty
  | cons first rest => exact foldl_sharedFront_append front first rest

theorem foldl_sharedFront_starts (first : List Char) (rest : List (List Char)) :
    rest.foldl sharedFront first <+: first ∧ ∀ text ∈ rest, rest.foldl sharedFront first <+: text := by
  induction rest generalizing first with
  | nil => exact ⟨List.prefix_refl first, fun _ member => absurd member List.not_mem_nil⟩
  | cons next rest ih =>
      obtain ⟨shared, others⟩ := ih (sharedFront first next)
      obtain ⟨left, right⟩ := sharedFront_starts first next
      refine ⟨shared.trans left, ?_⟩
      intro text member
      rcases List.mem_cons.mp member with isNext | later
      · rw [isNext]
        exact shared.trans right
      · exact others text later

/-- Every text starts with the front that all share. -/
theorem sharedFronts_starts {text : List Char} {texts : List (List Char)} (member : text ∈ texts) :
    sharedFronts texts <+: text := by
  cases texts with
  | nil => cases member
  | cons first rest =>
      obtain ⟨atFirst, atOthers⟩ := foldl_sharedFront_starts first rest
      rcases List.mem_cons.mp member with isFirst | other
      · rw [isFirst]
        exact atFirst
      · exact atOthers text other

/-! ### The common margin -/

theorem margin_append {blanks : List Char} (blank : ∀ c ∈ blanks, isBlank c = true) (line : List Char) :
    margin (blanks ++ line) = blanks ++ margin line :=
  List.takeWhile_append_of_pos blank

/-- The white space before each piece that is not blank. -/
def margins (pieces : List (List Char)) : List (List Char) :=
  (pieces.filter fun piece => !allBlank piece).map margin

theorem margins_cons (piece : List Char) (pieces : List (List Char)) :
    margins (piece :: pieces) = if allBlank piece then margins pieces else margin piece :: margins pieces := by
  rw [margins, List.filter_cons]
  cases allBlank piece <;> rfl

/-- Only what stands before the first visible character counts for the margin. -/
theorem margin_append_cons {c : Char} (solid : isBlank c = false) (front back : List Char) :
    margin (front ++ c :: back) = margin front := by
  induction front with
  | nil => simp [margin, solid]
  | cons d front ih =>
      cases blank : isBlank d with
      | true => simpa [margin, blank] using ih
      | false => simp [margin, blank]

/-- A carriage return at the end does not count for the margin of a piece that is not blank. -/
theorem margin_dropReturn {piece : List Char} (solid : allBlank piece = false) :
    margin (dropReturn piece) = margin piece := by
  obtain ⟨c, member, notBlank⟩ := List.all_eq_false.mp solid
  obtain ⟨front, back, whole⟩ := List.append_of_mem member
  have visible : isBlank c = false := Bool.eq_false_iff.mpr notBlank
  obtain ⟨behind, left⟩ := exists_dropReturn_append visible front back
  rw [whole, left, margin_append_cons visible, margin_append_cons visible]

/-- Lines have the margins of their pieces. -/
theorem margins_linesOfPieces (pieces : List (List Char)) : margins (linesOfPieces pieces) = margins pieces := by
  induction pieces with
  | nil => rfl
  | cons piece pieces ih =>
      cases pieces with
      | nil =>
          rw [linesOfPieces]
          split
          case isTrue empty =>
            rw [List.isEmpty_iff.mp empty]
            rfl
          case isFalse => rfl
      | cons next pieces =>
          change margins (dropReturn piece :: linesOfPieces (next :: pieces)) = _
          rw [margins_cons, margins_cons piece, ih, allBlank_dropReturn]
          split
          case isTrue => rfl
          case isFalse solid => rw [margin_dropReturn (Bool.eq_false_iff.mpr solid)]

/-- The common margin is what the pieces that are not blank share. -/
theorem commonMargin_eq (cs : List Char) : commonMargin cs = sharedFronts (margins (cs.splitOn '\n')) := by
  rw [← margins_linesOfPieces, commonMargin]
  change _ = sharedFronts (((lines cs).filter fun line => !allBlank line).map margin)
  cases ((lines cs).filter fun line => !allBlank line).map margin <;> rfl

/-- Every piece that is not blank starts with the common margin. -/
theorem commonMargin_starts {cs piece : List Char} (member : piece ∈ cs.splitOn '\n') (solid : allBlank piece = false) :
    commonMargin cs <+: margin piece := by
  rw [commonMargin_eq]
  apply sharedFronts_starts
  exact List.mem_map_of_mem (List.mem_filter.mpr ⟨member, by rw [solid]; rfl⟩)

theorem blank_commonMargin (cs : List Char) : ∀ c ∈ commonMargin cs, isBlank c = true := by
  intro c member
  rw [commonMargin_eq] at member
  cases found : margins (cs.splitOn '\n') with
  | nil =>
      rw [found] at member
      cases member
  | cons first rest =>
      have inFirst : first ∈ margins (cs.splitOn '\n') := found ▸ List.mem_cons_self
      obtain ⟨piece, _, isFirst⟩ := List.mem_map.mp inFirst
      have inMargin : c ∈ margin piece := isFirst ▸ (sharedFronts_starts inFirst).subset member
      exact List.all_eq_true.mp List.all_takeWhile c inMargin

/-! ### Margins taken away -/

theorem dropMargin_nil (line : List Char) : dropMargin [] line = line :=
  rfl

theorem dropMargin_append (common rest : List Char) : dropMargin common (common ++ rest) = rest := by
  rw [dropMargin, dropPattern?_append, Option.getD_some]

/-- Only white space is taken away from a line. -/
theorem exists_dropMargin {common : List Char} (blank : ∀ c ∈ common, isBlank c = true) (line : List Char) :
    ∃ blanks, line = blanks ++ dropMargin common line ∧ ∀ c ∈ blanks, isBlank c = true := by
  unfold dropMargin
  cases dropped : dropPattern? common line with
  | some rest => exact ⟨common, eq_append_of_dropPattern? dropped, blank⟩
  | none =>
      refine ⟨line.takeWhile isBlank, List.takeWhile_append_dropWhile.symm, ?_⟩
      exact List.all_eq_true.mp List.all_takeWhile

theorem allBlank_dropMargin {common : List Char} (blank : ∀ c ∈ common, isBlank c = true) (line : List Char) :
    allBlank (dropMargin common line) = allBlank line := by
  obtain ⟨blanks, whole, blankFront⟩ := exists_dropMargin blank line
  have same := allBlank_append_of_blank blankFront (dropMargin common line)
  rw [← whole] at same
  exact same.symm

/-- A piece that is not blank is the common margin and what is left of it. -/
theorem eq_commonMargin_append {cs piece : List Char} (member : piece ∈ cs.splitOn '\n')
    (solid : allBlank piece = false) : piece = commonMargin cs ++ dropMargin (commonMargin cs) piece := by
  obtain ⟨rest, whole⟩ := (commonMargin_starts member solid).trans (List.takeWhile_prefix isBlank)
  rw [← whole, dropMargin_append]

/-- A text moved out is made of its pieces without the common margin. -/
theorem toList_dedent (text : String) :
    (dedent text).toList = ['\n'].intercalate ((text.toList.splitOn '\n').map (dropMargin (commonMargin text.toList))) := by
  rw [dedent]
  split
  case h_1 none =>
    have same : dropMargin [] = id := funext dropMargin_nil
    rw [none, same, List.map_id, List.intercalate_splitOn]
  case h_2 => rw [String.toList_ofList]

/-- Pieces that are changed without a new line feed are the pieces of the changed text. -/
theorem splitOn_intercalate_map {change : List Char → List Char} (cs : List Char)
    (unbroken : ∀ piece, '\n' ∉ piece → '\n' ∉ change piece) :
    (['\n'].intercalate ((cs.splitOn '\n').map change)).splitOn '\n' = (cs.splitOn '\n').map change := by
  apply List.splitOn_intercalate
  · intro piece member
    obtain ⟨old, isPiece, rfl⟩ := List.mem_map.mp member
    exact unbroken old (not_mem_of_mem_splitOn isPiece)
  · rw [ne_eq, List.map_eq_nil_iff]
    exact List.splitOn_ne_nil '\n' cs

theorem splitOn_dedent (text : String) :
    (dedent text).toList.splitOn '\n' = (text.toList.splitOn '\n').map (dropMargin (commonMargin text.toList)) := by
  rw [toList_dedent]
  apply splitOn_intercalate_map
  intro piece unbroken broken
  obtain ⟨blanks, whole, _⟩ := exists_dropMargin (blank_commonMargin _) piece
  rw [whole, List.mem_append, not_or] at unbroken
  exact unbroken.2 broken

/-- A text moved out is blank when it was. -/
theorem isBlankText_dedent (text : String) : isBlankText (dedent text) = isBlankText text := by
  have pieces : isBlankText text = (text.toList.splitOn '\n').all allBlank := by
    rw [← allBlank_intercalate, List.intercalate_splitOn, isBlankText]
  rw [isBlankText, toList_dedent, allBlank_intercalate, List.all_map, pieces]
  congr 1
  funext piece
  exact allBlank_dropMargin (blank_commonMargin _) piece

/-- The margins of pieces that are changed where they are not blank. -/
theorem margins_map {change : List Char → List Char} (blank : ∀ piece, allBlank (change piece) = allBlank piece)
    (pieces : List (List Char)) :
    margins (pieces.map change) = (pieces.filter fun piece => !allBlank piece).map fun piece => margin (change piece) := by
  have visible : ((fun piece => !allBlank piece) ∘ change) = fun piece => !allBlank piece := by
    funext piece
    rw [Function.comp_apply, blank]
  rw [margins, List.filter_map, visible, List.map_map]
  rfl

/-- Nothing is left for a second time. -/
theorem commonMargin_dedent (text : String) : commonMargin (dedent text).toList = [] := by
  have blank := blank_commonMargin text.toList
  have old : margins (text.toList.splitOn '\n') =
      (margins ((dedent text).toList.splitOn '\n')).map (commonMargin text.toList ++ ·) := by
    rw [splitOn_dedent, margins_map (allBlank_dropMargin blank), List.map_map, margins]
    refine List.map_congr_left fun piece member => ?_
    obtain ⟨isPiece, solid⟩ := List.mem_filter.mp member
    rw [Function.comp_apply, ← margin_append blank, ← eq_commonMargin_append isPiece]
    exact (Bool.not_eq_true' _).mp solid
  by_cases none : margins ((dedent text).toList.splitOn '\n') = []
  · rw [commonMargin_eq, none]
    rfl
  · -- the margins before are these with the common margin in front, so that they share no more
    have shared := commonMargin_eq text.toList
    rw [old, sharedFronts_map_append _ none, ← commonMargin_eq] at shared
    exact List.self_eq_append_right.mp shared

/-! ### Blocks moved in -/

/-- A piece moved in by white space put before it; a blank piece becomes empty. -/
def movedIn (front piece : List Char) : List Char :=
  if allBlank piece then [] else front ++ piece

theorem movedIn_of_blank {piece : List Char} (blank : allBlank piece = true) (front : List Char) :
    movedIn front piece = [] :=
  if_pos blank

theorem movedIn_of_solid {piece : List Char} (solid : allBlank piece = false) (front : List Char) :
    movedIn front piece = front ++ piece :=
  if_neg (Bool.eq_false_iff.mp solid)

theorem allBlank_movedIn {front : List Char} (blankFront : ∀ c ∈ front, isBlank c = true) (piece : List Char) :
    allBlank (movedIn front piece) = allBlank piece := by
  cases blank : allBlank piece with
  | true =>
      rw [movedIn_of_blank blank]
      rfl
  | false => rw [movedIn_of_solid blank, allBlank_append_of_blank blankFront, blank]

theorem toList_indentBlock (text : String) (columns : Nat) :
    (Patch.indentBlock text columns).toList =
      ['\n'].intercalate ((text.toList.splitOn '\n').map (movedIn (List.replicate columns ' '))) := by
  have lines : String.toList ∘ Patch.indentLine columns ∘ String.ofList = movedIn (List.replicate columns ' ') := by
    funext piece
    simp only [Function.comp_apply, Patch.indentLine, movedIn, isBlankText, String.toList_ofList]
    split
    · rfl
    · rw [String.toList_append, repeated, String.toList_ofList, String.toList_ofList]
  rw [Patch.indentBlock, join, split, String.toList_ofList, List.map_map, List.map_map, ← lines]
  rfl

theorem splitOn_indentBlock (text : String) (columns : Nat) :
    (Patch.indentBlock text columns).toList.splitOn '\n' =
      (text.toList.splitOn '\n').map (movedIn (List.replicate columns ' ')) := by
  rw [toList_indentBlock]
  apply splitOn_intercalate_map
  intro piece unbroken
  cases blank : allBlank piece with
  | true =>
      rw [movedIn_of_blank blank]
      exact List.not_mem_nil
  | false =>
      rw [movedIn_of_solid blank, List.mem_append, List.mem_replicate]
      rintro (⟨_, isSpace⟩ | inside)
      · exact absurd isSpace (by decide)
      · exact unbroken inside

/-- Moving a block in moves its margin, when there is anything that has one. -/
theorem commonMargin_indentBlock {text : String} {piece : List Char} (member : piece ∈ text.toList.splitOn '\n')
    (solid : allBlank piece = false) (columns : Nat) :
    commonMargin (Patch.indentBlock text columns).toList = List.replicate columns ' ' ++ commonMargin text.toList := by
  have moved : margins ((Patch.indentBlock text columns).toList.splitOn '\n') =
      (margins (text.toList.splitOn '\n')).map (List.replicate columns ' ' ++ ·) := by
    rw [splitOn_indentBlock, margins_map (allBlank_movedIn (isBlank_replicate columns)), margins, List.map_map]
    refine List.map_congr_left fun piece member => ?_
    have visible := (Bool.not_eq_true' _).mp (List.mem_filter.mp member).2
    rw [Function.comp_apply, movedIn_of_solid visible, margin_append (isBlank_replicate columns)]
  have nonempty : margins (text.toList.splitOn '\n') ≠ [] := by
    refine List.ne_nil_of_mem (List.mem_map_of_mem (List.mem_filter.mpr ⟨member, ?_⟩))
    rw [solid]
    rfl
  rw [commonMargin_eq, moved, sharedFronts_map_append _ nonempty, ← commonMargin_eq]

/-! ### In and out again -/

section

variable {text : String} {piece : List Char} (member : piece ∈ text.toList.splitOn '\n')

include member

/-- A piece that is moved in and out again is the piece moved out, and empty when it is blank. -/
theorem dropMargin_movedIn (columns : Nat) :
    dropMargin (commonMargin (Patch.indentBlock text columns).toList) (movedIn (List.replicate columns ' ') piece) =
      movedIn [] (dropMargin (commonMargin text.toList) piece) := by
  have left := allBlank_dropMargin (blank_commonMargin text.toList) piece
  cases blank : allBlank piece with
  | true =>
      rw [movedIn_of_blank blank, movedIn_of_blank (left.trans blank)]
      cases commonMargin (Patch.indentBlock text columns).toList <;> rfl
  | false =>
      have whole := eq_commonMargin_append member blank
      rw [movedIn_of_solid blank, movedIn_of_solid (left.trans blank), commonMargin_indentBlock member blank,
        List.nil_append]
      generalize dropMargin (commonMargin text.toList) piece = rest at whole
      rw [whole, ← List.append_assoc, dropMargin_append]

/-- A piece that is moved out and in again by the common margin is the piece, and empty when it is blank. -/
theorem movedIn_dropMargin :
    movedIn (commonMargin text.toList) (dropMargin (commonMargin text.toList) piece) = movedIn [] piece := by
  have left := allBlank_dropMargin (blank_commonMargin text.toList) piece
  cases blank : allBlank piece with
  | true => rw [movedIn_of_blank blank, movedIn_of_blank (left.trans blank)]
  | false =>
      rw [movedIn_of_solid blank, movedIn_of_solid (left.trans blank), List.nil_append]
      exact (eq_commonMargin_append member blank).symm

end

end Response

/-- Moving a block in, by any number of columns, and out again is moving it out and leaving its blank lines empty. Moving a
    text out a second time changes nothing. What is taken away is one and the same white space: put before every line that
    is not blank it gives the text, again with empty blank lines. -/
theorem dedent_indentBlock (text : String) (columns : Nat) :
    Response.dedent (Patch.indentBlock text columns) = Patch.indentBlock (Response.dedent text) 0 ∧
      Response.dedent (Response.dedent text) = Response.dedent text ∧
      ∃ common : List Char, common.all isBlank = true ∧
        ['\n'].intercalate (((Response.dedent text).toList.splitOn '\n').map (Response.movedIn common)) =
          (Patch.indentBlock text 0).toList := by
  refine ⟨?_, ?_, Response.commonMargin text.toList, ?_, ?_⟩
  · apply String.toList_inj.mp
    rw [Response.toList_dedent, Response.splitOn_indentBlock, Response.toList_indentBlock (Response.dedent text),
      Response.splitOn_dedent, List.map_map, List.map_map, List.replicate_zero]
    refine congrArg (List.intercalate ['\n']) (List.map_congr_left fun piece member => ?_)
    rw [Function.comp_apply, Function.comp_apply, Response.dropMargin_movedIn member]
  · rw [Response.dedent, Response.commonMargin_dedent]
  · exact List.all_eq_true.mpr (Response.blank_commonMargin text.toList)
  · rw [Response.splitOn_dedent, Response.toList_indentBlock, List.map_map, List.replicate_zero]
    refine congrArg (List.intercalate ['\n']) (List.map_congr_left fun piece member => ?_)
    rw [Function.comp_apply, Response.movedIn_dropMargin member]

end SourceRecovery
