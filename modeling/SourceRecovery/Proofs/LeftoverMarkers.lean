/-
Module: SourceRecovery.Proofs.LeftoverMarkers
Layer: Proofs
Purpose: Which lines a text loses with its leftover markers. Lines with the marker go, and so do notes on opcodes behind
  which nothing is kept but blank lines. All other lines stay in their order. The loss is accepted only when what is left
  is acceptable source in which nothing looks unfinished.
Imports: SourceRecovery.Agent.Recovery, SourceRecovery.Proofs.LineText, SourceRecovery.Proofs.TextSearch
Trusted boundary: none
Main exports: Text.split_join, Recovery.IsNote, Recovery.isOpcodeNote_iff, Recovery.Cleared,
  Recovery.dropNotes_concat, Recovery.exists_cleared, Recovery.Acceptable, stripLeftoverMarkers_cleared
Open obligations: none
-/
import SourceRecovery.Agent.Recovery
import SourceRecovery.Proofs.LineText
import SourceRecovery.Proofs.TextSearch

namespace SourceRecovery

/-! ### Lines put together -/

namespace Text

/-- A text is what is left of it behind characters of a class. -/
theorem Chars.exists_dropWhile (p : Char → Bool) (cs : List Char) :
    ∃ front, cs = front ++ cs.dropWhile p ∧ ∀ c ∈ front, p c = true :=
  ⟨cs.takeWhile p, List.takeWhile_append_dropWhile.symm, fun c member => List.all_eq_true.mp List.all_takeWhile c member⟩

/-- Pieces without line feeds are the pieces of the text that is put together from them. -/
theorem split_join {pieces : List String} (nonempty : pieces ≠ []) (unbroken : ∀ piece ∈ pieces, '\n' ∉ piece.toList) :
    split (join pieces) = pieces := by
  have parts : (['\n'].intercalate (pieces.map String.toList)).splitOn '\n' = pieces.map String.toList := by
    apply List.splitOn_intercalate
    · intro part member
      obtain ⟨piece, isPiece, rfl⟩ := List.mem_map.mp member
      exact unbroken piece isPiece
    · rw [ne_eq, List.map_eq_nil_iff]
      exact nonempty
  have same : String.ofList ∘ String.toList = id := funext fun _ => String.ofList_toList
  rw [split, join, String.toList_ofList, parts, List.map_map, same, List.map_id]

theorem lineFeed_not_mem_of_mem_split {s piece : String} (member : piece ∈ split s) : '\n' ∉ piece.toList := by
  obtain ⟨cs, isPiece, rfl⟩ := List.mem_map.mp member
  rw [String.toList_ofList]
  exact Chars.not_mem_of_mem_splitOn isPiece

/-- What no piece contains, no line of the pieces put together contains. -/
theorem not_contains_of_mem_lines_join {pieces : List String} {pattern line : String}
    (unbroken : ∀ piece ∈ pieces, '\n' ∉ piece.toList) (free : ∀ piece ∈ pieces, contains piece pattern = false)
    (member : line ∈ lines (join pieces)) : contains line pattern = false := by
  rw [Bool.eq_false_iff]
  intro holds
  obtain ⟨k, found⟩ := List.mem_iff_getElem?.mp member
  obtain ⟨_, piece, isPiece, inPiece⟩ := exists_piece_of_line found holds
  -- The text of no pieces has no lines, but it has one piece, so it is a case of its own.
  cases pieces with
  | nil =>
      cases member
  | cons first rest =>
      rw [split_join (List.cons_ne_nil first rest) unbroken] at isPiece
      rw [free piece (List.mem_of_getElem? isPiece)] at inPiece
      cases inPiece

end Text

namespace Recovery

open Text

/-! ### Notes -/

/-- A note on an opcode: its text stands behind comment signs, if there are any, with white space before and behind
    them. -/
def IsNote (line : String) : Prop :=
  ∃ margin signs gap rest : List Char, line.toList = margin ++ (signs ++ (gap ++ (opcodeNote.toList ++ rest))) ∧
    (∀ c ∈ margin, isBlank c = true) ∧ (∀ c ∈ signs, c = '#') ∧ ∀ c ∈ gap, isBlank c = true

/-- A note starts with a character that is neither white space nor a comment sign, and ends with one that is no white
    space. -/
theorem opcodeNote_eq : opcodeNote.toList = 'U' :: "nsupported opcode".toList ++ [':'] := by
  decide

/-- Trimming takes away the margin of a note and white space behind it. -/
theorem exists_trim_note {signs gap : List Char} (hashes : ∀ c ∈ signs, c = '#') (blankGap : ∀ c ∈ gap, isBlank c = true)
    (rest : List Char) :
    ∃ blanks, (∀ c ∈ blanks, isBlank c = true) ∧
      Chars.trim (signs ++ (gap ++ (opcodeNote.toList ++ rest))) =
        signs ++ (blanks ++ (opcodeNote.toList ++ Chars.trimEnd rest)) := by
  have ends (front : List Char) : Chars.trimEnd (front ++ (opcodeNote.toList ++ rest)) =
      front ++ (opcodeNote.toList ++ Chars.trimEnd rest) := by
    have cut := Chars.trimEnd_append_cons (front ++ 'U' :: "nsupported opcode".toList) (c := ':') (by decide) rest
    rw [opcodeNote_eq]
    simpa using cut
  cases signs with
  | nil =>
      refine ⟨[], List.forall_mem_nil _, ?_⟩
      have starts : Chars.trim (opcodeNote.toList ++ rest) = Chars.trimEnd (opcodeNote.toList ++ rest) := by
        rw [opcodeNote_eq]
        exact Chars.trim_cons (by decide) _
      rw [List.nil_append, Chars.trim_blanks_append blankGap, starts]
      exact ends []
  | cons sign signs =>
      refine ⟨gap, blankGap, ?_⟩
      have solid : isBlank sign = false := by
        rw [hashes sign List.mem_cons_self]
        decide
      rw [List.cons_append, Chars.trim_cons solid, ← List.cons_append, ← List.append_assoc, ends, List.append_assoc]

/-- The text of a note is found behind its comment signs and the white space there. -/
theorem trimStart_dropWhile_note {signs blanks : List Char} (hashes : ∀ c ∈ signs, c = '#')
    (blank : ∀ c ∈ blanks, isBlank c = true) (rest : List Char) :
    Chars.trimStart ((signs ++ (blanks ++ (opcodeNote.toList ++ rest))).dropWhile (· == '#')) =
      opcodeNote.toList ++ rest := by
  have noSigns : (blanks ++ (opcodeNote.toList ++ rest)).dropWhile (· == '#') = blanks ++ (opcodeNote.toList ++ rest) := by
    cases blanks with
    | nil =>
        rw [opcodeNote_eq]
        rfl
    | cons c blanks =>
        apply List.dropWhile_cons_of_neg
        rw [beq_iff_eq]
        rintro rfl
        cases blank '#' List.mem_cons_self
  rw [List.dropWhile_append_of_pos (fun c member => beq_iff_eq.mpr (hashes c member)), noSigns, Chars.trimStart,
    List.dropWhile_append_of_pos blank, opcodeNote_eq]
  exact List.dropWhile_cons_of_neg (by decide)

theorem isOpcodeNote_iff (line : String) : isOpcodeNote line = true ↔ IsNote line := by
  rw [isOpcodeNote, Chars.startsWith, List.isPrefixOf_iff_prefix, Text.trim, String.toList_ofList]
  constructor
  · rintro ⟨rest, isNote⟩
    obtain ⟨margin, whole, blank⟩ := Chars.exists_dropWhile isBlank line.toList
    obtain ⟨blanks, trimmed, _⟩ := Chars.exists_trimEnd (Chars.trimStart line.toList)
    obtain ⟨signs, text, hashes⟩ := Chars.exists_dropWhile (· == '#') (Chars.trim line.toList)
    obtain ⟨gap, unsigned, blankGap⟩ :=
      Chars.exists_dropWhile isBlank ((Chars.trim line.toList).dropWhile (· == '#'))
    refine ⟨margin, signs, gap, rest ++ blanks, ?_, blank, fun c member => beq_iff_eq.mp (hashes c member), blankGap⟩
    calc line.toList
        = margin ++ Chars.trimStart line.toList := whole
      _ = margin ++ (Chars.trim line.toList ++ blanks) := congrArg (margin ++ ·) trimmed
      _ = margin ++ ((signs ++ (gap ++ (opcodeNote.toList ++ rest))) ++ blanks) := by
          rw [isNote, Chars.trimStart, ← unsigned, ← text]
      _ = margin ++ (signs ++ (gap ++ (opcodeNote.toList ++ (rest ++ blanks)))) := by
          simp only [List.append_assoc]
  · rintro ⟨margin, signs, gap, rest, whole, blank, hashes, blankGap⟩
    obtain ⟨blanks, areBlank, trimmed⟩ := exists_trim_note hashes blankGap rest
    rw [whole, Chars.trim_blanks_append blank, trimmed, trimStart_dropWhile_note hashes areBlank]
    exact List.prefix_append _ _

/-- A note is not blank. -/
theorem isBlankText_of_isNote {line : String} (note : IsNote line) : isBlankText line = false := by
  obtain ⟨margin, signs, gap, rest, whole, _⟩ := note
  have member : 'U' ∈ line.toList := by
    rw [whole, opcodeNote_eq]
    simp
  rw [isBlankText, Chars.allBlank, List.all_eq_false]
  exact ⟨'U', member, by decide⟩

/-! ### Lines that go -/

/-- The lines that are kept of some lines, told from the first line on: how a line is treated depends on it and on what
    is kept of the lines behind it. -/
inductive Cleared (marker : String) : List String → List String → Prop where
  | nil : Cleared marker [] []
  | marked {line : String} {lines kept : List String} (holds : contains line marker = true)
      (behind : Cleared marker lines kept) : Cleared marker (line :: lines) kept
  | noted {line : String} {lines kept : List String} (note : IsNote line)
      (blank : ∀ other ∈ kept, isBlankText other = true) (behind : Cleared marker lines kept) :
      Cleared marker (line :: lines) kept
  | stays {line : String} {lines kept : List String} (free : contains line marker = false)
      (needed : IsNote line → ∃ other ∈ kept, isBlankText other = false) (behind : Cleared marker lines kept) :
      Cleared marker (line :: lines) (line :: kept)

/-- What is kept are lines of the text, in their order. -/
theorem Cleared.sublist {marker : String} {lines kept : List String} (cleared : Cleared marker lines kept) :
    kept.Sublist lines := by
  induction cleared with
  | nil =>
      exact .slnil
  | marked _ _ ih =>
      exact ih.cons _
  | noted _ _ _ ih =>
      exact ih.cons _
  | stays _ _ _ ih =>
      exact ih.cons_cons _

/-- No line with the marker is kept. -/
theorem Cleared.free {marker line : String} {lines kept : List String} (cleared : Cleared marker lines kept)
    (member : line ∈ kept) : contains line marker = false := by
  induction cleared with
  | nil =>
      cases member
  | marked _ _ ih =>
      exact ih member
  | noted _ _ _ ih =>
      exact ih member
  | stays free _ _ ih =>
      rcases List.mem_cons.mp member with rfl | later
      · exact free
      · exact ih later

/-- Notes are dropped from behind, so the first line is looked at last: it is reached when all that is kept by then is
    blank. -/
theorem dropNotes_concat (lines : List String) (line : String) :
    dropNotes (lines ++ [line]) =
      dropNotes lines ++ if (dropNotes lines).all isBlankText then dropNotes [line] else [line] := by
  induction lines with
  | nil =>
      rfl
  | cons first lines ih =>
      rw [List.cons_append, dropNotes, dropNotes]
      split
      · rename_i blank
        rw [ih, List.all_cons, blank, Bool.true_and, List.cons_append]
      · rename_i solid
        split
        · exact ih
        · rw [List.all_cons, Bool.eq_false_iff.mpr solid, Bool.false_and]
          rfl

theorem dropNotes_singleton (line : String) : dropNotes [line] = if isOpcodeNote line then [] else [line] := by
  rw [dropNotes, dropNotes]
  cases note : isOpcodeNote line with
  | true =>
      rw [isBlankText_of_isNote ((isOpcodeNote_iff line).mp note)]
      rfl
  | false =>
      exact ite_self [line]

/-- A line without the marker goes when it is a note and nothing is kept behind it but blank lines. -/
theorem cleared_line {marker line : String} {lines kept : List String} (free : contains line marker = false)
    (behind : Cleared marker lines kept.reverse) :
    Cleared marker (line :: lines)
      ((if kept.all isBlankText then dropNotes [line] else [line]).reverse ++ kept.reverse) := by
  cases blank : kept.all isBlankText with
  | true =>
      rw [if_pos rfl, dropNotes_singleton]
      cases note : isOpcodeNote line with
      | true =>
          refine .noted ((isOpcodeNote_iff line).mp note) ?_ behind
          intro other member
          exact List.all_eq_true.mp blank other (List.mem_reverse.mp member)
      | false =>
          refine .stays free ?_ behind
          intro isNote
          rw [(isOpcodeNote_iff line).mpr isNote] at note
          cases note
  | false =>
      obtain ⟨other, member, solid⟩ := List.all_eq_false.mp blank
      refine .stays free ?_ behind
      intro _
      exact ⟨other, List.mem_reverse.mpr member, Bool.eq_false_iff.mpr solid⟩

/-- Which lines are left when the lines with the marker and then the notes at the end are dropped. -/
theorem cleared_dropNotes (marker : String) (lines : List String) :
    Cleared marker lines (dropNotes (lines.filter fun line => !contains line marker).reverse).reverse := by
  induction lines with
  | nil =>
      exact .nil
  | cons line lines ih =>
      cases holds : contains line marker with
      | true =>
          rw [List.filter_cons_of_neg (by simp [holds])]
          exact .marked holds ih
      | false =>
          rw [List.filter_cons_of_pos (by simp [holds]), List.reverse_cons, dropNotes_concat, List.reverse_append]
          exact cleared_line holds ih

/-- The lines of a text without its markers. -/
theorem exists_cleared (source marker : String) :
    ∃ kept, Cleared marker (split source) kept ∧ withoutMarkers source marker = join kept :=
  ⟨_, cleared_dropNotes marker (split source), rfl⟩

-- The first note has a line behind it that is kept, and the second one has not.
example : withoutMarkers "# Unsupported opcode: A\nx = 1\n\t## Unsupported opcode: B\n# gap\n" "gap" =
    "# Unsupported opcode: A\nx = 1\n" := by
  decide +kernel

/-! ### Accepting the loss -/

section Acceptance

variable [Source.Grammar] {source : String} {index : Index} {settings : Settings}

/-- Acceptable source in which nothing looks unfinished. -/
structure Acceptable (text : String) (index : Index) (settings : Settings) : Prop where
  valid : Source.isValid text = true
  finished : suspectedStubs text index settings = []

theorem acceptable_iff {text : String} :
    (Source.isValid text && !hasSuspectedStubs text index settings) = true ↔ Acceptable text index settings := by
  rw [hasSuspectedStubs, Bool.not_not, Bool.and_eq_true, List.isEmpty_iff]
  constructor
  · rintro ⟨valid, finished⟩
    exact ⟨valid, finished⟩
  · intro acceptable
    exact ⟨acceptable.valid, acceptable.finished⟩

theorem stripLeftoverMarkers_of_acceptable (holds : contains source settings.gapMarker = true)
    (acceptable : Acceptable (withoutMarkers source settings.gapMarker) index settings) :
    stripLeftoverMarkers source index settings = withoutMarkers source settings.gapMarker := by
  rw [stripLeftoverMarkers, if_pos holds]
  exact if_pos (acceptable_iff.mpr acceptable)

theorem stripLeftoverMarkers_cases (source : String) (index : Index) (settings : Settings) :
    stripLeftoverMarkers source index settings = source ∨
      stripLeftoverMarkers source index settings = withoutMarkers source settings.gapMarker ∧
        Acceptable (withoutMarkers source settings.gapMarker) index settings := by
  unfold stripLeftoverMarkers
  split
  · dsimp only
    split
    · rename_i accepted
      exact .inr ⟨rfl, acceptable_iff.mp accepted⟩
    · exact .inl rfl
  · exact .inl rfl

end Acceptance

end Recovery

/-- A text stays as it is, or it loses exactly the lines with the marker and the notes behind which nothing is kept but
    blank lines. What is left then is acceptable, no line of it holds the marker, and a text with the marker does lose
    these lines whenever what is left is acceptable. -/
theorem stripLeftoverMarkers_cleared [Source.Grammar] (source : String) (index : Index) (settings : Settings) :
    let marker := settings.gapMarker
    let text := stripLeftoverMarkers source index settings
    ∃ kept, Recovery.Cleared marker (Text.split source) kept ∧
      (text = source ∨
        text = Text.join kept ∧ (kept ≠ [] → Text.split text = kept) ∧ Recovery.Acceptable text index settings ∧
          ∀ line ∈ Text.lines text, Text.contains line marker = false) ∧
      (Text.contains source marker = true → Recovery.Acceptable (Text.join kept) index settings →
        text = Text.join kept) := by
  intro marker text
  obtain ⟨kept, cleared, stripped⟩ := Recovery.exists_cleared source marker
  have unbroken : ∀ line ∈ kept, '\n' ∉ line.toList := fun line member =>
    Text.lineFeed_not_mem_of_mem_split (cleared.sublist.subset member)
  refine ⟨kept, cleared, ?_, ?_⟩
  · rcases Recovery.stripLeftoverMarkers_cases source index settings with same | ⟨changed, acceptable⟩
    · exact .inl same
    · right
      rw [stripped] at acceptable
      have isJoin : text = Text.join kept := changed.trans stripped
      rw [isJoin]
      exact ⟨rfl, fun nonempty => Text.split_join nonempty unbroken, acceptable,
        fun line member => Text.not_contains_of_mem_lines_join unbroken (fun _ => cleared.free) member⟩
  · intro holds acceptable
    rw [← stripped] at acceptable ⊢
    exact Recovery.stripLeftoverMarkers_of_acceptable holds acceptable

end SourceRecovery
