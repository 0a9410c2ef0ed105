/-
Module: SourceRecovery.Proofs.CodeExtraction
Layer: Proofs
Purpose: Code in the free text of an agent. The search for a fence finds the first one, whatever fences and stray signs
  stand around it, and the code between the fences is given back character by character. Whatever an answer is, code
  that is found in it is acceptable source and not blank.
Imports: Mathlib.Data.List.TakeWhile, SourceRecovery.Proofs.TextMargins
Trusted boundary: none
Main exports: Text.Chars.splitAt?_append, Response.Fenceable, Response.trimEdges_append_lineFeed,
  Response.fenced?_append
Open obligations: none
-/
import Mathlib.Data.List.TakeWhile
import SourceRecovery.Proofs.TextMargins

namespace SourceRecovery

open Text

namespace Text.Chars

/-! ### First occurrences -/

theorem dropPattern?_eq_none {pattern cs : List Char} (other : ¬ pattern <+: cs) : dropPattern? pattern cs = none := by
  cases dropped : dropPattern? pattern cs with
  | none => rfl
  | some rest => exact absurd ⟨rest, (eq_append_of_dropPattern? dropped).symm⟩ other

/-- A text is split at a pattern that does not start earlier. -/
theorem splitAt?_append {pattern before rest : List Char}
    (first : ∀ back, back <:+ before → back ≠ [] → ¬ pattern <+: back ++ (pattern ++ rest)) :
    splitAt? pattern (before ++ (pattern ++ rest)) = some (before, rest) := by
  induction before with
  | nil =>
      have here := dropPattern?_append pattern rest
      rw [List.nil_append]
      cases text : pattern ++ rest with
      | nil =>
          obtain ⟨noPattern, noRest⟩ := List.append_eq_nil_iff.mp text
          rw [noPattern, noRest]
          rfl
      | cons c cs =>
          rw [text] at here
          simp only [splitAt?, here]
  | cons c before ih =>
      have notHere := dropPattern?_eq_none (first (c :: before) (List.suffix_refl _) (List.cons_ne_nil c before))
      have later := ih fun back isBack => first back (isBack.trans (List.suffix_cons c before))
      rw [List.cons_append] at notHere ⊢
      simp only [splitAt?, notHere, later]

/-- What stands at the front of two texts put together stands at the front of the first one, or it reaches into the
    second one. -/
theorem starts_append_cases {pattern front back : List Char} (starts : pattern <+: front ++ back) :
    pattern <+: front ∨ ∃ part, pattern = front ++ part ∧ part <+: back := by
  rcases List.prefix_or_prefix_of_prefix starts (List.prefix_append front back) with inside | ⟨part, whole⟩
  · exact .inl inside
  · rw [← whole, List.prefix_append_right_inj] at starts
    exact .inr ⟨part, whole.symm, starts⟩

/-- A pattern whose last character is nowhere else in it does not overlap with itself. So it does not start within a text
    that does not contain it, also where it follows this text. -/
theorem not_starts_of_last {front before back : List Char} {last : Char} (once : last ∉ front)
    (absent : ¬ front ++ [last] <:+: before) (isBack : back <:+ before) (nonempty : back ≠ []) (rest : List Char) :
    ¬ front ++ [last] <+: back ++ (front ++ [last] ++ rest) := by
  intro early
  rcases starts_append_cases early with inside | ⟨part, whole, again⟩
  · exact absent (inside.isInfix.trans isBack.isInfix)
  · rcases List.eq_nil_or_concat part with none | ⟨_, other, isPart⟩
    · rw [none, List.append_nil] at whole
      exact absent (whole ▸ isBack.isInfix)
    · -- the part that reaches into the pattern ends with its last character, but is too short for that
      rw [List.concat_eq_append] at isPart
      rw [isPart, ← List.append_assoc] at whole
      have isLast : last = other := by simpa using congrArg List.getLast? whole
      have lengths := congrArg List.length whole
      have short : part.length ≤ front.length := by
        rw [isPart]
        simp only [List.length_append, List.length_singleton] at lengths ⊢
        have longer := List.length_pos_iff.mpr nonempty
        omega
      rw [List.append_assoc] at again
      have inFront := List.prefix_of_prefix_length_le again (List.prefix_append front _) short
      refine once (inFront.subset ?_)
      rw [isPart, isLast]
      exact List.mem_append_right _ List.mem_cons_self

/-- A pattern without a separator does not start in a text without the pattern that the separator follows. -/
theorem not_starts_of_separator {pattern before back : List Char} {sep : Char} (whole : sep ∉ pattern)
    (absent : ¬ pattern <:+: before) (isBack : back <:+ before ++ [sep]) (nonempty : back ≠ []) (rest : List Char) :
    ¬ pattern <+: back ++ rest := by
  intro early
  rcases List.suffix_concat_iff.mp isBack with none | ⟨part, isPart, inBefore⟩
  · exact nonempty none
  · rw [isPart, List.append_assoc, List.singleton_append] at early
    rcases starts_append_cases early with inside | ⟨more, isPattern, atSep⟩
    · exact absent (inside.isInfix.trans inBefore.isInfix)
    · rcases List.prefix_cons_iff.mp atSep with none | ⟨_, isMore, _⟩
      · rw [none, List.append_nil] at isPattern
        exact absent (isPattern ▸ inBefore.isInfix)
      · rw [isPattern, isMore] at whole
        exact whole (List.mem_append_right part List.mem_cons_self)

end Text.Chars

namespace Response

open Text.Chars

/-! ### Blocks -/

/-- Code that a block gives back as it is: acceptable source without a fence, without white space at its end, with a first
    line that is not blank, and moved out as far as it goes. -/
structure Fenceable [Source.Grammar] (code : String) : Prop where
  valid : Source.isValid code = true
  unfenced : Text.contains code "```" = false
  ends : Text.trimEnd code = code
  starts : ∀ line ∈ (split code).head?, isBlankText line = false
  flush : commonMargin code.toList = []

/-- A first line that is not blank has a visible character, with no line feed before it. -/
theorem exists_visible {code : String} (starts : ∀ line ∈ (split code).head?, isBlankText line = false) :
    ∃ front c back, code.toList = front ++ c :: back ∧ isBlank c = false ∧ '\n' ∉ front := by
  cases pieces : code.toList.splitOn '\n' with
  | nil => exact absurd pieces (List.splitOn_ne_nil '\n' code.toList)
  | cons first others =>
      have whole : ['\n'].intercalate (first :: others) = code.toList := pieces ▸ List.intercalate_splitOn '\n'
      obtain ⟨behind, isText⟩ : ∃ behind, code.toList = first ++ behind := by
        rw [← whole]
        cases others with
        | nil => exact ⟨[], by rw [List.intercalate_singleton, List.append_nil]⟩
        | cons second others => exact ⟨_, by rw [List.intercalate_cons_cons, List.append_assoc]⟩
      have solid : allBlank first = false := by
        have isHead : String.ofList first ∈ (split code).head? := by
          rw [split, pieces]
          rfl
        have visible := starts _ isHead
        rwa [isBlankText, String.toList_ofList] at visible
      have unbroken : '\n' ∉ first := not_mem_of_mem_splitOn (pieces ▸ List.mem_cons_self)
      obtain ⟨c, member, notBlank⟩ := List.all_eq_false.mp solid
      obtain ⟨front, back, isFirst⟩ := List.append_of_mem member
      refine ⟨front, c, back ++ behind, ?_, Bool.eq_false_iff.mpr notBlank, ?_⟩
      · rw [isText, isFirst, List.append_assoc, List.cons_append]
      · rw [isFirst, List.mem_append, not_or] at unbroken
        exact unbroken.1

/-- The white space before a first line that is not blank is on that line. -/
theorem lineFeed_not_mem_margin {code : String} (starts : ∀ line ∈ (split code).head?, isBlankText line = false) :
    '\n' ∉ margin code.toList := by
  obtain ⟨front, c, back, whole, visible, unbroken⟩ := exists_visible starts
  rw [whole, margin_append_cons visible]
  exact fun broken => unbroken ((List.takeWhile_prefix isBlank).subset broken)

/-- The line feed before the closing fence is taken away from the code, and nothing else. -/
theorem trimEdges_append_lineFeed {code : List Char} (ends : Chars.trimEnd code = code)
    (starts : '\n' ∉ margin code) : trimEdges (code ++ ['\n']) = code := by
  have trimmed : Chars.trimEnd (code ++ ['\n']) = code := by
    rw [trimEnd_append_blanks code (by decide), ends]
  have kept : (margin code).reverse.takeWhile (· != '\n') = (margin code).reverse := by
    rw [List.takeWhile_eq_self_iff]
    intro c member
    rw [bne_iff_ne]
    rintro rfl
    exact starts (List.mem_reverse.mp member)
  rw [trimEdges, trimmed]
  change (((margin code).reverse.takeWhile (· != '\n')).reverse) ++ code.drop (margin code).length = code
  rw [kept, List.reverse_reverse]
  exact List.prefix_iff_eq_append.mp (List.takeWhile_prefix isBlank)

/-- The opening line of a block that is marked as code ends with its only line feed, so it is found where it stands
    first. -/
theorem splitAt?_opening {before : String} (unmarked : Text.contains before "```python\n" = false) (rest : List Char) :
    splitAt? "```python\n".toList (before.toList ++ ("```python\n".toList ++ rest)) = some (before.toList, rest) := by
  have absent : ¬ "```python".toList ++ ['\n'] <:+: before.toList := by
    rw [← contains_iff_infix]
    exact Bool.eq_false_iff.mp unmarked
  apply splitAt?_append
  intro back isBack nonempty
  exact not_starts_of_last (by decide) absent isBack nonempty rest

/-- The closing fence stands on a line of its own, so that nothing at the end of the code can belong to it. -/
theorem splitAt?_closing {code : String} (unfenced : Text.contains code "```" = false) (rest : List Char) :
    splitAt? "```".toList (code.toList ++ ['\n'] ++ ("```".toList ++ rest)) = some (code.toList ++ ['\n'], rest) := by
  have absent : ¬ "```".toList <:+: code.toList := by
    rw [← contains_iff_infix]
    exact Bool.eq_false_iff.mp unfenced
  apply splitAt?_append
  intro back isBack nonempty
  exact not_starts_of_separator (by decide) absent isBack nonempty _

section

variable [Source.Grammar] {code before : String}

/-- The first block that is marked as code is found, and its code is what stands in it. -/
theorem fenced?_append (plain : Fenceable code) (unmarked : Text.contains before "```python\n" = false) (after : String) :
    fenced? (before ++ "```python\n" ++ code ++ "\n```" ++ after).toList = some code.toList := by
  have text : (before ++ "```python\n" ++ code ++ "\n```" ++ after).toList =
      before.toList ++ ("```python\n".toList ++ (code.toList ++ ['\n'] ++ ("```".toList ++ after.toList))) := by
    simp only [String.toList_append, List.append_assoc]
    rfl
  have found : between? "```python\n".toList (before ++ "```python\n" ++ code ++ "\n```" ++ after).toList =
      some (code.toList ++ ['\n']) := by
    rw [between?, text, splitAt?_opening unmarked]
    dsimp only [Option.bind_eq_bind, Option.bind_some]
    rw [splitAt?_closing plain.unfenced]
    rfl
  have ends : Chars.trimEnd code.toList = code.toList := by
    have same := congrArg String.toList plain.ends
    rwa [Text.trimEnd, String.toList_ofList] at same
  rw [fenced?, found]
  exact congrArg some (trimEdges_append_lineFeed ends (lineFeed_not_mem_margin plain.starts))

theorem Fenceable.visible (plain : Fenceable code) : allBlank code.toList = false := by
  obtain ⟨front, c, back, whole, visible, _⟩ := exists_visible plain.starts
  rw [whole, allBlank, List.all_eq_false]
  exact ⟨c, List.mem_append_right front List.mem_cons_self, Bool.eq_false_iff.mp visible⟩

/-- Code in an answer is a text found there, not blank, moved out, and acceptable source. -/
theorem exists_of_extractCode {answer : String} (found : extractCode answer = some code) :
    ∃ text : List Char, allBlank text = false ∧ code = dedent (String.ofList text) ∧ Source.isValid code = true := by
  rw [extractCode] at found
  dsimp only at found
  split at found
  case h_1 => cases found
  case h_2 text _ =>
    split at found
    case isTrue => cases found
    case isFalse visible =>
      split at found
      case isTrue valid =>
        cases found
        exact ⟨text, Bool.eq_false_iff.mpr visible, rfl, valid⟩
      case isFalse => cases found

end

end Response

/-- Code that stands in a block between two fences, with any text before the block in which no block is marked as code and
    any text behind it, is given back as it is. And for every answer, code that is found in it is acceptable source and
    not blank. -/
theorem extractCode_fenced [Source.Grammar] :
    (∀ code before after : String, Response.Fenceable code → Text.contains before "```python\n" = false →
      Response.extractCode (before ++ "```python\n" ++ code ++ "\n```" ++ after) = some code) ∧
    ∀ answer code : String, Response.extractCode answer = some code →
      Source.isValid code = true ∧ Text.isBlankText code = false := by
  constructor
  · intro code before after plain unmarked
    have found := Response.fenced?_append plain unmarked after
    have stays : Response.dedent code = code := by
      rw [Response.dedent, plain.flush]
    rw [Response.extractCode, found]
    simp only [plain.visible, Bool.false_eq_true, if_false, String.ofList_toList, stays, plain.valid, if_true]
  · intro answer code found
    obtain ⟨text, visible, isCode, valid⟩ := Response.exists_of_extractCode found
    refine ⟨valid, ?_⟩
    rw [isCode, Response.isBlankText_dedent, Text.isBlankText, String.toList_ofList, visible]

/-- Ticks in the code and right before its block, a block without a mark before it and a marked one behind it. -/
theorem extractCode_fenced_strayTicks :
    let code := "if x:\n  y = '``'"
    let before := "Use ``y``:\n```\nno\n```\n`"
    let after := "\n```python\nz\n```"
    Response.Fenceable code ∧ Text.contains before "```python\n" = false ∧
      Response.extractCode (before ++ "```python\n" ++ code ++ "\n```" ++ after) = some code := by
  intro code before after
  have plain : Response.Fenceable code := by
    constructor
    · decide +kernel
    · decide +kernel
    · decide +kernel
    · decide +kernel
    · decide +kernel
  have unmarked : Text.contains before "```python\n" = false := by decide +kernel
  exact ⟨plain, unmarked, extractCode_fenced.1 code before after plain unmarked⟩

end SourceRecovery
