/-
Module: SourceRecovery.Proofs.LineText
Layer: Proofs
Purpose: Lines and words of a text that is put together from pieces: white space at the ends of a piece,
  words between blanks, and the lines of a listing, each by its column and what stands there.
Imports: SourceRecovery.Listing.Printer, SourceRecovery.Listing.Reader
Trusted boundary: none
Main exports: Text.isBlank_eq_false_of_apart, Text.Chars.words_append_blank, Listing.row, Listing.row_indent,
  Listing.row_text, Listing.linesOf_join
Open obligations: none
-/
import SourceRecovery.Listing.Printer
import SourceRecovery.Listing.Reader

namespace SourceRecovery

namespace Text

/-- The code points of white space. -/
def blankCodes : List Nat :=
  [9, 10, 11, 12, 13, 32, 0x85, 0xa0, 0x1680, 0x2000, 0x2001, 0x2002, 0x2003, 0x2004, 0x2005, 0x2006, 0x2007, 0x2008,
   0x2009, 0x200a, 0x2028, 0x2029, 0x202f, 0x205f, 0x3000]

theorem mem_blankCodes {c : Char} (blank : isBlank c = true) : c.toNat ∈ blankCodes := by
  simp only [isBlank, Bool.or_eq_true, Bool.and_eq_true, decide_eq_true_eq, beq_iff_eq] at blank
  simp only [blankCodes, List.mem_cons, List.not_mem_nil, or_false]
  omega

/-- A class in which none of the code points of white space lies has no white space. -/
theorem isBlank_eq_false_of_apart {p : Char → Bool} (apart : ∀ code ∈ blankCodes, p (Char.ofNat code) = false)
    {c : Char} (inside : p c = true) : isBlank c = false := by
  rw [← Bool.not_eq_true]
  intro blank
  have outside := apart c.toNat (mem_blankCodes blank)
  rw [Char.ofNat_toNat, inside] at outside
  cases outside

end Text

namespace Text.Chars

/-! ### White space at the ends -/

/-- Without characters of the class nothing is dropped. -/
theorem dropEndWhile_of_none {p : Char → Bool} {cs : List Char} (absent : ∀ c ∈ cs, p c = false) :
    dropEndWhile p cs = cs := by
  have kept : cs.reverse.dropWhile p = cs.reverse := by
    cases back : cs.reverse with
    | nil =>
        rfl
    | cons c rest =>
        have member : c ∈ cs := List.mem_reverse.mp (by simp [back])
        exact List.dropWhile_cons_of_neg (by simp [absent c member])
  rw [dropEndWhile, kept, List.reverse_reverse]

/-- White space at the end does not count. -/
theorem trimEnd_append_blanks (cs : List Char) {blanks : List Char}
    (blank : ∀ c ∈ blanks, isBlank c = true) : trimEnd (cs ++ blanks) = trimEnd cs := by
  have gone : ∀ c ∈ blanks.reverse, isBlank c = true := by
    intro c member
    exact blank c (List.mem_reverse.mp member)
  unfold trimEnd dropEndWhile
  rw [List.reverse_append, List.dropWhile_append_of_pos gone]

/-- A character that is no white space protects what stands before it. -/
theorem trimEnd_append_cons (front : List Char) {c : Char} (solid : isBlank c = false)
    (back : List Char) : trimEnd (front ++ c :: back) = front ++ c :: trimEnd back := by
  have stays : (c :: front.reverse).dropWhile isBlank = c :: front.reverse :=
    List.dropWhile_cons_of_neg (by simp [solid])
  unfold trimEnd dropEndWhile
  rw [List.reverse_append, List.reverse_cons, List.append_assoc, List.singleton_append,
    List.dropWhile_append, stays]
  split
  · rename_i empty
    rw [List.isEmpty_iff.mp empty]
    simp
  · simp

/-- The text is what is left of it and some white space. -/
theorem exists_trimEnd (cs : List Char) :
    ∃ blanks, cs = trimEnd cs ++ blanks ∧ ∀ c ∈ blanks, isBlank c = true := by
  refine ⟨(cs.reverse.takeWhile isBlank).reverse, ?_, ?_⟩
  · rw [trimEnd, dropEndWhile, ← List.reverse_append, List.takeWhile_append_dropWhile,
      List.reverse_reverse]
  · intro c member
    exact (List.all_eq_true.mp (List.all_takeWhile (l := cs.reverse))) c (List.mem_reverse.mp member)

/-- White space at the front does not count. -/
theorem trim_blanks_append {blanks : List Char} (blank : ∀ c ∈ blanks, isBlank c = true)
    (cs : List Char) : trim (blanks ++ cs) = trim cs := by
  unfold trim trimStart
  rw [List.dropWhile_append_of_pos blank]

/-- White space behind a text does not count. -/
theorem trim_append_blanks (cs : List Char) {blanks : List Char}
    (blank : ∀ c ∈ blanks, isBlank c = true) : trim (cs ++ blanks) = trim cs := by
  have gone : blanks.dropWhile isBlank = [] := by
    rw [← List.append_nil blanks, List.dropWhile_append_of_pos blank]
    rfl
  unfold trim trimStart
  rw [List.dropWhile_append, gone]
  split
  · rename_i empty
    rw [List.isEmpty_iff.mp empty]
  · rw [trimEnd_append_blanks _ blank]

/-- A text that starts with something else than white space is only trimmed at its end. -/
theorem trim_cons {c : Char} (solid : isBlank c = false) (cs : List Char) :
    trim (c :: cs) = trimEnd (c :: cs) := by
  simp [trim, trimStart, solid]

/-- A trimmed text starts with something else than white space. -/
theorem isBlank_of_trim_eq_cons {cs more : List Char} {c : Char} (text : trim cs = c :: more) :
    isBlank c = false := by
  obtain ⟨blanks, whole, _⟩ := exists_trimEnd (trimStart cs)
  have starts : cs.dropWhile isBlank = c :: (more ++ blanks) := by
    rw [← List.cons_append, ← text]
    exact whole
  have first := List.head?_dropWhile_not isBlank cs
  simpa [starts] using first

/-- A text without white space at its ends stays as it is. -/
theorem trim_append_singleton {first last : Char} {cs front more : List Char}
    (starts : cs = first :: more) (ends : cs = front ++ [last])
    (firstSolid : isBlank first = false) (lastSolid : isBlank last = false) : trim cs = cs := by
  have trimmed : trim cs = trimEnd cs := by
    rw [starts, trim_cons firstSolid]
  have kept : trimEnd cs = cs := by
    rw [ends, trimEnd_append_cons front lastSolid]
    rfl
  rw [trimmed, kept]

/-- A text without any white space stays as it is. -/
theorem trim_solid {cs : List Char} (solid : ∀ c ∈ cs, isBlank c = false) : trim cs = cs := by
  cases cs with
  | nil =>
      rfl
  | cons c cs =>
      have nonempty : c :: cs ≠ [] := by simp
      exact trim_append_singleton rfl (List.dropLast_concat_getLast nonempty).symm
        (solid c (by simp)) (solid _ (List.getLast_mem nonempty))

/-- Trimming the end first changes nothing. -/
theorem trim_trimEnd (cs : List Char) : trim (trimEnd cs) = trim cs := by
  obtain ⟨blanks, text, blank⟩ := exists_trimEnd cs
  have same := trim_append_blanks (trimEnd cs) blank
  rw [← text] at same
  exact same.symm

/-- Blanks are white space. -/
theorem isBlank_replicate (count : Nat) : ∀ c ∈ List.replicate count ' ', isBlank c = true := by
  intro c member
  rw [(List.mem_replicate.mp member).2]
  decide

/-- The text without a carriage return at its end, and what was there. -/
theorem exists_dropReturn (cs : List Char) :
    ∃ blanks, cs = dropReturn cs ++ blanks ∧ ∀ c ∈ blanks, isBlank c = true := by
  unfold dropReturn
  split
  · rename_i ends
    refine ⟨['\r'], ?_, by decide⟩
    obtain ⟨front, text⟩ := List.getLast?_eq_some_iff.mp (beq_iff_eq.mp ends)
    rw [text, List.dropLast_concat]
  · exact ⟨[], by simp, by simp⟩

/-- A character that is no white space stays, with what stands before it. -/
theorem exists_dropReturn_append {c : Char} (solid : isBlank c = false) (front back : List Char) :
    ∃ behind, dropReturn (front ++ c :: back) = front ++ c :: behind := by
  unfold dropReturn
  split
  · rename_i ends
    cases back with
    | nil =>
        have isReturn : c = '\r' := by simpa using ends
        rw [isReturn] at solid
        exact absurd solid (by decide)
    | cons d back =>
        exact ⟨(d :: back).dropLast, by rw [List.dropLast_append_of_ne_nil (by simp)]; rfl⟩
  · exact ⟨back, rfl⟩

/-- A text is split at the first separator. -/
theorem splitOnce_append {sep : Char} {before : List Char} (absent : sep ∉ before)
    (rest : List Char) : splitOnce sep (before ++ sep :: rest) = some (before, rest) := by
  induction before with
  | nil =>
      simp [splitOnce]
  | cons c before ih =>
      have other : (c == sep) = false := by
        simp only [List.mem_cons, not_or] at absent
        simpa using fun same : c = sep => absent.1 same.symm
      have behind := ih fun member => absent (List.mem_cons_of_mem c member)
      simp [splitOnce, other, behind]

/-- A pattern is dropped from the text it was put before. -/
theorem dropPattern?_append (pattern rest : List Char) :
    dropPattern? pattern (pattern ++ rest) = some rest := by
  induction pattern with
  | nil =>
      rfl
  | cons p pattern ih =>
      simpa [dropPattern?] using ih

theorem eq_append_of_dropPattern? {pattern cs rest : List Char} (dropped : dropPattern? pattern cs = some rest) :
    cs = pattern ++ rest := by
  induction pattern generalizing cs with
  | nil => exact Option.some.inj dropped
  | cons p pattern ih =>
      cases cs with
      | nil => cases dropped
      | cons c cs =>
          rw [dropPattern?] at dropped
          split at dropped
          case isTrue same => rw [beq_iff_eq.mp same, ih dropped, List.cons_append]
          case isFalse => cases dropped

/-! ### Words -/

/-- The characters of a word are collected. -/
theorem wordsFrom_append {word : List Char} (solid : ∀ c ∈ word, isBlank c = false) :
    ∀ (read rest : List Char), wordsFrom read (word ++ rest) = wordsFrom (word.reverse ++ read) rest := by
  induction word with
  | nil =>
      intro read rest
      rfl
  | cons c word ih =>
      intro read rest
      have here : isBlank c = false := solid c (by simp)
      have step : wordsFrom read (c :: (word ++ rest)) = wordsFrom (c :: read) (word ++ rest) := by
        simp [wordsFrom, here]
      rw [List.cons_append, step, ih fun d member => solid d (by simp [member])]
      simp

/-- A word ends before a blank. -/
theorem words_append_blank {word : List Char} (nonempty : word ≠ [])
    (solid : ∀ c ∈ word, isBlank c = false) (rest : List Char) :
    words (word ++ ' ' :: rest) = word :: words rest := by
  have blank : isBlank ' ' = true := by decide
  unfold words
  rw [wordsFrom_append solid, List.append_nil]
  simp [wordsFrom, blank, nonempty]

/-- Blanks before a word do not count. -/
theorem words_replicate_append (count : Nat) (rest : List Char) :
    words (List.replicate count ' ' ++ rest) = words rest := by
  induction count with
  | zero =>
      rfl
  | succ count ih =>
      exact ih

/-- A word ends before a row of blanks. -/
theorem words_append_replicate {word : List Char} (nonempty : word ≠ [])
    (solid : ∀ c ∈ word, isBlank c = false) {count : Nat} (positive : 0 < count) (rest : List Char) :
    words (word ++ (List.replicate count ' ' ++ rest)) = word :: words rest := by
  obtain ⟨more, rfl⟩ := Nat.exists_eq_add_of_lt positive
  rw [Nat.zero_add, List.replicate_succ, List.cons_append, words_append_blank nonempty solid,
    words_replicate_append]

/-- A word alone. -/
theorem words_solid {word : List Char} (nonempty : word ≠ [])
    (solid : ∀ c ∈ word, isBlank c = false) : words word = [word] := by
  have whole := wordsFrom_append solid [] []
  rw [List.append_nil, List.append_nil] at whole
  unfold words
  rw [whole]
  simp [wordsFrom, nonempty]

/-- White space behind a text adds no word. -/
theorem wordsFrom_append_blanks {blanks : List Char} (blank : ∀ c ∈ blanks, isBlank c = true)
    (cs : List Char) : ∀ read, wordsFrom read (cs ++ blanks) = wordsFrom read cs := by
  induction cs with
  | nil =>
      rw [List.nil_append]
      induction blanks with
      | nil =>
          intro read
          rfl
      | cons b blanks ih =>
          intro read
          have here : isBlank b = true := blank b (by simp)
          have rest : wordsFrom [] blanks = [] := ih (fun c member => blank c (by simp [member])) []
          simp only [wordsFrom, here, if_true, rest]
  | cons c cs ih =>
      intro read
      simp only [List.cons_append, wordsFrom, ih]

/-- White space before a text adds no word. -/
theorem words_trimStart (cs : List Char) : words (trimStart cs) = words cs := by
  induction cs with
  | nil =>
      rfl
  | cons c cs ih =>
      cases blank : isBlank c with
      | true =>
          have skipped : words (c :: cs) = words cs := by
            simp [words, wordsFrom, blank]
          rw [skipped, ← ih, trimStart, List.dropWhile_cons_of_pos blank]
          rfl
      | false =>
          rw [trimStart, List.dropWhile_cons_of_neg (by simp [blank])]

/-- Trimming does not change the words. -/
theorem words_trim (cs : List Char) : words (trim cs) = words cs := by
  obtain ⟨blanks, text, blank⟩ := exists_trimEnd (trimStart cs)
  have same := wordsFrom_append_blanks blank (trimEnd (trimStart cs)) []
  rw [← text] at same
  calc words (trim cs) = words (trimStart cs) := same.symm
    _ = words cs := words_trimStart cs

/-! ### Lines -/

/-- Pieces with an empty last one are lines, each without its carriage return. -/
theorem linesOfPieces_append_nil (pieces : List (List Char)) :
    linesOfPieces (pieces ++ [[]]) = pieces.map dropReturn := by
  induction pieces with
  | nil =>
      rfl
  | cons piece pieces ih =>
      rw [List.map_cons, ← ih]
      cases pieces with
      | nil =>
          rfl
      | cons next pieces =>
          rfl

end Text.Chars

/-- Pieces without line feeds, each on a line of its own, are read as lines. -/
theorem Text.lines_join {pieces : List String} (unbroken : ∀ piece ∈ pieces, '\n' ∉ piece.toList) :
    Text.lines (Text.join (pieces ++ [""])) =
      pieces.map fun piece => String.ofList (Chars.dropReturn piece.toList) := by
  have split : (['\n'].intercalate ((pieces ++ [""]).map String.toList)).splitOn '\n' =
      pieces.map String.toList ++ [[]] := by
    rw [List.splitOn_intercalate]
    · simp
    · intro piece member
      simp only [List.map_append, List.map_cons, List.map_nil, List.mem_append, List.mem_map,
        List.mem_singleton] at member
      rcases member with ⟨source, inside, rfl⟩ | rfl
      · exact unbroken source inside
      · simp
    · simp
  unfold Text.lines Text.join Chars.lines
  rw [String.toList_ofList, split, Chars.linesOfPieces_append_nil]
  simp

namespace Listing

/-- A line of a listing: what stands at a column. -/
def row (column : Nat) (body : String) : Line :=
  let raw := String.ofList (Text.Chars.dropReturn (Text.repeated ' ' column ++ body).toList)
  ⟨Text.indentWidth raw, Text.trim raw, raw⟩

/-- The text can stand on a line of a listing: it has no line feed, and not only white space. -/
structure Legible (line : String) : Prop where
  unbroken : '\n' ∉ line.toList
  visible : ∃ c ∈ line.toList, Text.isBlank c = false

/-- The text starts with something else than white space. -/
def Solid (body : String) : Prop :=
  ∃ c more, body.toList = c :: more ∧ Text.isBlank c = false

/-- What stands on a line is what stands at its column. -/
theorem row_text (column : Nat) (body : String) : (row column body).text = Text.trim body := by
  obtain ⟨blanks, whole, blankEnd⟩ :=
    Text.Chars.exists_dropReturn (List.replicate column ' ' ++ body.toList)
  have trimmed := Text.Chars.trim_append_blanks
    (Text.Chars.dropReturn (List.replicate column ' ' ++ body.toList)) blankEnd
  rw [← whole, Text.Chars.trim_blanks_append (Text.Chars.isBlank_replicate column)] at trimmed
  simp [row, Text.trim, Text.repeated, trimmed]

/-- Blanks have one byte each. -/
theorem byteLength_replicate (count : Nat) :
    Text.Chars.byteLength (List.replicate count ' ') = count := by
  have blank : ' '.utf8Size = 1 := by decide
  have sum : ∀ total, (List.replicate count ' ').foldl (fun total c => total + c.utf8Size) total =
      total + count := by
    induction count with
    | zero =>
        intro total
        rfl
    | succ count ih =>
        intro total
        rw [List.replicate_succ, List.foldl_cons, ih, blank]
        omega
  rw [Text.Chars.byteLength, sum, Nat.zero_add]

/-- The margin of a line is its column. -/
theorem row_indent (column : Nat) {body : String} (solid : Solid body) :
    (row column body).indent = column := by
  obtain ⟨c, more, text, notBlank⟩ := solid
  obtain ⟨behind, raw⟩ :=
    Text.Chars.exists_dropReturn_append notBlank (List.replicate column ' ') more
  have margin : (List.replicate column ' ' ++ c :: behind).takeWhile Text.isBlank =
      List.replicate column ' ' := by
    rw [List.takeWhile_append_of_pos (Text.Chars.isBlank_replicate column),
      List.takeWhile_cons_of_neg (by simp [notBlank]), List.append_nil]
  simp only [row, Text.repeated, String.toList_append, String.toList_ofList, Text.indentWidth,
    Text.Chars.indentWidth, text, raw, margin]
  exact byteLength_replicate column

/-- Moving a line in moves its column. -/
theorem row_repeated (column further : Nat) (body : String) :
    row column (Text.repeated ' ' further ++ body) = row (column + further) body := by
  simp [row, Text.repeated, ← List.replicate_append_replicate]

/-- The lines of a text that is put together from legible lines. -/
theorem linesOf_join {lines : List String} (legible : ∀ line ∈ lines, Legible line) :
    linesOf (Text.join (lines ++ [""])) = lines.map (row 0) := by
  have unbroken : ∀ line ∈ lines, '\n' ∉ line.toList := fun line member => (legible line member).unbroken
  have visible : ∀ raw ∈ lines.map (fun line => String.ofList (Text.Chars.dropReturn line.toList)),
      (!Text.isBlankText raw) = true := by
    intro raw member
    obtain ⟨line, inside, rfl⟩ := List.mem_map.mp member
    obtain ⟨c, present, notBlank⟩ := (legible line inside).visible
    obtain ⟨front, back, text⟩ := List.append_of_mem present
    obtain ⟨behind, left⟩ := Text.Chars.exists_dropReturn_append notBlank front back
    have kept : c ∈ Text.Chars.dropReturn line.toList := by
      rw [text, left]
      simp
    simp only [Text.isBlankText, Text.Chars.allBlank, String.toList_ofList, Bool.not_eq_true',
      List.all_eq_false]
    exact ⟨c, kept, by simp [notBlank]⟩
  unfold linesOf
  rw [Text.lines_join unbroken, List.filter_eq_self.mpr visible, List.map_map]
  simp [row, Text.repeated, Function.comp_def]

end Listing

end SourceRecovery
