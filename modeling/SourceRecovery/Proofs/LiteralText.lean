/-
Module: SourceRecovery.Proofs.LiteralText
Layer: Proofs
Purpose: The leaves of literals read back: texts, byte strings and integers, each with whatever may follow it
  in a larger literal. A quoted text is a row of pieces, one for each character; a piece reads as its
  character and never looks like the closing quote.
Imports: SourceRecovery.Value.Literal, SourceRecovery.Proofs.DigitText
Trusted boundary: none
Main exports: Stops, Spells, readStrings_writeText, readStrings_writeBytes, readNumber_toDigits
Open obligations: none
-/
import SourceRecovery.Value.Literal
import SourceRecovery.Proofs.DigitText

namespace SourceRecovery.Literal

open Text

/-! ### What follows a literal -/

/-- The tokens that close a literal or stand between two of them. -/
def closers : List Char :=
  [',', ')', ']', '\x7d', ':']

/-- What may follow a literal: nothing, or a closing or separating token. -/
def Stops (rest : List Char) : Prop :=
  ∀ c ∈ rest.head?, c ∈ closers

namespace Stops

theorem nil : Stops [] := by
  simp [Stops]

theorem cons {c : Char} (closer : c ∈ closers) (tail : List Char) : Stops (c :: tail) := by
  simpa [Stops] using closer

/-- The text is empty or starts with one of the closers. -/
theorem split {rest : List Char} (stops : Stops rest) :
    rest = [] ∨ ∃ c tail, rest = c :: tail ∧ c ∈ closers := by
  cases rest with
  | nil =>
      exact Or.inl rfl
  | cons c tail =>
      exact Or.inr ⟨c, tail, rfl, stops c (by simp)⟩

end Stops

/-- No closer is a blank, a comment sign, a sign, a quote, a digit or a letter. -/
theorem closer_class : ∀ c ∈ closers,
    isBlank c = false ∧ (c == '#') = false ∧ (c == '+') = false ∧ (c == '-') = false ∧
      isQuote c = false ∧ isPrefixLetter c = false ∧ isNameChar c = false ∧
      isAsciiDigit c = false ∧ (c == '_') = false ∧ (c == '.') = false ∧ (c == 'e') = false ∧
      (c == 'E') = false := by
  decide

/-- A text that starts with neither a blank nor a comment stands as it is. -/
theorem skip_cons {c : Char} (notBlank : isBlank c = false) (notComment : (c == '#') = false)
    (cs : List Char) : skip (c :: cs) = c :: cs := by
  simp only [skip, skipFrom, notBlank, notComment, Bool.false_eq_true, if_false]

/-- Nothing is skipped after a literal. -/
theorem Stops.skip {rest : List Char} (stops : Stops rest) : skip rest = rest := by
  rcases stops.split with rfl | ⟨c, tail, rfl, closer⟩
  · rfl
  · obtain ⟨notBlank, notComment, _⟩ := closer_class c closer
    exact skip_cons notBlank notComment tail

/-- No string follows a literal. -/
theorem Stops.readString? {rest : List Char} (stops : Stops rest) : readString? rest = none := by
  rcases stops.split with rfl | ⟨c, tail, rfl, closer⟩
  · rfl
  · obtain ⟨_, _, _, _, notQuote, notLetter, _⟩ := closer_class c closer
    simp [Literal.readString?, notLetter, notQuote]

/-! ### Pieces of a quoted text -/

/-- The piece stands for the character between quotes: it does not look like the closing quote, and the body
    of a string that goes on after it reads as the character and the rest. -/
structure Spells (quote : Char) (piece : List Char) (c : Char) : Prop where
  front : ∃ first more, piece = first :: more ∧ first ≠ quote
  reads : ∀ fuel tail more final, readBody [quote] false fuel tail = .ok (more, final) →
    readBody [quote] false (fuel + 1) (piece ++ tail) = .ok (c :: more, final)

/-- A character that is neither the quote nor a backslash stands for itself. -/
theorem spells_self {quote c : Char} (notQuote : c ≠ quote) (notBackslash : c ≠ '\\') :
    Spells quote [c] c := by
  refine ⟨⟨c, [], rfl, notQuote⟩, ?_⟩
  intro fuel tail more final body
  have notClosed : Chars.dropPattern? [quote] (c :: tail) = none := by
    simp [Chars.dropPattern?, Ne.symm notQuote]
  have plain : (c == '\\') = false := by simpa using notBackslash
  simp only [List.singleton_append, readBody, notClosed, plain, Bool.false_eq_true, if_false, body]

/-- A backslash with what follows it stands for the character that the escape gives. -/
theorem spells_escape {quote c : Char} {text : List Char} (notBackslash : quote ≠ '\\')
    (escape : ∀ tail, readEscape false (text ++ tail) = .ok ([c], tail)) :
    Spells quote ('\\' :: text) c := by
  refine ⟨⟨'\\', text, rfl, Ne.symm notBackslash⟩, ?_⟩
  intro fuel tail more final body
  have notClosed : Chars.dropPattern? [quote] ('\\' :: (text ++ tail)) = none := by
    simp [Chars.dropPattern?, notBackslash]
  simp only [List.cons_append, readBody, notClosed, beq_self_eq_true, if_true, escape, body,
    List.nil_append]

/-- Pieces in a row up to the closing quote read as their characters. -/
theorem readBody_pieces {α : Type} {quote : Char} {piece : α → List Char} {char : α → Char}
    (items : List α) (spells : ∀ x ∈ items, Spells quote (piece x) (char x)) (rest : List Char) :
    ∀ fuel, items.length < fuel →
      readBody [quote] false fuel (items.flatMap piece ++ quote :: rest) =
        .ok (items.map char, rest) := by
  induction items with
  | nil =>
      intro fuel enough
      obtain ⟨fuel, rfl⟩ := Nat.exists_eq_add_one_of_ne_zero (Nat.ne_of_gt enough)
      simp [readBody, Chars.dropPattern?]
  | cons x items ih =>
      intro fuel enough
      obtain ⟨fuel, rfl⟩ :=
        Nat.exists_eq_add_one_of_ne_zero (Nat.ne_of_gt (Nat.lt_of_le_of_lt (Nat.zero_le _) enough))
      have later := ih (fun y member => spells y (List.mem_cons_of_mem x member)) fuel
        (by simpa using enough)
      rw [List.flatMap_cons, List.append_assoc]
      exact (spells x List.mem_cons_self).reads fuel _ _ _ later

/-- There are at least as many characters as pieces. -/
theorem length_le_length_flatMap {α : Type} {quote : Char} {piece : α → List Char} {char : α → Char}
    (items : List α) (spells : ∀ x ∈ items, Spells quote (piece x) (char x)) :
    items.length ≤ (items.flatMap piece).length := by
  induction items with
  | nil =>
      simp
  | cons x items ih =>
      have later := ih fun y member => spells y (List.mem_cons_of_mem x member)
      obtain ⟨first, more, isPiece, _⟩ := (spells x List.mem_cons_self).front
      rw [List.flatMap_cons, isPiece]
      simp only [List.length_cons, List.length_append]
      omega

/-- A string in pieces is closed by one quote: three quotes in a row never stand at its front. -/
theorem closingQuotes_pieces {α : Type} {quote : Char} {piece : α → List Char} {char : α → Char}
    (quoted : isQuote quote = true) (items : List α)
    (spells : ∀ x ∈ items, Spells quote (piece x) (char x)) {rest : List Char}
    (stops : Stops rest) :
    closingQuotes quote (quote :: (items.flatMap piece ++ quote :: rest)) = [quote] := by
  unfold closingQuotes
  -- The second quote of an empty text is followed by what stops it, and that is no quote.
  have notTriple : Chars.startsWith [quote, quote, quote]
      (quote :: (items.flatMap piece ++ quote :: rest)) = false := by
    cases items with
    | nil =>
        rcases stops.split with rfl | ⟨c, tail, rfl, closer⟩
        · simp [Chars.startsWith]
        · obtain ⟨_, _, _, _, notQuote, _⟩ := closer_class c closer
          have differs : (quote == c) = false := by
            rw [beq_eq_false_iff_ne]
            rintro rfl
            rw [quoted] at notQuote
            simp at notQuote
          simp [Chars.startsWith, List.isPrefixOf, differs]
    | cons x items =>
        obtain ⟨first, more, isPiece, notQuote⟩ := (spells x List.mem_cons_self).front
        have differs : (quote == first) = false := by simpa using Ne.symm notQuote
        simp [Chars.startsWith, List.isPrefixOf, isPiece, differs]
  simp [notTriple]

/-! ### Escapes -/

/-- ASCII characters take one byte each. -/
theorem takeBytes?_ascii {digits : List Char} (ascii : ∀ c ∈ digits, c.utf8Size = 1)
    (rest : List Char) : takeBytes? digits.length (digits ++ rest) = some (digits, rest) := by
  induction digits with
  | nil =>
      simp [takeBytes?]
  | cons c digits ih =>
      have one : c.utf8Size = 1 := ascii c List.mem_cons_self
      have later := ih fun d member => ascii d (List.mem_cons_of_mem c member)
      simp [takeBytes?, one, later]

/-- A character whose code point is written in hexadecimal digits reads back. -/
theorem readHexEscape_hexDigits {width : Nat} (positive : 0 < width) {c : Char}
    (fits : c.toNat < 16 ^ width) (rest : List Char) :
    readHexEscape width (hexDigits width c.toNat ++ rest) = .ok ([c], rest) := by
  have taken : takeBytes? width (hexDigits width c.toNat ++ rest) =
      some (hexDigits width c.toNat, rest) := by
    have ascii := forall_mem_hexDigits (fun c => c.utf8Size = 1) (by decide) width c.toNat
    have bytes := takeBytes?_ascii ascii rest
    rwa [length_hexDigits positive fits] at bytes
  have below : c.toNat < Nat.pow 2 32 := c.val.toNat_lt
  have digits := readUnsigned_hexDigits width below
  have valid : c.toNat.isValidChar := c.valid
  simp only [readHexEscape, taken, digits, valid, if_true, Char.ofNat_toNat]

/-- An escape by code point gives the character. -/
theorem spells_codePoint {quote : Char} (notBackslash : quote ≠ '\\') (c : Char) :
    Spells quote (Value.codePointEscape c) c := by
  have below : c.toNat < 16 ^ 8 := c.val.toNat_lt
  unfold Value.codePointEscape
  dsimp only
  split
  · rename_i small
    apply spells_escape notBackslash
    intro tail
    exact readHexEscape_hexDigits (by omega) (by omega) tail
  · split
    · rename_i small
      apply spells_escape notBackslash
      intro tail
      exact readHexEscape_hexDigits (by omega) (by omega) tail
    · apply spells_escape notBackslash
      intro tail
      exact readHexEscape_hexDigits (by omega) below tail

/-- Neither quote is a backslash. -/
theorem ne_backslash_of_isQuote {quote : Char} (quoted : isQuote quote = true) : quote ≠ '\\' := by
  rintro rfl
  simp [isQuote] at quoted

/-- An escaped quote is the quote. -/
theorem readEscape_quote {quote : Char} (quoted : isQuote quote = true) (tail : List Char) :
    readEscape false (quote :: tail) = .ok ([quote], tail) := by
  simp only [isQuote, Bool.or_eq_true, beq_iff_eq] at quoted
  rcases quoted with rfl | rfl
  · rfl
  · rfl

/-- The characters that are escaped by name, and the quote, are spelled alike in texts and byte strings. -/
theorem spells_named {quote c : Char} (quoted : isQuote quote = true) {piece : List Char}
    (other : c ≠ '\\' → c ≠ quote → Spells quote piece c) :
    Spells quote (if c == '\\' then ['\\', '\\'] else if c == '\n' then ['\\', 'n']
      else if c == '\r' then ['\\', 'r'] else if c == '\t' then ['\\', 't']
      else if c == quote then ['\\', c] else piece) c := by
  have notBackslash := ne_backslash_of_isQuote quoted
  split
  · rename_i isBackslash
    rw [eq_of_beq isBackslash]
    exact spells_escape notBackslash fun tail => rfl
  split
  · rename_i isNewline
    rw [eq_of_beq isNewline]
    exact spells_escape notBackslash fun tail => rfl
  split
  · rename_i isReturn
    rw [eq_of_beq isReturn]
    exact spells_escape notBackslash fun tail => rfl
  split
  · rename_i isTab
    rw [eq_of_beq isTab]
    exact spells_escape notBackslash fun tail => rfl
  split
  · rename_i isQuoteChar
    rw [eq_of_beq isQuoteChar]
    exact spells_escape notBackslash (readEscape_quote quoted)
  · rename_i plain _ _ _ notQuote
    exact other (by simpa using plain) (by simpa using notQuote)

/-- Every character of a text is spelled by its piece. -/
theorem spells_escapeChar {quote : Char} (quoted : isQuote quote = true) (c : Char) :
    Spells quote (Value.escapeChar quote c) c := by
  apply spells_named quoted
  intro plain notQuote
  split
  · exact spells_codePoint (ne_backslash_of_isQuote quoted) c
  · exact spells_self notQuote plain

/-- The character of a byte. -/
theorem toNat_ofNat_byte (b : UInt8) : (Char.ofNat b.toNat).toNat = b.toNat := by
  have below : b.toNat < 256 := b.toNat_lt
  have valid : b.toNat.isValidChar := Or.inl (by omega)
  rw [Char.ofNat, dif_pos valid]
  rfl

/-- Every byte of a byte string is spelled by its piece, as the character with its number. -/
theorem spells_escapeByte {quote : Char} (quoted : isQuote quote = true) (b : UInt8) :
    Spells quote (Value.escapeByte quote b) (Char.ofNat b.toNat) := by
  apply spells_named quoted
  intro plain notQuote
  split
  · exact spells_self notQuote plain
  · have code := toNat_ofNat_byte b
    have below : b.toNat < 256 := b.toNat_lt
    generalize Char.ofNat b.toNat = c at code ⊢
    rw [← code]
    apply spells_escape (ne_backslash_of_isQuote quoted)
    intro tail
    exact readHexEscape_hexDigits (by omega) (by omega) tail

/-! ### Strings -/

/-- The value of a string with or without the letter for byte strings. -/
def stringValue (isBytes : Bool) (chars : List Char) : Value :=
  if isBytes then .bytes (chars.map fun c => UInt8.ofNat c.toNat) else .str (String.ofList chars)

/-- A string in pieces, with the letter for byte strings or without any, reads as its characters. -/
theorem readString?_pieces {α : Type} {quote : Char} {piece : α → List Char} {char : α → Char}
    (isBytes : Bool) (quoted : isQuote quote = true) (items : List α)
    (spells : ∀ x ∈ items, Spells quote (piece x) (char x)) {rest : List Char}
    (stops : Stops rest) :
    readString? ((if isBytes then ['b'] else []) ++ quote :: (items.flatMap piece ++ quote :: rest)) =
      some (.ok (stringValue isBytes (items.map char), rest)) := by
  have closing := closingQuotes_pieces quoted items spells stops
  have body := readBody_pieces items spells rest
    ((items.flatMap piece ++ quote :: rest).length + 1) (by
      have pieces := length_le_length_flatMap items spells
      simp only [List.length_append]
      omega)
  have notLetter : isPrefixLetter quote = false := by
    simp only [isQuote, Bool.or_eq_true, beq_iff_eq] at quoted
    rcases quoted with rfl | rfl
    · rfl
    · rfl
  have letter : isPrefixLetter 'b' = true := rfl
  generalize items.flatMap piece ++ quote :: rest = contents at closing body ⊢
  cases isBytes with
  | true =>
      simp [readString?, letter, notLetter, quoted, closing, body, stringValue]
  | false =>
      simp [readString?, notLetter, quoted, closing, body, stringValue]

/-- No further string is read after one that is followed by a closer. -/
theorem readStrings_of_readString? {cs rest : List Char} {value : Value} (stops : Stops rest)
    (first : readString? cs = some (.ok (value, rest))) : readStrings cs = .ok (value, rest) := by
  simp only [readStrings, first]
  cases rest.length with
  | zero =>
      simp [readMoreStrings, stops.skip]
  | succ fuel =>
      simp [readMoreStrings, stops.skip, stops.readString?]

/-- Whatever a text holds, the quote that is picked is one of the two. -/
theorem isQuote_pickQuote (hasSingle hasDouble : Bool) :
    isQuote (Value.pickQuote hasSingle hasDouble) = true := by
  cases hasSingle <;> cases hasDouble <;> rfl

/-- A written text reads back. -/
theorem readStrings_writeText (s : String) {rest : List Char} (stops : Stops rest) :
    readStrings (Value.writeText s ++ rest) = .ok (.str s, rest) := by
  have quoted := isQuote_pickQuote (s.toList.contains '\'') (s.toList.contains '"')
  apply readStrings_of_readString? stops
  have read := readString?_pieces false quoted s.toList
    (fun c _ => spells_escapeChar quoted c) stops
  simpa [Value.writeText, stringValue] using read

/-- A written byte string reads back. -/
theorem readStrings_writeBytes (bs : List UInt8) {rest : List Char} (stops : Stops rest) :
    readStrings (Value.writeBytes bs ++ rest) = .ok (.bytes bs, rest) := by
  have quoted := isQuote_pickQuote (bs.contains 39) (bs.contains 34)
  apply readStrings_of_readString? stops
  have read := readString?_pieces true quoted bs
    (fun b _ => spells_escapeByte quoted b) stops
  have back : (bs.map fun b => Char.ofNat b.toNat).map (fun c => UInt8.ofNat c.toNat) = bs := by
    rw [List.map_map]
    apply List.map_id''
    intro b
    simp [toNat_ofNat_byte]
  simpa [Value.writeBytes, stringValue, back] using read

/-! ### Integers -/

/-- A decimal digit is no blank, no sign, no bracket and no point. -/
theorem digit_class : ∀ d : Fin 10,
    isAsciiDigit (Nat.digitChar d) = true ∧ isBlank (Nat.digitChar d) = false ∧
      (Nat.digitChar d == '#') = false ∧ (Nat.digitChar d == '+') = false ∧
      (Nat.digitChar d == '-') = false ∧ (Nat.digitChar d == '(') = false ∧
      (Nat.digitChar d == '[') = false ∧ (Nat.digitChar d == '\x7b') = false ∧
      ('.' == Nat.digitChar d) = false ∧ Nat.digitChar d ∉ closers := by
  decide

/-- A decimal number starts with a digit. -/
theorem exists_front_toDigits (n : Nat) :
    ∃ (d : Fin 10) (more : List Char), Nat.toDigits 10 n = Nat.digitChar d :: more := by
  cases digits : Nat.toDigits 10 n with
  | nil =>
      exact absurd digits Nat.toDigits_ne_nil
  | cons c more =>
      have member : c ∈ Nat.toDigits 10 n := by simp [digits]
      obtain ⟨d, below, rfl⟩ := exists_digit_of_mem_toDigits (by omega) member
      exact ⟨⟨d, below⟩, more, rfl⟩

/-- Every character of a decimal number is a digit. -/
theorem isAsciiDigit_of_mem_toDigits {n : Nat} {c : Char} (member : c ∈ Nat.toDigits 10 n) :
    isAsciiDigit c = true := by
  obtain ⟨d, below, rfl⟩ := exists_digit_of_mem_toDigits (by omega) member
  exact (digit_class ⟨d, below⟩).1

/-- Digits up to a closer are scanned as an integer. -/
theorem scanDecimal_digits {digits rest : List Char}
    (decimal : ∀ c ∈ digits, isAsciiDigit c = true) (stops : Stops rest) :
    scanDecimal false false (digits ++ rest) = (digits, false, rest) := by
  induction digits with
  | nil =>
      rcases stops.split with rfl | ⟨c, tail, rfl, closer⟩
      · rfl
      · obtain ⟨_, _, _, _, _, _, _, notDigit, notUnderscore, notPoint, notMark, notMark'⟩ :=
          closer_class c closer
        simp [scanDecimal, notDigit, notUnderscore, notPoint, notMark, notMark']
  | cons c digits ih =>
      have digit : isAsciiDigit c = true := decimal c List.mem_cons_self
      have later := ih fun d member => decimal d (List.mem_cons_of_mem c member)
      simp [scanDecimal, digit, later]

/-- No base is announced by digits up to a closer: the letter would have to be the second character. -/
theorem announcedBase?_digits {digits rest : List Char}
    (decimal : ∀ c ∈ digits, isAsciiDigit c = true) (nonempty : digits ≠ []) (stops : Stops rest) :
    announcedBase? (digits ++ rest) = none := by
  have noMark : ∀ mark, isAsciiDigit mark = true ∨ mark ∈ closers →
      (mark == 'x') = false ∧ (mark == 'X') = false ∧ (mark == 'o') = false ∧
        (mark == 'O') = false ∧ (mark == 'b') = false ∧ (mark == 'B') = false := by
    intro mark digitOrCloser
    refine ⟨?_, ?_, ?_, ?_, ?_, ?_⟩ <;>
      · rw [beq_eq_false_iff_ne]
        rintro rfl
        revert digitOrCloser
        decide
  unfold announcedBase?
  split
  -- The second character is a digit, or it comes after the only digit.
  · rename_i mark tail starts
    have marked : isAsciiDigit mark = true ∨ mark ∈ closers := by
      cases digits with
      | nil =>
          exact absurd rfl nonempty
      | cons first digits =>
          cases digits with
          | nil =>
              have isRest : rest = mark :: tail := by simpa using (List.cons.inj starts).2
              exact Or.inr (stops mark (by simp [isRest]))
          | cons second digits =>
              have isSecond : second = mark := by
                simpa using (List.cons.inj (List.cons.inj starts).2).1
              exact Or.inl (isSecond ▸ decimal second (by simp))
    obtain ⟨h1, h2, h3, h4, h5, h6⟩ := noMark mark marked
    simp [h1, h2, h3, h4, h5, h6]
  · rfl

/-- What decimal digits are read as: an integer below the bound, and their own text from it on. -/
def decimalDigits (digits : List Char) : Value :=
  match readDigits 10 intBound digits with
  | .ok n => .int (Int64.ofNat n)
  | .error _ => .raw (String.ofList digits)

/-- Digits up to a closer are a number of their own. -/
theorem readNumber_digits {digits rest : List Char} (decimal : ∀ c ∈ digits, isAsciiDigit c = true)
    (nonempty : digits ≠ []) (stops : Stops rest) :
    readNumber (digits ++ rest) = .ok (decimalDigits digits, rest) := by
  have noUnderscore : digits.filter (· != '_') = digits := by
    apply List.filter_eq_self.mpr
    intro c member
    rw [bne_iff_ne]
    rintro rfl
    exact absurd (decimal '_' member) (by decide)
  simp only [readNumber, announcedBase?_digits decimal nonempty stops, readDecimal,
    scanDecimal_digits decimal stops, noUnderscore]
  rcases stops.split with rfl | ⟨c, tail, rfl, closer⟩
  · unfold decimalDigits
    cases readDigits 10 intBound digits <;> rfl
  · split
    · rename_i starts
      obtain ⟨rfl, _⟩ := List.cons.inj starts
      exact absurd closer (by decide)
    · rename_i starts
      obtain ⟨rfl, _⟩ := List.cons.inj starts
      exact absurd closer (by decide)
    · unfold decimalDigits
      cases readDigits 10 intBound digits <;> rfl

/-- A written natural number is a number of its own. -/
theorem readNumber_toDigits (n : Nat) {rest : List Char} (stops : Stops rest) :
    readNumber (Nat.toDigits 10 n ++ rest) = .ok (decimalDigits (Nat.toDigits 10 n), rest) :=
  readNumber_digits (fun _ => isAsciiDigit_of_mem_toDigits) Nat.toDigits_ne_nil stops

theorem decimalDigits_of_lt {n : Nat} (below : n < intBound) :
    decimalDigits (Nat.toDigits 10 n) = .int (Int64.ofNat n) := by
  rw [decimalDigits, readDigits_toDigits (by omega) (by omega) below]

theorem decimalDigits_of_le {n : Nat} (large : intBound ≤ n) :
    decimalDigits (Nat.toDigits 10 n) = .raw (String.ofList (Nat.toDigits 10 n)) := by
  rw [decimalDigits, readDigits_toDigits_of_le (by omega) (by omega) large]

end SourceRecovery.Literal
