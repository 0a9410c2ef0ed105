/-
Module: SourceRecovery.Proofs.ListingLines
Layer: Proofs
Purpose: Every line of a listing by itself. A literal stays on one line and is read back from it, and so are
  fields, names and instructions; a line of one kind is not taken for one of another kind.
Imports: SourceRecovery.Proofs.LineText, SourceRecovery.Proofs.LiteralRoundTrip
Trusted boundary: none
Main exports: Listing.valueOfLine_literal, Listing.readField_fieldLine, Listing.nameOfEntry_writeText,
  Listing.instructionOf?_instructionLine
Open obligations: none
-/
import SourceRecovery.Proofs.LineText
import SourceRecovery.Proofs.LiteralRoundTrip

namespace SourceRecovery

namespace Value

/-! ### Literals on one line -/

theorem newline_not_mem_hexDigits (width n : Nat) : '\n' ∉ Text.hexDigits width n := fun member =>
  forall_mem_hexDigits (· ≠ '\n') (by decide) width n '\n' member rfl

theorem newline_not_mem_toDigits (n : Nat) : '\n' ∉ Nat.toDigits 10 n := fun member =>
  forall_mem_toDigits (by omega) (by omega) (· ≠ '\n') (by decide) n '\n' member rfl

/-- Line feeds of a text are written as escapes. -/
theorem newline_not_mem_escapeChar (quote c : Char) : '\n' ∉ escapeChar quote c := by
  by_cases isBreak : c = '\n'
  · subst isBreak
    simp [escapeChar]
  · have other : '\n' ≠ c := fun same => isBreak same.symm
    have escaped : '\n' ∉ codePointEscape c := by
      simp only [codePointEscape]
      split
      · simp [newline_not_mem_hexDigits]
      · split <;> simp [newline_not_mem_hexDigits]
    unfold escapeChar
    repeat' split
    all_goals simp [escaped, other]

/-- Line feeds of a byte string are written as escapes. -/
theorem newline_not_mem_escapeByte (quote : Char) (b : UInt8) : '\n' ∉ escapeByte quote b := by
  by_cases isBreak : Char.ofNat b.toNat = '\n'
  · simp [escapeByte, isBreak]
  · have other : '\n' ≠ Char.ofNat b.toNat := fun same => isBreak same.symm
    simp only [escapeByte]
    repeat' split
    all_goals simp [newline_not_mem_hexDigits, other]

theorem newline_ne_pickQuote : ∀ hasSingle hasDouble, '\n' ≠ pickQuote hasSingle hasDouble := by
  decide

theorem newline_not_mem_writeText (s : String) : '\n' ∉ writeText s := by
  simp [writeText, newline_ne_pickQuote, newline_not_mem_escapeChar]

theorem newline_not_mem_writeBytes (bs : List UInt8) : '\n' ∉ writeBytes bs := by
  simp [writeBytes, newline_ne_pickQuote, newline_not_mem_escapeByte]

mutual

/-- A literal stays on one line. -/
theorem newline_not_mem_write : ∀ {v : Value}, v.Restorable → '\n' ∉ write v
  | .none, _ => by decide
  | .bool true, _ => by decide
  | .bool false, _ => by decide
  | .int n, _ => by
      unfold write writeInt
      split
      · exact newline_not_mem_toDigits _
      · simp [newline_not_mem_toDigits]
  | .str s, _ => newline_not_mem_writeText s
  | .bytes bs, _ => newline_not_mem_writeBytes bs
  | .ellipsis, _ => by decide
  | .tuple items, restorable => by
      have inside := newline_not_mem_writeItems restorable
      rw [Literal.write_tuple]
      split <;> simp [inside]
  | .list items, restorable => by
      have inside := newline_not_mem_writeItems restorable
      rw [Literal.write_list]
      simp [inside]
  | .set [], _ => by decide
  | .set (v :: items), restorable => by
      have inside := newline_not_mem_writeItems restorable
      rw [Literal.write_set_cons]
      simp [inside]
  | .frozenset [], _ => by decide
  | .frozenset (v :: items), restorable => by
      have inside := newline_not_mem_writeItems restorable
      have name : '\n' ∉ "frozenset".toList := by decide
      rw [Literal.write_frozenset_cons, Literal.write_set_cons]
      simp only [List.mem_append, List.mem_cons, inside, name, List.not_mem_nil, or_false, false_or]
      decide
  | .dict pairs, restorable => by
      have inside := newline_not_mem_writePairs restorable.1
      rw [Literal.write_dict]
      simp [inside]
  | .float _, restorable => restorable.elim
  | .complex _ _, restorable => restorable.elim
  | .code _, restorable => restorable.elim
  | .raw _, restorable => restorable.elim

theorem newline_not_mem_writeItems : ∀ {items : List Value}, AllRestorable items →
    '\n' ∉ writeItems items
  | [], _ => by simp [writeItems]
  | v :: rest, restorable => by
      simp [writeItems, newline_not_mem_write restorable.1, newline_not_mem_writeMore restorable.2]

theorem newline_not_mem_writeMore : ∀ {items : List Value}, AllRestorable items →
    '\n' ∉ writeMore items
  | [], _ => by simp [writeMore]
  | v :: rest, restorable => by
      simp [writeMore, newline_not_mem_write restorable.1, newline_not_mem_writeMore restorable.2]

theorem newline_not_mem_writePairs : ∀ {pairs : List (Value × Value)}, PairsRestorable pairs →
    '\n' ∉ writePairs pairs
  | [], _ => by simp [writePairs]
  | (k, v) :: rest, restorable => by
      simp [writePairs, newline_not_mem_write restorable.1, newline_not_mem_write restorable.2.1,
        newline_not_mem_writeMorePairs restorable.2.2]

theorem newline_not_mem_writeMorePairs : ∀ {pairs : List (Value × Value)}, PairsRestorable pairs →
    '\n' ∉ writeMorePairs pairs
  | [], _ => by simp [writeMorePairs]
  | (k, v) :: rest, restorable => by
      simp [writeMorePairs, newline_not_mem_write restorable.1, newline_not_mem_write restorable.2.1,
        newline_not_mem_writeMorePairs restorable.2.2]

end

/-- A written natural number does not end with white space. -/
theorem exists_back_toDigits (n : Nat) :
    ∃ front c, Nat.toDigits 10 n = front ++ [c] ∧ Text.isBlank c = false := by
  have nonempty : Nat.toDigits 10 n ≠ [] := Nat.toDigits_ne_nil
  refine ⟨_, _, (List.dropLast_concat_getLast nonempty).symm, ?_⟩
  exact forall_mem_toDigits (by omega) (by omega) (Text.isBlank · = false) (by decide) n _
    (List.getLast_mem nonempty)

theorem isBlank_pickQuote : ∀ hasSingle hasDouble, Text.isBlank (pickQuote hasSingle hasDouble) = false := by
  decide

/-- A literal does not end with white space. -/
theorem exists_back_write : ∀ {v : Value}, v.Restorable →
    ∃ front c, write v = front ++ [c] ∧ Text.isBlank c = false
  | .none, _ => ⟨['N', 'o', 'n'], 'e', rfl, by decide⟩
  | .bool true, _ => ⟨['T', 'r', 'u'], 'e', rfl, by decide⟩
  | .bool false, _ => ⟨['F', 'a', 'l', 's'], 'e', rfl, by decide⟩
  | .int n, _ => by
      unfold write writeInt
      split
      · exact exists_back_toDigits _
      · rename_i m _
        obtain ⟨front, c, digits, solid⟩ := exists_back_toDigits (m + 1)
        exact ⟨'-' :: front, c, by rw [digits, List.cons_append], solid⟩
  | .str _, _ => ⟨_ :: _, _, rfl, isBlank_pickQuote _ _⟩
  | .bytes _, _ => ⟨'b' :: _ :: _, _, rfl, isBlank_pickQuote _ _⟩
  | .ellipsis, _ => ⟨['.', '.'], '.', rfl, by decide⟩
  | .tuple items, _ => by
      rw [Literal.write_tuple]
      split
      · exact ⟨'(' :: (writeItems items ++ [',']), ')', by simp, by decide⟩
      · exact ⟨'(' :: writeItems items, ')', rfl, by decide⟩
  | .list items, _ => ⟨'[' :: writeItems items, ']', rfl, by decide⟩
  | .set [], _ => ⟨['s', 'e', 't', '('], ')', rfl, by decide⟩
  | .set (v :: items), _ => ⟨'\x7b' :: writeItems (v :: items), '\x7d', rfl, by decide⟩
  | .frozenset [], _ => ⟨"frozenset(".toList, ')', rfl, by decide⟩
  | .frozenset (v :: items), _ => by
      rw [Literal.write_frozenset_cons]
      exact ⟨"frozenset".toList ++ '(' :: write (.set (v :: items)), ')', by simp, by decide⟩
  | .dict pairs, _ => ⟨'\x7b' :: writePairs pairs, '\x7d', rfl, by decide⟩
  | .float _, restorable => restorable.elim
  | .complex _ _, restorable => restorable.elim
  | .code _, restorable => restorable.elim
  | .raw _, restorable => restorable.elim

/-- A literal has no white space at its ends. -/
theorem trim_write {v : Value} (restorable : v.Restorable) : Text.Chars.trim (write v) = write v := by
  obtain ⟨c, more, starts, opens⟩ := Literal.exists_front_write restorable
  obtain ⟨front, d, ends, solid⟩ := exists_back_write restorable
  exact Text.Chars.trim_append_singleton starts ends opens.notBlank solid

end Value

namespace Opcode

/-! ### Mnemonics -/

/-- The mnemonic of an operation without a name of its own. -/
theorem toList_name_other (byte : UInt8) :
    (Opcode.other byte).name.toList = "OPCODE_".toList ++ Nat.toDigits 10 byte.toNat := by
  simp [name, Nat.repr]

/-- A mnemonic is a word that leaves room in its column. -/
theorem name_class (op : Opcode) :
    (∀ c ∈ op.name.toList, Text.isBlank c = false ∧ c ≠ '\n') ∧
      0 < op.name.toList.length ∧ op.name.toList.length < 30 := by
  cases op
  case other byte =>
    have front : ∀ c ∈ "OPCODE_".toList, Text.isBlank c = false ∧ c ≠ '\n' := by decide
    have digits : ∀ c ∈ Nat.toDigits 10 byte.toNat, Text.isBlank c = false ∧ c ≠ '\n' :=
      forall_mem_toDigits (by omega) (by omega) _ (by decide) byte.toNat
    have short : (Nat.toDigits 10 byte.toNat).length ≤ 3 :=
      (Nat.length_toDigits_le_iff (by omega) (by omega)).mpr (by have := byte.toNat_lt; omega)
    have seven : "OPCODE_".toList.length = 7 := by decide
    rw [toList_name_other]
    refine ⟨?_, ?_, ?_⟩
    · intro c member
      rcases List.mem_append.mp member with inFront | inDigits
      · exact front c inFront
      · exact digits c inDigits
    · rw [List.length_append, seven]
      omega
    · rw [List.length_append, seven]
      omega
  all_goals decide

/-- The operation of a mnemonic is the one it was written for. -/
theorem ofName_name (op : Opcode) : ofName op.name = op := by
  cases op
  case other byte =>
    have differs : ∀ entry ∈ named, entry.1.toList.take 7 ≠ "OPCODE_".toList := by decide
    have unnamed : named.lookup (Opcode.other byte).name = none := by
      rw [List.lookup_eq_none_iff]
      intro entry member
      simp only [bne_iff_ne, ne_eq]
      intro same
      apply differs entry member
      rw [← same, toList_name_other]
      rfl
    have digits : readUnsigned 10 256 (Nat.toDigits 10 byte.toNat) = .ok byte.toNat :=
      readUnsigned_toDigits (by omega) (by omega) byte.toNat_lt
    simp only [ofName, unnamed, ofNumbered, toList_name_other, Text.Chars.dropPattern?_append, digits,
      UInt8.ofNat_toNat]
  all_goals rfl

end Opcode

namespace Listing

open Text

/-! ### Fields -/

/-- The keys of the fields. -/
def fieldKeys : List String :=
  ["File Name", "Object Name", "Qualified Name", "Arg Count", "Pos Only Arg Count",
    "KW Only Arg Count", "Stack Size", "Flags"]

theorem mem_fieldKeys {u : CodeUnit} {field : String × String} (member : field ∈ fields u) :
    field.1 ∈ fieldKeys := by
  have keys : (fields u).map Prod.fst = fieldKeys := rfl
  rw [← keys]
  exact List.mem_map_of_mem member

/-- A key starts with a letter, and a colon ends it. -/
theorem fieldKey_class : ∀ key ∈ fieldKeys, key.toList ≠ [] ∧
    (∀ c ∈ key.toList.head?, isBlank c = false ∧ c ≠ '[') ∧ ':' ∉ key.toList ∧ '\n' ∉ key.toList ∧
    Text.trim key = key := by
  decide

/-- The characters of a field line. -/
theorem toList_fieldLine (field : String × String) :
    (fieldLine field).toList = field.1.toList ++ ':' :: ' ' :: field.2.toList := by
  simp [fieldLine]

/-- A field line starts with the first letter of its key. -/
theorem exists_front_fieldLine {field : String × String} (known : field.1 ∈ fieldKeys) :
    ∃ c more, (fieldLine field).toList = c :: more ∧ isBlank c = false ∧ c ≠ '[' := by
  obtain ⟨nonempty, front, _⟩ := fieldKey_class field.1 known
  obtain ⟨c, more, key⟩ := List.exists_cons_of_ne_nil nonempty
  have first := front c (by simp [key])
  exact ⟨c, more ++ ':' :: ' ' :: field.2.toList, by simp [toList_fieldLine, key], first⟩

/-- Text that starts with something else than a bracket is no section. -/
theorem sectionTitle?_trim {body : String} {c : Char} {more : List Char} (starts : body.toList = c :: more)
    (solid : isBlank c = false) (notBracket : c ≠ '[') : sectionTitle? (Text.trim body) = none := by
  have front : Chars.trim (c :: more) = c :: Chars.trimEnd more := by
    rw [Chars.trim_cons solid]
    exact Chars.trimEnd_append_cons [] solid more
  unfold sectionTitle? Text.trim
  rw [String.toList_ofList, starts, front]
  split
  · rename_i bracket
    cases bracket
    exact absurd rfl notBracket
  · rfl

/-- A field line sets its field. -/
theorem readField_fieldLine (draft : Draft) {field : String × String} (known : field.1 ∈ fieldKeys) :
    draft.readField (Text.trim (fieldLine field)) =
      draft.setField field.1 (Chars.trim field.2.toList) := by
  obtain ⟨nonempty, front, noColon, _, trimmed⟩ := fieldKey_class field.1 known
  obtain ⟨c, more, key⟩ := List.exists_cons_of_ne_nil nonempty
  have solid : isBlank c = false := (front c (by simp [key])).1
  have blank : ∀ d ∈ [' '], isBlank d = true := by decide
  have text : Chars.trim (fieldLine field).toList =
      field.1.toList ++ ':' :: Chars.trimEnd (' ' :: field.2.toList) := by
    have whole := Chars.trimEnd_append_cons field.1.toList (c := ':') (by decide)
      (' ' :: field.2.toList)
    rw [toList_fieldLine, ← whole, key, List.cons_append, Chars.trim_cons solid]
  have value : Chars.trim (Chars.trimEnd (' ' :: field.2.toList)) = Chars.trim field.2.toList := by
    rw [Chars.trim_trimEnd]
    exact Chars.trim_blanks_append blank field.2.toList
  unfold Draft.readField
  rw [Text.trim, String.toList_ofList, text, Chars.splitOnce_append noColon]
  simp only [String.ofList_toList, trimmed, value]

/-- A number of 32 bits is read back. -/
theorem readWord?_toDigits {n : Nat} (below : n < 2 ^ 32) :
    readWord? (Nat.toDigits 10 n) = some (UInt32.ofNat n) := by
  have digits : readUnsigned 10 (Nat.pow 2 32) (Nat.toDigits 10 n) = .ok n :=
    readUnsigned_toDigits (by omega) (by omega) below
  simp only [readWord?, digits]

/-- A written number has no white space in it. -/
theorem isBlank_toDigits (n : Nat) : ∀ c ∈ Nat.toDigits 10 n, isBlank c = false :=
  forall_mem_toDigits (by omega) (by omega) (isBlank · = false) (by decide) n

/-- A word by itself is its first word. -/
theorem firstWord_solid {word : List Char} (solid : ∀ c ∈ word, isBlank c = false) :
    Chars.firstWord word = word := by
  have words : ∀ c ∈ word, (!isBlank c) = true := by
    intro c member
    simp [solid c member]
  unfold Chars.firstWord
  rw [← List.append_nil word, List.takeWhile_append_of_pos words]
  rfl

/-- A number is written in decimal digits. -/
theorem toList_toString (n : Nat) : (toString n).toList = Nat.toDigits 10 n := by
  simp [Nat.repr]

/-- A count is read back. -/
theorem fieldNumber_toString (n : UInt32) :
    fieldNumber (Chars.trim (toString n.toNat).toList) = n := by
  have solid := isBlank_toDigits n.toNat
  rw [toList_toString, Chars.trim_solid solid, fieldNumber, firstWord_solid solid, readWord?_toDigits n.toNat_lt]
  simp

/-- Digits without the mark of a base stay as they are. -/
theorem dropRepeated_absent {mark : Char} {cs : List Char} (absent : mark ∉ cs) (fuel : Nat) :
    Chars.dropRepeated ['0', mark] fuel cs = cs := by
  have kept : Chars.dropPattern? ['0', mark] cs = none := by
    match cs, absent with
    | [], _ => rfl
    | [c], _ => simp [Chars.dropPattern?]
    | c :: d :: cs, absent =>
        have other : mark ≠ d := fun same => absent (by simp [same])
        simp [Chars.dropPattern?, other]
  cases fuel with
  | zero =>
      rfl
  | succ fuel =>
      simp only [Chars.dropRepeated, kept]

/-- Flags are written in hexadecimal capitals. -/
theorem toList_flags (flags : UInt32) : ("0x" ++ flagDigits flags).toList =
    '0' :: 'x' :: (Text.hexDigits 8 flags.toNat).map Char.toUpper := by
  simp [flagDigits]

/-- The flags are read back. -/
theorem fieldFlags_flagDigits (flags : UInt32) :
    fieldFlags (Chars.trim ("0x" ++ flagDigits flags).toList) = flags := by
  have digits : readUnsigned 16 (Nat.pow 2 32) ((Text.hexDigits 8 flags.toNat).map Char.toUpper) =
      .ok flags.toNat :=
    readUnsigned_map_hexDigits 8 Char.toUpper
      (fun d => digitValue?_toUpper_digitChar (by omega) d.isLt) (by decide) flags.toNat_lt
  have capitals : ∀ c ∈ (Text.hexDigits 8 flags.toNat).map Char.toUpper,
      isBlank c = false ∧ c ≠ 'x' ∧ c ≠ 'X' := by
    intro c member
    obtain ⟨d, written, rfl⟩ := List.mem_map.mp member
    exact forall_mem_hexDigits
      (fun d => isBlank d.toUpper = false ∧ d.toUpper ≠ 'x' ∧ d.toUpper ≠ 'X') (by decide) 8 _ d written
  rw [toList_flags]
  generalize (Text.hexDigits 8 flags.toNat).map Char.toUpper = written at digits capitals ⊢
  have solid : ∀ c ∈ '0' :: 'x' :: written, isBlank c = false := by
    intro c member
    simp only [List.mem_cons] at member
    rcases member with rfl | rfl | member
    · decide
    · decide
    · exact (capitals c member).1
  have small : 'x' ∉ written := fun member => (capitals 'x' member).2.1 rfl
  have capital : 'X' ∉ written := fun member => (capitals 'X' member).2.2 rfl
  have first : Chars.dropRepeated ['0', 'x'] ('0' :: 'x' :: written).length ('0' :: 'x' :: written) =
      written := by
    change Chars.dropRepeated ['0', 'x'] (written.length + 1) written = written
    exact dropRepeated_absent small _
  rw [Chars.trim_solid solid]
  simp only [fieldFlags, firstWord_solid solid, first, dropRepeated_absent capital, digits,
    UInt32.ofNat_toNat]

/-! ### Names and constants -/

/-- A name in its table is read back. -/
theorem nameOfEntry_writeText (name : String) :
    nameOfEntry (Text.trim (String.ofList (Value.writeText name))) = name := by
  have restorable : (Value.str name).Restorable := trivial
  have trimmed : Chars.trim (Value.writeText name) = Value.writeText name :=
    Value.trim_write restorable
  have whole : Literal.readWhole (Value.writeText name) = .ok (.str name) :=
    Literal.readWhole_write restorable
  simp only [nameOfEntry, Text.trim, String.toList_ofList, trimmed, textOfLiteral?, whole]

/-- A literal is read back from its line. -/
theorem valueOfLine_literal {v : Value} (restorable : v.Restorable) :
    valueOfLine (Text.trim v.literal) = v := by
  simp only [valueOfLine, Text.trim, Value.literal, String.toList_ofList, Value.trim_write restorable,
    Literal.readWhole_write restorable]

/-- The lines that open a block or a container are no literals. -/
theorem isOk_readWhole_opening :
    ∀ text ∈ ["[Code]", "(", "[", "\x7b", "frozenset(\x7b"],
      (Literal.readWhole text.toList).isOk = false := by
  decide +kernel

/-- A literal on a line of its own opens neither a block nor a container. -/
theorem literal_not_opening {v : Value} (restorable : v.Restorable) :
    Text.trim v.literal ∉ ["[Code]", "(", "[", "\x7b", "frozenset(\x7b"] := by
  intro member
  have fails := isOk_readWhole_opening _ member
  simp only [Text.trim, Value.literal, String.toList_ofList, Value.trim_write restorable,
    Literal.readWhole_write restorable] at fails
  cases fails

/-- Nothing but an opening line opens a container. -/
theorem container?_eq_none {text : String}
    (other : text ∉ ["[Code]", "(", "[", "\x7b", "frozenset(\x7b"]) : container? text = none := by
  unfold container?
  split
  all_goals first
    | rfl
    | simp at other

/-! ### Instructions -/

/-- What stands behind the argument of an instruction. -/
def detailText (units : List CodeUnit) (u : CodeUnit) (ins : Instruction) : List Char :=
  match argumentDetail? units u ins with
  | some detail => ':' :: ' ' :: detail.toList
  | none => []

/-- The characters of an instruction line. -/
theorem toList_instructionLine (units : List CodeUnit) (u : CodeUnit) (ins : Instruction) :
    (instructionLine units u ins).toList =
      Nat.toDigits 10 ins.offset ++ (List.replicate (8 - (Nat.toDigits 10 ins.offset).length) ' ' ++
        (ins.op.name.toList ++ (List.replicate (30 - ins.op.name.toList.length) ' ' ++
          (Nat.toDigits 10 ins.arg.toNat ++ detailText units u ins)))) := by
  have detail : (match argumentDetail? units u ins with
      | some detail => ": " ++ detail
      | none => "").toList = detailText units u ins := by
    unfold detailText
    split <;> simp
  simp only [instructionLine, padEnd, Text.repeated, String.toList_append, String.toList_ofList,
    toList_toString, ← String.length_toList, List.append_assoc]
  rewrite [← detail]
  rfl

/-- The argument is the word before its detail. -/
theorem argument_word (units : List CodeUnit) (u : CodeUnit) (ins : Instruction) :
    ((Chars.words (Nat.toDigits 10 ins.arg.toNat ++ detailText units u ins)).head?.bind
        fun word => readWord? (Chars.dropEndWhile (· == ':') word)) = some ins.arg := by
  have nonempty : Nat.toDigits 10 ins.arg.toNat ≠ [] := Nat.toDigits_ne_nil
  have solid := isBlank_toDigits ins.arg.toNat
  have noColon : ∀ c ∈ Nat.toDigits 10 ins.arg.toNat, (c == ':') = false :=
    forall_mem_toDigits (by omega) (by omega) (fun c => (c == ':') = false) (by decide) _
  have word : readWord? (Nat.toDigits 10 ins.arg.toNat) = some ins.arg := by
    rw [readWord?_toDigits ins.arg.toNat_lt, UInt32.ofNat_toNat]
  generalize Nat.toDigits 10 ins.arg.toNat = digits at nonempty solid noColon word ⊢
  have kept : Chars.dropEndWhile (· == ':') digits = digits := Chars.dropEndWhile_of_none noColon
  unfold detailText
  split
  · rename_i detail _
    have colon : ∀ c ∈ digits ++ [':'], isBlank c = false := by
      intro c member
      rcases List.mem_append.mp member with inside | last
      · exact solid c inside
      · rw [List.mem_singleton.mp last]
        decide
    rw [List.append_cons, Chars.words_append_blank (by simp) colon]
    have dropped : Chars.dropEndWhile (· == ':') (digits ++ [':']) = digits := by
      have step : Chars.dropEndWhile (· == ':') (digits ++ [':']) =
          Chars.dropEndWhile (· == ':') digits := by
        simp [Chars.dropEndWhile]
      rw [step, kept]
    simp [dropped, word]
  · rw [List.append_nil, Chars.words_solid nonempty solid]
    simp [kept, word]

/-- An instruction is read back from its line. -/
theorem instructionOf?_instructionLine (units : List CodeUnit) (u : CodeUnit) {ins : Instruction}
    (small : ins.offset < 10000000) :
    instructionOf? (Text.trim (instructionLine units u ins)) = some ins := by
  have argument := argument_word units u ins
  obtain ⟨mnemonicWord, mnemonicNonempty, mnemonicShort⟩ := ins.op.name_class
  have offsetShort : (Nat.toDigits 10 ins.offset).length ≤ 7 :=
    (Nat.length_toDigits_le_iff (by omega) (by omega)).mpr (by omega)
  have start : readWord? (Nat.toDigits 10 ins.offset) = some ins.start := by
    rw [readWord?_toDigits (by omega), Instruction.offset, UInt32.ofNat_toNat]
  have words : Chars.words (Text.trim (instructionLine units u ins)).toList =
      Nat.toDigits 10 ins.offset :: ins.op.name.toList ::
        Chars.words (Nat.toDigits 10 ins.arg.toNat ++ detailText units u ins) := by
    rw [Text.trim, String.toList_ofList, Chars.words_trim, toList_instructionLine,
      Chars.words_append_replicate Nat.toDigits_ne_nil (isBlank_toDigits ins.offset) (by omega),
      Chars.words_append_replicate (List.ne_nil_of_length_pos mnemonicNonempty)
        (fun c member => (mnemonicWord c member).1) (by omega)]
  simp only [instructionOf?, words, start, Option.map_some, argument, Option.getD_some,
    String.ofList_toList, Opcode.ofName_name]

end Listing

end SourceRecovery
