/-
Module: SourceRecovery.Proofs.LiteralRoundTrip
Layer: Proofs
Purpose: A literal that is written reads back as the value it was written for, at any depth of nesting. The
  reader of each syntactic part is followed along the writer of the same part, with whatever a larger
  literal may put behind it, and with fuel in proportion to the length of the text.
Imports: SourceRecovery.Proofs.DictionaryKeys, SourceRecovery.Proofs.LiteralText
Trusted boundary: none
Main exports: Value.Restorable, Value.eq_of_same, Value.distinctKeys_of_nodup, Literal.readsBack,
  Literal.readWhole_write, Literal.read_literal
Open obligations: none
-/
import SourceRecovery.Proofs.DictionaryKeys
import SourceRecovery.Proofs.LiteralText

namespace SourceRecovery

namespace Value

mutual

/-- The value is built from constants, texts, byte strings, integers other than the smallest one, and
    containers of such values, with pairwise distinct keys in every dictionary. -/
def Restorable : Value → Prop
  | .none | .bool _ | .str _ | .bytes _ | .ellipsis => True
  | .int n => n ≠ Int64.minValue
  | .tuple items | .list items | .set items | .frozenset items => AllRestorable items
  | .dict pairs => PairsRestorable pairs ∧ (pairs.map Prod.fst).Nodup
  | .float _ | .complex _ _ | .code _ | .raw _ => False

/-- Every value of a row is restorable. -/
def AllRestorable : List Value → Prop
  | [] => True
  | v :: rest => Restorable v ∧ AllRestorable rest

/-- Every key and every value of a row of pairs is restorable. -/
def PairsRestorable : List (Value × Value) → Prop
  | [] => True
  | (k, v) :: rest => Restorable k ∧ Restorable v ∧ PairsRestorable rest

end

/-! ### Keys of dictionaries -/

mutual

/-- Without floating-point numbers, values that compare as equal are the same value. -/
theorem eq_of_same : ∀ {a b : Value}, a.Restorable → a.same b = true → a = b
  | .none, b, _, equal => by
      cases b <;> simp [same] at equal
      rfl
  | .bool _, b, _, equal => by
      cases b <;> simp [same] at equal
      rw [equal]
  | .int _, b, _, equal => by
      cases b <;> simp [same] at equal
      rw [equal]
  | .str _, b, _, equal => by
      cases b <;> simp [same] at equal
      rw [equal]
  | .bytes _, b, _, equal => by
      cases b <;> simp [same] at equal
      rw [equal]
  | .ellipsis, b, _, equal => by
      cases b <;> simp [same] at equal
      rfl
  | .tuple _, b, restorable, equal => by
      cases b <;> simp [same] at equal
      rw [eq_of_sameItems restorable equal]
  | .list _, b, restorable, equal => by
      cases b <;> simp [same] at equal
      rw [eq_of_sameItems restorable equal]
  | .set _, b, restorable, equal => by
      cases b <;> simp [same] at equal
      rw [eq_of_sameItems restorable equal]
  | .frozenset _, b, restorable, equal => by
      cases b <;> simp [same] at equal
      rw [eq_of_sameItems restorable equal]
  | .dict _, b, restorable, equal => by
      cases b <;> simp [same] at equal
      rw [eq_of_samePairs restorable.1 equal]
  | .float _, _, restorable, _ => restorable.elim
  | .complex _ _, _, restorable, _ => restorable.elim
  | .code _, _, restorable, _ => restorable.elim
  | .raw _, _, restorable, _ => restorable.elim

/-- Rows that compare as equal are the same row. -/
theorem eq_of_sameItems : ∀ {as bs : List Value}, AllRestorable as → sameItems as bs = true → as = bs
  | [], bs, _, equal => by
      cases bs <;> simp [sameItems] at equal
      rfl
  | a :: as, bs, restorable, equal => by
      cases bs with
      | nil =>
          simp [sameItems] at equal
      | cons b bs =>
          simp only [sameItems, Bool.and_eq_true] at equal
          rw [eq_of_same restorable.1 equal.1, eq_of_sameItems restorable.2 equal.2]

/-- Rows of pairs that compare as equal are the same row. -/
theorem eq_of_samePairs : ∀ {as bs : List (Value × Value)},
    PairsRestorable as → samePairs as bs = true → as = bs
  | [], bs, _, equal => by
      cases bs <;> simp [samePairs] at equal
      rfl
  | (k, v) :: as, bs, restorable, equal => by
      cases bs with
      | nil =>
          simp [samePairs] at equal
      | cons entry bs =>
          obtain ⟨l, w⟩ := entry
          simp only [samePairs, Bool.and_eq_true] at equal
          rw [eq_of_same restorable.1 equal.1.1, eq_of_same restorable.2.1 equal.1.2,
            eq_of_samePairs restorable.2.2 equal.2]

end

/-- Without floating-point numbers, keys that are not the same do not compare as equal. -/
theorem distinctKeys_of_nodup : ∀ {pairs : List (Value × Value)}, PairsRestorable pairs →
    (pairs.map Prod.fst).Nodup → DistinctKeys pairs
  | [], _, _ => List.Pairwise.nil
  | (k, v) :: rest, restorable, distinct => by
      obtain ⟨fresh, behind⟩ := List.nodup_cons.mp distinct
      refine List.Pairwise.cons ?_ (distinctKeys_of_nodup restorable.2.2 behind)
      intro entry member
      cases equal : k.same entry.1 with
      | false =>
          rfl
      | true =>
          have same : k = entry.1 := eq_of_same restorable.1 equal
          exact absurd (List.mem_map.mpr ⟨entry, member, same.symm⟩) fresh

end Value

namespace Literal

open Text
open Value (write writeItems writeMore writePairs writeMorePairs AllRestorable PairsRestorable)

/-! ### Tokens -/

/-- A token that comes next is eaten. -/
theorem eat?_self {token : Char} (notBlank : isBlank token = false)
    (notComment : (token == '#') = false) (rest : List Char) :
    eat? token (token :: rest) = some rest := by
  simp [eat?, skip_cons notBlank notComment]

/-- A closer that comes next is eaten. -/
theorem eat?_closer {token : Char} (closer : token ∈ closers) (rest : List Char) :
    eat? token (token :: rest) = some rest := by
  obtain ⟨notBlank, notComment, _⟩ := closer_class token closer
  exact eat?_self notBlank notComment rest

/-- One closer is not taken for another one. -/
theorem eat?_other_closer {token c : Char} (closer : c ∈ closers) (other : c ≠ token)
    (rest : List Char) : eat? token (c :: rest) = none := by
  obtain ⟨notBlank, notComment, _⟩ := closer_class c closer
  simp [eat?, skip_cons notBlank notComment, other]

/-- A blank before a token does not count. -/
theorem eat?_blank (token : Char) (cs : List Char) : eat? token (' ' :: cs) = eat? token cs :=
  rfl

/-- A closer that has to come next and does. -/
theorem expect_closer {token : Char} (closer : token ∈ closers) (rest : List Char) :
    expect token (token :: rest) = .ok rest := by
  simp [expect, eat?_closer closer]

/-- A character with which a written value may start. -/
structure Opens (c : Char) : Prop where
  notBlank : isBlank c = false
  notComment : (c == '#') = false
  notCloser : c ∉ closers

/-- No closer is eaten where a value starts. -/
theorem Opens.eat? {c token : Char} (opens : Opens c) (closer : token ∈ closers) (cs : List Char) :
    eat? token (c :: cs) = none := by
  have other : c ≠ token := by
    rintro rfl
    exact opens.notCloser closer
  simp [Literal.eat?, skip_cons opens.notBlank opens.notComment, other]

/-- A written value starts with a character that opens one. -/
theorem exists_front_write : ∀ {v : Value}, v.Restorable → ∃ c more, write v = c :: more ∧ Opens c
  | .none, _ => ⟨'N', _, rfl, by decide, by decide, by decide⟩
  | .bool true, _ => ⟨'T', _, rfl, by decide, by decide, by decide⟩
  | .bool false, _ => ⟨'F', _, rfl, by decide, by decide, by decide⟩
  | .int n, _ => by
      unfold write Value.writeInt
      split
      · rename_i m _
        obtain ⟨d, more, digits⟩ := exists_front_toDigits m
        obtain ⟨_, notBlank, notComment, _, _, _, _, _, _, notCloser⟩ := digit_class d
        exact ⟨_, more, digits, notBlank, notComment, notCloser⟩
      · exact ⟨'-', _, rfl, by decide, by decide, by decide⟩
  | .str s, _ => by
      have quotes : ∀ hasSingle hasDouble, Opens (Value.pickQuote hasSingle hasDouble) := by
        intro hasSingle hasDouble
        cases hasSingle <;> cases hasDouble <;> exact ⟨by decide, by decide, by decide⟩
      exact ⟨_, _, rfl, quotes _ _⟩
  | .bytes _, _ => ⟨'b', _, rfl, by decide, by decide, by decide⟩
  | .ellipsis, _ => ⟨'.', _, rfl, by decide, by decide, by decide⟩
  | .tuple _, _ => ⟨'(', _, rfl, by decide, by decide, by decide⟩
  | .list _, _ => ⟨'[', _, rfl, by decide, by decide, by decide⟩
  | .set [], _ => ⟨'s', _, rfl, by decide, by decide, by decide⟩
  | .set (_ :: _), _ => ⟨'\x7b', _, rfl, by decide, by decide, by decide⟩
  | .frozenset [], _ => ⟨'f', _, rfl, by decide, by decide, by decide⟩
  | .frozenset (_ :: _), _ => ⟨'f', _, rfl, by decide, by decide, by decide⟩
  | .dict _, _ => ⟨'\x7b', _, rfl, by decide, by decide, by decide⟩
  | .float _, restorable => restorable.elim
  | .complex _ _, restorable => restorable.elim
  | .code _, restorable => restorable.elim
  | .raw _, restorable => restorable.elim

/-- No closer is eaten where a value starts. -/
theorem eat?_write {v : Value} (restorable : v.Restorable) {token : Char}
    (closer : token ∈ closers) (rest : List Char) : eat? token (write v ++ rest) = none := by
  obtain ⟨c, more, starts, opens⟩ := exists_front_write restorable
  rw [starts, List.cons_append]
  exact opens.eat? closer _

/-! ### Blanks before an expression -/

/-- White space before an expression does not count. -/
theorem readExpr_cons_blank {c : Char} (blank : isBlank c = true) (fuel : Nat) (cs : List Char) :
    readExpr fuel (c :: cs) = readExpr fuel cs := by
  have operand (room : Nat) : readOperand room (c :: cs) = readOperand room cs := by
    cases room with
    | zero =>
        simp only [readOperand]
    | succ room =>
        have signs : readSigns false 0 (c :: cs) = readSigns false 0 cs := if_pos blank
        simp only [readOperand, signs]
  cases fuel with
  | zero =>
      simp only [readExpr]
  | succ fuel =>
      simp only [readExpr, operand]

theorem readExpr_blank (fuel : Nat) (cs : List Char) : readExpr fuel (' ' :: cs) = readExpr fuel cs :=
  readExpr_cons_blank (by decide) fuel cs

/-- A blank before entries does not count. -/
theorem readItems_blank (fuel : Nat) (closing : Char) (comma : Bool) (cs : List Char) :
    readItems fuel closing comma (' ' :: cs) = readItems fuel closing comma cs := by
  cases fuel with
  | zero =>
      simp [readItems]
  | succ fuel =>
      simp only [readItems, readExpr_blank, eat?_blank]

/-! ### Atoms -/

/-- An operand that is followed by a closer is a whole expression: no sign goes on with it. -/
theorem readExpr_of_readOperand {fuel : Nat} {cs rest : List Char} {v : Value} (stops : Stops rest)
    (operand : readOperand fuel cs = .ok (v, rest)) : readExpr (fuel + 1) cs = .ok (v, rest) := by
  simp only [readExpr, operand, stops.skip]
  rcases stops.split with rfl | ⟨sign, tail, rfl, closer⟩
  · rfl
  · obtain ⟨_, _, notPlus, notMinus, _⟩ := closer_class sign closer
    simp [notPlus, notMinus]

/-- An operand without signs that is followed by a closer is a whole expression. -/
theorem readExpr_of_readAtom {fuel : Nat} {c : Char} {cs rest : List Char} {v : Value}
    (opens : Opens c) (notPlus : (c == '+') = false) (notMinus : (c == '-') = false)
    (stops : Stops rest) (atom : readAtom fuel (c :: cs) = .ok (v, rest)) :
    readExpr (fuel + 2) (c :: cs) = .ok (v, rest) := by
  have signs : readSigns false 0 (c :: cs) = (0, c :: cs) := by
    simp [readSigns, opens.notBlank, opens.notComment, notPlus, notMinus]
  apply readExpr_of_readOperand stops
  simp only [readOperand, signs, atom, negateTimes]

/-- The names with which written values start. -/
def literalNames : List (List Char) :=
  ["None".toList, "True".toList, "False".toList, "set".toList, "frozenset".toList]

/-- A name is longer than the letters before a string, and its first letter is nothing else that a reader
    looks for. -/
theorem literalName_class : ∀ word ∈ literalNames, 2 < word.length ∧
    (∀ c ∈ word, isNameChar c = true) ∧
    ∀ c ∈ word.head?, (isBlank c = false ∧ (c == '#') = false ∧ c ∉ closers) ∧
      (c == '+') = false ∧ (c == '-') = false ∧ (c == '(') = false ∧ (c == '[') = false ∧
      (c == '\x7b') = false ∧ (c == '.') = false ∧ ('.' == c) = false ∧ isAsciiDigit c = false ∧
      isQuote c = false ∧ isAlphabetic c = true := by
  decide

/-- A name ends where its characters end. -/
theorem takeWhile_name {word rest : List Char} (nameChars : ∀ c ∈ word, isNameChar c = true)
    (ends : ∀ c ∈ rest.head?, isNameChar c = false) :
    (word ++ rest).takeWhile isNameChar = word ∧ (word ++ rest).dropWhile isNameChar = rest := by
  rw [List.takeWhile_append_of_pos nameChars, List.dropWhile_append_of_pos nameChars]
  cases rest with
  | nil =>
      simp
  | cons c rest =>
      have notName : isNameChar c = false := ends c rfl
      simp [notName]

/-- A name is read as a whole expression when what it stands for ends before a closer. -/
theorem readExpr_name {fuel : Nat} {word rest after : List Char} {v : Value}
    (name : word ∈ literalNames) (ends : ∀ c ∈ rest.head?, isNameChar c = false)
    (stops : Stops after) (named : readNamed fuel (String.ofList word) rest = .ok (v, after)) :
    readExpr (fuel + 3) (word ++ rest) = .ok (v, after) := by
  obtain ⟨long, nameChars, front⟩ := literalName_class word name
  obtain ⟨taken, dropped⟩ := takeWhile_name nameChars ends
  cases word with
  | nil =>
      simp at long
  | cons c word =>
      obtain ⟨⟨notBlank, notComment, notCloser⟩, notPlus, notMinus, notParen, notBracket, notBrace,
        notPoint, notPoint', notDigit, notQuote, letter⟩ := front c rfl
      have notDots : Chars.startsWith ['.', '.', '.'] (c :: (word ++ rest)) = false := by
        simp [Chars.startsWith, List.isPrefixOf, notPoint']
      have notShort : ¬ (c :: word).length ≤ 2 := by omega
      rw [List.cons_append] at taken dropped ⊢
      apply readExpr_of_readAtom ⟨notBlank, notComment, notCloser⟩ notPlus notMinus stops
      simp only [readAtom, notParen, notBracket, notBrace, notDots, notDigit, notPoint, notQuote,
        letter, taken, dropped, notShort, Bool.false_eq_true, if_false, Bool.or_false, Bool.true_or,
        if_true, decide_false, Bool.false_and]
      exact named

/-- A closer does not go on with a name. -/
theorem Stops.endsName {rest : List Char} (stops : Stops rest) :
    ∀ c ∈ rest.head?, isNameChar c = false := by
  intro c member
  obtain ⟨_, _, _, _, _, _, notName, _⟩ := closer_class c (stops c member)
  exact notName

/-- A written natural number is an operand of its own. -/
theorem readAtom_toDigits (n : Nat) {rest : List Char} (stops : Stops rest) (fuel : Nat) :
    readAtom (fuel + 1) (Nat.toDigits 10 n ++ rest) = .ok (decimalDigits (Nat.toDigits 10 n), rest) := by
  have number := readNumber_toDigits n stops
  obtain ⟨d, more, digits⟩ := exists_front_toDigits n
  obtain ⟨digit, _, _, _, _, notParen, notBracket, notBrace, notPoint, _⟩ := digit_class d
  rw [digits, List.cons_append] at number ⊢
  have notDots : Chars.startsWith ['.', '.', '.'] (Nat.digitChar d :: (more ++ rest)) = false := by
    simp [Chars.startsWith, List.isPrefixOf, notPoint]
  simp only [readAtom, notParen, notBracket, notBrace, notDots, digit, Bool.false_eq_true, if_false,
    Bool.true_or, if_true]
  exact number

/-- A written natural number is a literal of its own. -/
theorem readExpr_toDigits (n : Nat) {rest : List Char} (stops : Stops rest) (fuel : Nat) :
    readExpr (fuel + 3) (Nat.toDigits 10 n ++ rest) = .ok (decimalDigits (Nat.toDigits 10 n), rest) := by
  have atom := readAtom_toDigits n stops fuel
  obtain ⟨d, more, digits⟩ := exists_front_toDigits n
  obtain ⟨_, notBlank, notComment, notPlus, notMinus, _, _, _, _, notCloser⟩ := digit_class d
  rw [digits, List.cons_append] at atom ⊢
  exact readExpr_of_readAtom ⟨notBlank, notComment, notCloser⟩ notPlus notMinus stops atom

/-- A written natural number behind a minus sign is read without it and then negated. -/
theorem readExpr_minus_toDigits {n : Nat} {v : Value} (negated : negate (decimalDigits (Nat.toDigits 10 n)) = .ok v)
    {rest : List Char} (stops : Stops rest) (fuel : Nat) :
    readExpr (fuel + 3) ('-' :: (Nat.toDigits 10 n ++ rest)) = .ok (v, rest) := by
  have atom := readAtom_toDigits n stops fuel
  obtain ⟨d, more, digits⟩ := exists_front_toDigits n
  obtain ⟨_, notBlank, notComment, notPlus, notMinus, _, _, _, _, notCloser⟩ := digit_class d
  rw [digits] at negated
  rw [digits, List.cons_append] at atom ⊢
  have signs : readSigns false 0 ('-' :: Nat.digitChar d :: (more ++ rest)) =
      (1, Nat.digitChar d :: (more ++ rest)) := by
    have minus : readSigns false 0 ('-' :: Nat.digitChar d :: (more ++ rest)) =
        readSigns false 1 (Nat.digitChar d :: (more ++ rest)) := rfl
    rw [minus]
    simp [readSigns, notBlank, notComment, notPlus, notMinus]
  apply readExpr_of_readOperand stops
  simp only [readOperand, signs, atom, negateTimes, negated]

/-- What a written integer is read as. The digits are read without the sign, so the bound is one for both signs. -/
def decimalValue (n : Int) : Value :=
  if n.natAbs < intBound then .int (Int64.ofInt n) else .raw (String.ofList (Value.writeInt n))

/-- Without a sign, it is what its digits are read as. -/
theorem decimalDigits_eq_decimalValue (m : Nat) : decimalDigits (Nat.toDigits 10 m) = decimalValue (.ofNat m) := by
  unfold decimalValue
  by_cases below : m < intBound
  · rw [decimalDigits_of_lt below]
    exact (if_pos below).symm
  · rw [decimalDigits_of_le (Nat.le_of_not_lt below)]
    exact (if_neg below).symm

/-- With a sign, it is the negative of what its digits are read as. -/
theorem negate_decimalDigits (m : Nat) :
    negate (decimalDigits (Nat.toDigits 10 (m + 1))) = .ok (decimalValue (.negSucc m)) := by
  unfold decimalValue
  rw [Int.natAbs_negSucc]
  by_cases below : m + 1 < intBound
  · rw [decimalDigits_of_lt below, if_pos below, Int.negSucc_eq, Int64.ofInt_neg]
    rfl
  · have text : "-" ++ String.ofList (Nat.toDigits 10 (m + 1)) = String.ofList (Value.writeInt (.negSucc m)) := by
      apply String.toList_inj.mp
      simp only [String.toList_append, String.toList_ofList]
      rfl
    rw [decimalDigits_of_le (Nat.le_of_not_lt below), if_neg below, negate, text]

/-- A written integer is read as an integer or as its own text. -/
theorem readExpr_writeInt (n : Int) {rest : List Char} (stops : Stops rest) (fuel : Nat) :
    readExpr (fuel + 3) (Value.writeInt n ++ rest) = .ok (decimalValue n, rest) := by
  cases n with
  | ofNat m =>
      rw [← decimalDigits_eq_decimalValue]
      exact readExpr_toDigits m stops fuel
  | negSucc m =>
      exact readExpr_minus_toDigits (negate_decimalDigits m) stops fuel

/-- An integer of 64 bits other than the smallest one reads back. -/
theorem decimalValue_toInt {n : Int64} (notSmallest : n ≠ Int64.minValue) : decimalValue n.toInt = .int n := by
  have upper : n.toInt < 2 ^ 63 := n.toInt_lt
  have lower : -2 ^ 63 ≤ n.toInt := n.le_toInt
  have differs : n.toInt ≠ -2 ^ 63 := fun equal =>
    notSmallest (Int64.toInt_inj.mp (equal.trans Int64.toInt_minValue.symm))
  have below : n.toInt.natAbs < intBound := by
    show n.toInt.natAbs < 2 ^ 63
    omega
  rw [decimalValue, if_pos below, Int64.ofInt_toInt]

/-! ### Containers -/

theorem write_tuple (items : List Value) : write (.tuple items) =
    '(' :: (writeItems items ++ (if items.length = 1 then [',', ')'] else [')'])) :=
  rfl

theorem write_list (items : List Value) : write (.list items) = '[' :: (writeItems items ++ [']']) :=
  rfl

theorem write_set_cons (v : Value) (items : List Value) :
    write (.set (v :: items)) = '\x7b' :: (writeItems (v :: items) ++ ['\x7d']) :=
  rfl

/-- A set that does not change is written as a call around a set that may. -/
theorem write_frozenset_cons (v : Value) (items : List Value) :
    write (.frozenset (v :: items)) =
      "frozenset".toList ++ '(' :: (write (.set (v :: items)) ++ [')']) := by
  have text : write (.frozenset (v :: items)) =
      "frozenset(\x7b".toList ++ writeItems (v :: items) ++ ['\x7d', ')'] := rfl
  have name : "frozenset(\x7b".toList = "frozenset".toList ++ ['(', '\x7b'] := by decide
  rw [text, name, write_set_cons]
  simp only [List.append_assoc, List.cons_append, List.nil_append]

theorem write_dict (pairs : List (Value × Value)) :
    write (.dict pairs) = '\x7b' :: (writePairs pairs ++ ['\x7d']) :=
  rfl

/-- The written value is read back, whatever closer follows it, with fuel in proportion to its length. -/
def ReadsBack (v : Value) : Prop :=
  ∀ (fuel : Nat) (rest : List Char), 5 * (write v).length ≤ fuel → Stops rest →
    readExpr fuel (write v ++ rest) = .ok (v, rest)

/-- A written value is not empty. -/
theorem length_write_pos {v : Value} (restorable : v.Restorable) : 0 < (write v).length := by
  obtain ⟨c, more, starts, _⟩ := exists_front_write restorable
  simp [starts]

/-- A comma or the closing brace follows an entry of a set. -/
theorem stops_writeMore (items : List Value) (rest : List Char) :
    Stops (writeMore items ++ '\x7d' :: rest) := by
  cases items with
  | nil =>
      exact Stops.cons (by decide) rest
  | cons v items =>
      exact Stops.cons (by decide) _

/-- A comma or the closing brace follows a pair. -/
theorem stops_writeMorePairs (pairs : List (Value × Value)) (rest : List Char) :
    Stops (writeMorePairs pairs ++ '\x7d' :: rest) := by
  cases pairs with
  | nil =>
      exact Stops.cons (by decide) rest
  | cons entry pairs =>
      exact Stops.cons (by decide) _

/-- No colon follows an entry of a set. -/
theorem eat?_colon_writeMore (items : List Value) (rest : List Char) :
    eat? ':' (writeMore items ++ '\x7d' :: rest) = none := by
  cases items with
  | nil =>
      exact eat?_other_closer (by decide) (by decide) rest
  | cons v items =>
      exact eat?_other_closer (by decide) (by decide) _

/-- Written entries are read up to the bracket that closes them. -/
theorem readItems_writeItems {closing : Char} (closer : closing ∈ closers) (other : closing ≠ ',') :
    ∀ {items : List Value}, (∀ v ∈ items, v.Restorable ∧ ReadsBack v) →
      ∀ {fuel : Nat} {comma : Bool} {rest : List Char}, 5 * (writeItems items).length + 1 ≤ fuel →
        readItems fuel closing comma (writeItems items ++ closing :: rest) =
          .ok ((items, items.isEmpty && comma), rest)
  | [], _, fuel + 1, comma, rest, _ => by
      simp only [writeItems, List.nil_append, readItems, eat?_closer closer, List.isEmpty_nil,
        Bool.true_and]
  | [v], each, fuel + 1, comma, rest, enough => by
      obtain ⟨restorable, reads⟩ := each v (by simp)
      simp only [writeItems, writeMore, List.append_nil] at enough ⊢
      simp only [readItems, eat?_write restorable closer,
        reads fuel _ (by omega) (Stops.cons closer rest), eat?_other_closer closer other,
        expect_closer closer, List.isEmpty_cons, Bool.false_and]
  | v :: w :: more, each, fuel + 1, comma, rest, enough => by
      obtain ⟨restorable, reads⟩ := each v (by simp)
      have text : writeItems (v :: w :: more) ++ closing :: rest =
          write v ++ ',' :: ' ' :: (writeItems (w :: more) ++ closing :: rest) := by
        simp [writeItems, writeMore]
      have size : (writeItems (v :: w :: more)).length =
          (write v).length + (2 + (writeItems (w :: more)).length) := by
        simp only [writeItems, writeMore, List.length_append, List.length_cons]
        omega
      have behind : readItems fuel closing true (writeItems (w :: more) ++ closing :: rest) =
          .ok ((w :: more, false), rest) :=
        readItems_writeItems closer other (fun u member => each u (by simp [member])) (by omega)
      have comma : ',' ∈ closers := by decide
      rw [text]
      simp only [readItems, eat?_write restorable closer,
        reads fuel _ (by omega) (Stops.cons comma _), eat?_closer comma, readItems_blank, behind,
        List.isEmpty_cons, Bool.false_and]

/-- The written entries of a set after the first one are read up to the closing brace. -/
theorem readMoreItems_writeMore :
    ∀ {items : List Value}, (∀ v ∈ items, v.Restorable ∧ ReadsBack v) →
      ∀ {fuel : Nat} {rest : List Char}, 5 * (writeMore items).length + 1 ≤ fuel →
        readMoreItems fuel (writeMore items ++ '\x7d' :: rest) = .ok (items, rest)
  | [], _, fuel + 1, rest, _ => by
      have brace : '\x7d' ∈ closers := by decide
      simp only [writeMore, List.nil_append, readMoreItems, eat?_closer brace]
  | v :: more, each, fuel + 1, rest, enough => by
      obtain ⟨restorable, reads⟩ := each v (by simp)
      have text : writeMore (v :: more) ++ '\x7d' :: rest =
          ',' :: ' ' :: (write v ++ (writeMore more ++ '\x7d' :: rest)) := by
        simp [writeMore]
      have size : (writeMore (v :: more)).length =
          2 + ((write v).length + (writeMore more).length) := by
        simp only [writeMore, List.length_append, List.length_cons]
        omega
      have behind : readMoreItems fuel (writeMore more ++ '\x7d' :: rest) = .ok (more, rest) :=
        readMoreItems_writeMore (fun u member => each u (by simp [member])) (by omega)
      rw [text]
      simp only [readMoreItems, eat?_other_closer (by decide : ',' ∈ closers) (by decide : ',' ≠ '\x7d'),
        expect_closer (by decide : ',' ∈ closers), eat?_blank,
        eat?_write restorable (by decide : '\x7d' ∈ closers), readExpr_blank,
        reads fuel _ (by omega) (stops_writeMore more rest), behind]

/-- The written pairs of a dictionary after the first one are read up to the closing brace. -/
theorem readMorePairs_writeMorePairs :
    ∀ {pairs : List (Value × Value)},
      (∀ k v, (k, v) ∈ pairs → k.Restorable ∧ ReadsBack k ∧ ReadsBack v) →
      ∀ {fuel : Nat} {rest : List Char}, 5 * (writeMorePairs pairs).length + 1 ≤ fuel →
        readMorePairs fuel (writeMorePairs pairs ++ '\x7d' :: rest) = .ok (pairs, rest)
  | [], _, fuel + 1, rest, _ => by
      have brace : '\x7d' ∈ closers := by decide
      simp only [writeMorePairs, List.nil_append, readMorePairs, eat?_closer brace]
  | (k, v) :: more, each, fuel + 1, rest, enough => by
      obtain ⟨restorable, readsKey, readsValue⟩ := each k v (by simp)
      have text : writeMorePairs ((k, v) :: more) ++ '\x7d' :: rest =
          ',' :: ' ' :: (write k ++ ':' :: ' ' :: (write v ++ (writeMorePairs more ++ '\x7d' :: rest))) := by
        simp [writeMorePairs]
      have size : (writeMorePairs ((k, v) :: more)).length =
          4 + ((write k).length + (write v).length + (writeMorePairs more).length) := by
        simp only [writeMorePairs, List.length_append, List.length_cons]
        omega
      have behind : readMorePairs fuel (writeMorePairs more ++ '\x7d' :: rest) = .ok (more, rest) :=
        readMorePairs_writeMorePairs (fun l w member => each l w (by simp [member])) (by omega)
      have colon : ':' ∈ closers := by decide
      rw [text]
      simp only [readMorePairs, eat?_other_closer (by decide : ',' ∈ closers) (by decide : ',' ≠ '\x7d'),
        expect_closer (by decide : ',' ∈ closers), eat?_blank,
        eat?_write restorable (by decide : '\x7d' ∈ closers), readExpr_blank,
        readsKey fuel _ (by omega) (Stops.cons colon _), expect_closer colon,
        readsValue fuel _ (by omega) (stops_writeMorePairs more rest), behind]

/-- A written tuple reads back when its entries do; the comma behind a single entry tells it from an entry
    in parentheses. -/
theorem readsBack_tuple {items : List Value} (each : ∀ v ∈ items, v.Restorable ∧ ReadsBack v) :
    ReadsBack (.tuple items) := by
  intro fuel rest enough stops
  have paren : ')' ∈ closers := by decide
  have comma : ',' ∈ closers := by decide
  have opens : Opens '(' := ⟨by decide, by decide, by decide⟩
  match items, each with
  | [], each =>
      have size : (write (.tuple [])).length = 2 := rfl
      rw [size] at enough
      obtain ⟨room, rfl⟩ : ∃ room, fuel = room + 3 := ⟨fuel - 3, by omega⟩
      have inside : readItems room ')' false (')' :: rest) = .ok (([], false), rest) :=
        readItems_writeItems paren (by decide) each (by simp only [writeItems, List.length_nil]; omega)
      have text : write (.tuple []) ++ rest = '(' :: ')' :: rest := rfl
      rw [text]
      apply readExpr_of_readAtom opens (by decide) (by decide) stops
      simp only [readAtom, beq_self_eq_true, if_true, inside]
  | [v], each =>
      obtain ⟨restorable, reads⟩ := each v (by simp)
      have text : write (.tuple [v]) ++ rest = '(' :: (write v ++ ',' :: ')' :: rest) := by
        simp [write_tuple, writeItems, writeMore]
      have size : (write (.tuple [v])).length = (write v).length + 3 := by
        simp [write_tuple, writeItems, writeMore]
      rw [size] at enough
      obtain ⟨room, rfl⟩ : ∃ room, fuel = room + 5 := ⟨fuel - 5, by omega⟩
      -- After the comma the reader finds the bracket where an entry could start.
      have trailing : readItems (room + 1) ')' true (')' :: rest) = .ok (([], true), rest) := by
        simp only [readItems, eat?_closer paren]
      have inside : readItems (room + 2) ')' false (write v ++ ',' :: ')' :: rest) =
          .ok (([v], true), rest) := by
        rw [readItems]
        simp only [eat?_write restorable paren, reads (room + 1) _ (by omega) (Stops.cons comma _),
          eat?_closer comma, trailing]
      rw [text]
      apply readExpr_of_readAtom opens (by decide) (by decide) stops
      simp only [readAtom, beq_self_eq_true, if_true, inside]
  | v :: w :: more, each =>
      have text : write (.tuple (v :: w :: more)) ++ rest =
          '(' :: (writeItems (v :: w :: more) ++ ')' :: rest) := by
        simp [write_tuple]
      have size : (write (.tuple (v :: w :: more))).length =
          (writeItems (v :: w :: more)).length + 2 := by
        simp [write_tuple]
      rw [size] at enough
      obtain ⟨room, rfl⟩ : ∃ room, fuel = room + 3 := ⟨fuel - 3, by omega⟩
      have inside : readItems room ')' false (writeItems (v :: w :: more) ++ ')' :: rest) =
          .ok ((v :: w :: more, false), rest) :=
        readItems_writeItems paren (by decide) each (by omega)
      rw [text]
      apply readExpr_of_readAtom opens (by decide) (by decide) stops
      simp only [readAtom, beq_self_eq_true, if_true, inside]

/-- A written list reads back when its entries do. -/
theorem readsBack_list {items : List Value} (each : ∀ v ∈ items, v.Restorable ∧ ReadsBack v) :
    ReadsBack (.list items) := by
  intro fuel rest enough stops
  have text : write (.list items) ++ rest = '[' :: (writeItems items ++ ']' :: rest) := by
    simp [write_list]
  have size : (write (.list items)).length = (writeItems items).length + 2 := by
    simp [write_list]
  rw [size] at enough
  obtain ⟨room, rfl⟩ : ∃ room, fuel = room + 3 := ⟨fuel - 3, by omega⟩
  have inside : readItems room ']' false (writeItems items ++ ']' :: rest) =
      .ok ((items, items.isEmpty && false), rest) :=
    readItems_writeItems (by decide) (by decide) each (by omega)
  rw [text]
  apply readExpr_of_readAtom ⟨by decide, by decide, by decide⟩ (by decide) (by decide) stops
  have notParen : ('[' == '(') = false := by decide
  simp only [readAtom, notParen, Bool.false_eq_true, if_false, beq_self_eq_true, if_true, inside]

/-- Braces that do not close at once are read as a set or a dictionary. -/
theorem readExpr_braced {fuel : Nat} {cs rest : List Char} {v : Value} (stops : Stops rest)
    (open' : eat? '\x7d' cs = none) (braced : readBraced fuel cs = .ok (v, rest)) :
    readExpr (fuel + 3) ('\x7b' :: cs) = .ok (v, rest) := by
  apply readExpr_of_readAtom ⟨by decide, by decide, by decide⟩ (by decide) (by decide) stops
  have notParen : ('\x7b' == '(') = false := by decide
  have notBracket : ('\x7b' == '[') = false := by decide
  simp only [readAtom, notParen, notBracket, Bool.false_eq_true, if_false, beq_self_eq_true, if_true,
    open', braced]

/-- A name before an empty pair of parentheses stands for an empty set of its kind. -/
theorem readNamed_empty {name : String} {empty : Value}
    (kind : name = "set" ∧ empty = .set [] ∨ name = "frozenset" ∧ empty = .frozenset []) (fuel : Nat)
    (rest : List Char) : readNamed (fuel + 1) name ('(' :: ')' :: rest) = .ok (empty, rest) := by
  have paren : expect '(' ('(' :: ')' :: rest) = .ok (')' :: rest) := rfl
  rcases kind with ⟨rfl, rfl⟩ | ⟨rfl, rfl⟩
  all_goals
    simp [readNamed, paren, eat?_closer (by decide : ')' ∈ closers)]

/-- A call around a set makes one that does not change. -/
theorem readNamed_frozenset {fuel : Nat} {inside rest : List Char} {items : List Value}
    (notEmpty : eat? ')' inside = none) (argument : readExpr fuel inside = .ok (.set items, ')' :: rest)) :
    readNamed (fuel + 1) "frozenset" ('(' :: inside) = .ok (.frozenset items, rest) := by
  have openParen : expect '(' ('(' :: inside) = .ok inside := rfl
  simp [readNamed, openParen, notEmpty, argument, expect_closer (by decide : ')' ∈ closers), iterable?,
    Value.items?]

/-- A parenthesis ends a name. -/
theorem endsName_paren (tail : List Char) : ∀ c ∈ ('(' :: tail).head?, isNameChar c = false := by
  simp only [List.head?_cons, Option.mem_some_iff, forall_eq']
  decide

/-- A written set reads back when its entries do. -/
theorem readsBack_set {items : List Value} (each : ∀ v ∈ items, v.Restorable ∧ ReadsBack v) :
    ReadsBack (.set items) := by
  intro fuel rest enough stops
  match items, each with
  | [], _ =>
      have size : (write (.set [])).length = 5 := rfl
      rw [size] at enough
      obtain ⟨room, rfl⟩ : ∃ room, fuel = room + 4 := ⟨fuel - 4, by omega⟩
      have text : write (.set []) ++ rest = "set".toList ++ '(' :: ')' :: rest := rfl
      rw [text]
      exact readExpr_name (by decide) (endsName_paren _) stops
        (readNamed_empty (Or.inl ⟨rfl, rfl⟩) room rest)
  | v :: more, each =>
      obtain ⟨restorable, reads⟩ := each v (by simp)
      have text : write (.set (v :: more)) ++ rest =
          '\x7b' :: (write v ++ (writeMore more ++ '\x7d' :: rest)) := by
        simp [write_set_cons, writeItems]
      have size : (write (.set (v :: more))).length =
          (write v).length + (writeMore more).length + 2 := by
        simp only [write_set_cons, writeItems, List.length_cons, List.length_append, List.length_nil]
      rw [size] at enough
      obtain ⟨room, rfl⟩ : ∃ room, fuel = room + 4 := ⟨fuel - 4, by omega⟩
      have behind : readMoreItems room (writeMore more ++ '\x7d' :: rest) = .ok (more, rest) :=
        readMoreItems_writeMore (fun u member => each u (by simp [member])) (by omega)
      rw [text]
      apply readExpr_braced stops (eat?_write restorable (by decide) _)
      simp only [readBraced, reads room _ (by omega) (stops_writeMore more rest),
        eat?_colon_writeMore, behind]

/-- A call that makes a set reads back when its argument does. -/
theorem readsBack_frozenset {items : List Value} (restorable : AllRestorable items)
    (asSet : ReadsBack (.set items)) : ReadsBack (.frozenset items) := by
  intro fuel rest enough stops
  have paren : ')' ∈ closers := by decide
  cases items with
  | nil =>
      have size : (write (.frozenset [])).length = 11 := rfl
      rw [size] at enough
      obtain ⟨room, rfl⟩ : ∃ room, fuel = room + 4 := ⟨fuel - 4, by omega⟩
      have text : write (.frozenset []) ++ rest = "frozenset".toList ++ '(' :: ')' :: rest := rfl
      rw [text]
      exact readExpr_name (by decide) (endsName_paren _) stops
        (readNamed_empty (Or.inr ⟨rfl, rfl⟩) room rest)
  | cons v more =>
      have text : write (.frozenset (v :: more)) ++ rest =
          "frozenset".toList ++ '(' :: (write (.set (v :: more)) ++ ')' :: rest) := by
        rw [write_frozenset_cons]
        simp only [List.append_assoc, List.cons_append, List.nil_append]
      have size : (write (.frozenset (v :: more))).length = 9 + ((write (.set (v :: more))).length + 2) := by
        rw [write_frozenset_cons, List.length_append, List.length_cons, List.length_append]
        rfl
      rw [size] at enough
      obtain ⟨room, rfl⟩ : ∃ room, fuel = room + 4 := ⟨fuel - 4, by omega⟩
      rw [text]
      refine readExpr_name (by decide) (endsName_paren _) stops (readNamed_frozenset ?_ ?_)
      · exact eat?_write (v := .set (v :: more)) restorable paren _
      · exact asSet room _ (by omega) (Stops.cons paren rest)

/-- A written dictionary with pairwise distinct keys reads back when its keys and values do. -/
theorem readsBack_dict {pairs : List (Value × Value)} (restorable : PairsRestorable pairs)
    (distinct : (pairs.map Prod.fst).Nodup)
    (each : ∀ k v, (k, v) ∈ pairs → k.Restorable ∧ ReadsBack k ∧ ReadsBack v) :
    ReadsBack (.dict pairs) := by
  intro fuel rest enough stops
  have brace : '\x7d' ∈ closers := by decide
  have colon : ':' ∈ closers := by decide
  match pairs, restorable, distinct, each with
  | [], _, _, _ =>
      have size : (write (.dict [])).length = 2 := rfl
      rw [size] at enough
      obtain ⟨room, rfl⟩ : ∃ room, fuel = room + 3 := ⟨fuel - 3, by omega⟩
      have text : write (.dict []) ++ rest = '\x7b' :: '\x7d' :: rest := rfl
      rw [text]
      apply readExpr_of_readAtom ⟨by decide, by decide, by decide⟩ (by decide) (by decide) stops
      have notParen : ('\x7b' == '(') = false := by decide
      have notBracket : ('\x7b' == '[') = false := by decide
      simp only [readAtom, notParen, notBracket, Bool.false_eq_true, if_false, beq_self_eq_true,
        if_true, eat?_closer brace]
  | (k, v) :: more, restorable, distinct, each =>
      obtain ⟨keyRestorable, readsKey, readsValue⟩ := each k v (by simp)
      have text : write (.dict ((k, v) :: more)) ++ rest =
          '\x7b' :: (write k ++ ':' :: ' ' :: (write v ++ (writeMorePairs more ++ '\x7d' :: rest))) := by
        simp [write_dict, writePairs]
      have size : (write (.dict ((k, v) :: more))).length =
          (write k).length + (write v).length + (writeMorePairs more).length + 4 := by
        simp only [write_dict, writePairs, List.length_cons, List.length_append, List.length_nil]
        omega
      rw [size] at enough
      obtain ⟨room, rfl⟩ : ∃ room, fuel = room + 4 := ⟨fuel - 4, by omega⟩
      have behind : readMorePairs room (writeMorePairs more ++ '\x7d' :: rest) = .ok (more, rest) :=
        readMorePairs_writeMorePairs (fun l w member => each l w (by simp [member])) (by omega)
      have inserted : Value.insertAll [] ((k, v) :: more) = (k, v) :: more :=
        Value.insertAll_of_distinctKeys (Value.distinctKeys_of_nodup restorable distinct)
      rw [text]
      apply readExpr_braced stops (eat?_write keyRestorable brace _)
      simp only [readBraced, readsKey room _ (by omega) (Stops.cons colon _), eat?_closer colon,
        readExpr_blank, readsValue room _ (by omega) (stops_writeMorePairs more rest), behind, inserted]

/-! ### All values -/

/-- A constant that is written as a name reads back. -/
theorem readsBack_name (word : List Char) {v : Value} (name : word ∈ literalNames)
    (text : write v = word)
    (constant : ∀ (fuel : Nat) (rest : List Char),
      readNamed (fuel + 1) (String.ofList word) rest = .ok (v, rest)) : ReadsBack v := by
  intro fuel rest enough stops
  have long : 2 < word.length := (literalName_class word name).1
  rw [text] at enough ⊢
  obtain ⟨room, rfl⟩ : ∃ room, fuel = room + 4 := ⟨fuel - 4, by omega⟩
  exact readExpr_name name stops.endsName stops (constant room rest)

theorem readsBack_none : ReadsBack .none := by
  refine readsBack_name "None".toList (by decide) rfl fun fuel rest => ?_
  simp [readNamed]

theorem readsBack_bool (b : Bool) : ReadsBack (.bool b) := by
  cases b with
  | true =>
      refine readsBack_name "True".toList (by decide) rfl fun fuel rest => ?_
      simp [readNamed]
  | false =>
      refine readsBack_name "False".toList (by decide) rfl fun fuel rest => ?_
      simp [readNamed]

/-- The class of a quote: it opens a value and only a string. -/
theorem quote_class : ∀ quote ∈ ['\'', '"'], isQuote quote = true ∧
    (isBlank quote = false ∧ (quote == '#') = false ∧ quote ∉ closers) ∧
    (quote == '+') = false ∧ (quote == '-') = false ∧ (quote == '(') = false ∧
    (quote == '[') = false ∧ (quote == '\x7b') = false ∧ (quote == '.') = false ∧
    ('.' == quote) = false ∧ isAsciiDigit quote = false ∧ isNameChar quote = false := by
  decide

/-- The quote a writer picks is one of the two. -/
theorem mem_quotes_pickQuote : ∀ hasSingle hasDouble : Bool,
    Value.pickQuote hasSingle hasDouble ∈ ['\'', '"'] := by
  decide

theorem readsBack_str (s : String) : ReadsBack (.str s) := by
  intro fuel rest enough stops
  have positive : 0 < (write (.str s)).length := length_write_pos trivial
  obtain ⟨room, rfl⟩ : ∃ room, fuel = room + 3 := ⟨fuel - 3, by omega⟩
  have strings : readStrings (write (.str s) ++ rest) = .ok (.str s, rest) :=
    readStrings_writeText s stops
  obtain ⟨quoted, ⟨notBlank, notComment, notCloser⟩, notPlus, notMinus, notParen, notBracket, notBrace,
    notPoint, notPoint', notDigit, _⟩ :=
    quote_class _ (mem_quotes_pickQuote (s.toList.contains '\'') (s.toList.contains '"'))
  have text : ∃ more, write (.str s) ++ rest =
      Value.pickQuote (s.toList.contains '\'') (s.toList.contains '"') :: more := ⟨_, rfl⟩
  obtain ⟨more, text⟩ := text
  rw [text] at strings ⊢
  apply readExpr_of_readAtom ⟨notBlank, notComment, notCloser⟩ notPlus notMinus stops
  simp only [readAtom, notParen, notBracket, notBrace, Chars.startsWith, List.isPrefixOf, notPoint',
    notDigit, notPoint, quoted, Bool.false_and, Bool.or_false, Bool.false_eq_true, if_false, if_true]
  exact strings

theorem readsBack_bytes (bs : List UInt8) : ReadsBack (.bytes bs) := by
  intro fuel rest enough stops
  have positive : 0 < (write (.bytes bs)).length := length_write_pos trivial
  obtain ⟨room, rfl⟩ : ∃ room, fuel = room + 3 := ⟨fuel - 3, by omega⟩
  have strings : readStrings (write (.bytes bs) ++ rest) = .ok (.bytes bs, rest) :=
    readStrings_writeBytes bs stops
  obtain ⟨quoted, _, _, _, _, _, _, _, _, _, notName⟩ :=
    quote_class _ (mem_quotes_pickQuote (bs.contains 39) (bs.contains 34))
  have text : ∃ more, write (.bytes bs) ++ rest =
      'b' :: Value.pickQuote (bs.contains 39) (bs.contains 34) :: more := ⟨_, rfl⟩
  obtain ⟨more, text⟩ := text
  rw [text] at strings ⊢
  have letter : isNameChar 'b' = true := by decide
  have front : ('b' == '(') = false ∧ ('b' == '[') = false ∧ ('b' == '\x7b') = false ∧
      ('.' == 'b') = false ∧ isAsciiDigit 'b' = false ∧ ('b' == '.') = false ∧ isQuote 'b' = false ∧
      isAlphabetic 'b' = true ∧ isPrefixLetter 'b' = true := by
    decide
  obtain ⟨notParen, notBracket, notBrace, notPoint', notDigit, notPoint, notQuote, isLetter,
    mayPrecede⟩ := front
  apply readExpr_of_readAtom ⟨by decide, by decide, by decide⟩ (by decide) (by decide) stops
  simp only [readAtom, notParen, notBracket, notBrace, notPoint', notDigit, notPoint, notQuote, isLetter,
    mayPrecede, Chars.startsWith, List.isPrefixOf,
    List.takeWhile_cons, List.dropWhile_cons, letter, notName, quoted, List.length_cons, List.length_nil,
    List.all_cons, List.all_nil, List.head?_cons, Option.any_some, Bool.false_and, Bool.or_false,
    Bool.true_or, Bool.and_true, Bool.false_eq_true, if_false, if_true]
  exact strings

theorem readsBack_ellipsis : ReadsBack .ellipsis := by
  intro fuel rest enough stops
  have size : (write .ellipsis).length = 3 := rfl
  rw [size] at enough
  obtain ⟨room, rfl⟩ : ∃ room, fuel = room + 3 := ⟨fuel - 3, by omega⟩
  have text : write .ellipsis ++ rest = '.' :: '.' :: '.' :: rest := rfl
  rw [text]
  apply readExpr_of_readAtom ⟨by decide, by decide, by decide⟩ (by decide) (by decide) stops
  rfl

theorem readsBack_int {n : Int64} (notSmallest : n ≠ Int64.minValue) : ReadsBack (.int n) := by
  intro fuel rest enough stops
  have positive : 0 < (write (.int n)).length := length_write_pos notSmallest
  obtain ⟨room, rfl⟩ : ∃ room, fuel = room + 3 := ⟨fuel - 3, by omega⟩
  have reads := readExpr_writeInt n.toInt stops room
  rwa [decimalValue_toInt notSmallest] at reads

mutual

/-- A restorable value reads back. -/
theorem readsBack : ∀ {v : Value}, v.Restorable → ReadsBack v
  | .none, _ => readsBack_none
  | .bool b, _ => readsBack_bool b
  | .int _, notSmallest => readsBack_int notSmallest
  | .str s, _ => readsBack_str s
  | .bytes bs, _ => readsBack_bytes bs
  | .ellipsis, _ => readsBack_ellipsis
  | .tuple _, restorable => readsBack_tuple (allReadBack restorable)
  | .list _, restorable => readsBack_list (allReadBack restorable)
  | .set _, restorable => readsBack_set (allReadBack restorable)
  | .frozenset _, restorable => readsBack_frozenset restorable (readsBack_set (allReadBack restorable))
  | .dict _, restorable => readsBack_dict restorable.1 restorable.2 (pairsReadBack restorable.1)
  | .float _, restorable => restorable.elim
  | .complex _ _, restorable => restorable.elim
  | .code _, restorable => restorable.elim
  | .raw _, restorable => restorable.elim

/-- Each value of a restorable row reads back. -/
theorem allReadBack : ∀ {items : List Value}, AllRestorable items →
    ∀ v ∈ items, v.Restorable ∧ ReadsBack v
  | [], _, _, member => absurd member List.not_mem_nil
  | w :: rest, restorable, v, member => by
      rcases List.mem_cons.mp member with here | behind
      · rw [here]
        exact ⟨restorable.1, readsBack restorable.1⟩
      · exact allReadBack restorable.2 v behind

/-- Each key and each value of a restorable row of pairs reads back. -/
theorem pairsReadBack : ∀ {pairs : List (Value × Value)}, PairsRestorable pairs →
    ∀ k v, (k, v) ∈ pairs → k.Restorable ∧ ReadsBack k ∧ ReadsBack v
  | [], _, _, _, member => absurd member List.not_mem_nil
  | (l, w) :: rest, restorable, k, v, member => by
      rcases List.mem_cons.mp member with here | behind
      · obtain ⟨key, value⟩ := Prod.mk.inj here
        rw [key, value]
        exact ⟨restorable.1, readsBack restorable.1, readsBack restorable.2.1⟩
      · exact pairsReadBack restorable.2.2 k v behind

end

/-- A restorable value is read from a text that holds nothing else. -/
theorem readWhole_write {v : Value} (restorable : v.Restorable) : readWhole (write v) = .ok v := by
  have reads := readsBack restorable (fuelFor (write v)) [] (by unfold fuelFor; omega) Stops.nil
  rw [List.append_nil] at reads
  simp only [readWhole, reads]
  rfl

/-- Reading a written literal gives the value back. -/
theorem read_literal (v : Value) (restorable : v.Restorable) : Literal.read v.literal = .ok v := by
  have whole : readWhole (write v) = .ok v := readWhole_write restorable
  unfold Literal.read Value.literal
  rw [String.toList_ofList, whole]

/-- A dictionary with a tuple of one entry and a text for keys, and with both quotes, control characters and
    empty containers among its values. -/
theorem read_literal_nested :
    Literal.read (Value.dict
        [(.tuple [.int (-1)], .frozenset [.bytes [0, 39, 255], .str "it's \"so\"\n\x7f"]),
          (.str "\u00a0", .list [.set [], .dict [], .tuple []])]).literal =
      .ok (Value.dict
        [(.tuple [.int (-1)], .frozenset [.bytes [0, 39, 255], .str "it's \"so\"\n\x7f"]),
          (.str "\u00a0", .list [.set [], .dict [], .tuple []])]) := by
  apply read_literal
  have notSmallest : (-1 : Int64) ≠ Int64.minValue := by decide
  simp [Value.Restorable, AllRestorable, PairsRestorable, notSmallest]

end Literal

end SourceRecovery
