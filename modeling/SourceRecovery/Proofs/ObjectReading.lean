/-
Module: SourceRecovery.Proofs.ObjectReading
Layer: Proofs
Purpose: Every encoding of a value is read as the value, whatever objects are numbered before it and whatever
  bytes follow it. A number is taken before the contents of an object and its value is put in afterwards,
  so the readers are followed with the numbers of objects under way in the table.
Imports: SourceRecovery.Proofs.DigitSums, SourceRecovery.Proofs.ObjectEncoding, SourceRecovery.Proofs.Utf8RoundTrip
Trusted boundary: none
Main exports: ObjectStream.reads_object, ObjectStream.readObject_of_encodes
Open obligations: none
-/
import SourceRecovery.Proofs.DigitSums
import SourceRecovery.Proofs.ObjectEncoding
import SourceRecovery.Proofs.Utf8RoundTrip

namespace SourceRecovery.ObjectStream

/-! ### Numbers -/

theorem length_littleBytes (count n : Nat) : (littleBytes count n).length = count := by
  induction count generalizing n with
  | zero =>
      rfl
  | succ count ih =>
      rw [littleBytes, List.length_cons, ih]

/-- A number that fits is read back from its bytes. -/
theorem littleEndian_littleBytes {count n : Nat} (fits : n < 256 ^ count) :
    littleEndian (littleBytes count n) = n := by
  induction count generalizing n with
  | zero =>
      have zero : n = 0 := by simpa using fits
      rw [zero]
      rfl
  | succ count ih =>
      have small : n / 256 < 256 ^ count := by
        rw [Nat.pow_succ] at fits
        omega
      have low : (UInt8.ofNat n).toNat = n % 256 := UInt8.toNat_ofNat
      rw [littleBytes, littleEndian, ih small, low]
      omega

/-- The remainder of a signed number is the number, or lies above it by as much as the modulus. -/
theorem emod_double {bound n : Int} (least : -bound ≤ n) (below : n < bound) :
    n % (2 * bound) = if n < 0 then n + 2 * bound else n := by
  split
  · rw [← Int.add_emod_right, Int.emod_eq_of_lt (by omega) (by omega)]
  · exact Int.emod_eq_of_lt (by omega) (by omega)

/-- A signed number that fits is read back from its bytes. -/
theorem signed_littleEndian_signedBytes {count : Nat} (positive : 0 < count) {n : Int}
    (least : -2 ^ (8 * count - 1) ≤ n) (below : n < 2 ^ (8 * count - 1)) :
    signed (8 * count) (littleEndian (signedBytes count n)) = n := by
  have width : 8 * count = 8 * count - 1 + 1 := by omega
  have double : 2 ^ (8 * count) = 2 * 2 ^ (8 * count - 1) := by
    rw [width, Nat.pow_succ, Nat.mul_comm]
    rfl
  have whole : 256 ^ count = 2 * 2 ^ (8 * count - 1) := by
    rw [← double, Nat.pow_mul]
  have half : ((2 ^ (8 * count - 1) : Nat) : Int) = 2 ^ (8 * count - 1) := by
    rw [Int.natCast_pow]
    rfl
  rw [← half] at least below
  have remainder := emod_double least below
  unfold signedBytes signed
  simp only [Nat.pow_eq, double]
  rw [littleEndian_littleBytes]
  all_goals
    rw [whole]
    generalize 2 ^ (8 * count - 1) = bound at least below remainder
    have cast : n % ((2 * bound : Nat) : Int) = if n < 0 then n + 2 * bound else n := by
      rw [← remainder]
      congr 1
    rw [cast]
    split <;> omega

/-- A number that is not too large for a sign is written alike with and without one. -/
theorem signedBytes_natCast {n : Nat} (fits : n < 2 ^ 31) : signedBytes 4 n = littleBytes 4 n := by
  have same : ((n : Int) % (256 ^ 4 : Nat)).toNat = n := by omega
  rw [signedBytes, same]

/-! ### Steps of a reader -/

section Steps

variable {α β : Type} {s after : StreamState}

/-- A reader that gives a value hands it on, with what it leaves. -/
theorem bind_of_ok {first : StreamReader α} {next : α → StreamReader β} {a : α}
    (done : first s = .ok (a, after)) : (first >>= next) s = next a after := by
  simp only [bind, StateT.bind, done, Except.bind]

/-- A reader that fails hands its fault on. -/
theorem bind_of_error {first : StreamReader α} {next : α → StreamReader β} {cause : StreamFault}
    (failed : first s = .error cause) : (first >>= next) s = .error cause := by
  simp only [bind, StateT.bind, failed, Except.bind]

theorem get_bind (next : StreamState → StreamReader β) : (get >>= next) s = next s s :=
  rfl

theorem pure_ok (a : α) : (pure a : StreamReader α) s = .ok (a, s) :=
  rfl

end Steps

/-! ### Bytes -/

section Bytes

variable (tail : List UInt8) (refs : Table) (units : List CodeUnit)

theorem take_append {count : Nat} {bytes : List UInt8} (size : bytes.length = count) :
    take count ⟨bytes ++ tail, refs, units⟩ = .ok (bytes, ⟨tail, refs, units⟩) := by
  subst size
  simp [take]

theorem readByte_littleBytes {n : Nat} (fits : n < 256) :
    readByte ⟨littleBytes 1 n ++ tail, refs, units⟩ = .ok (n, ⟨tail, refs, units⟩) := by
  have bytes := take_append tail refs units (length_littleBytes 1 n)
  have back : littleEndian (littleBytes 1 n) = n := littleEndian_littleBytes (by omega)
  simp only [readByte, bind_of_ok bytes, back, pure_ok]

theorem readWord_littleBytes {n : Nat} (fits : n < 2 ^ 32) :
    readWord ⟨littleBytes 4 n ++ tail, refs, units⟩ = .ok (UInt32.ofNat n, ⟨tail, refs, units⟩) := by
  have bytes := take_append tail refs units (length_littleBytes 4 n)
  have back : littleEndian (littleBytes 4 n) = n := littleEndian_littleBytes (by omega)
  simp only [readWord, bind_of_ok bytes, back, pure_ok]

theorem readSigned_signedBytes {n : Int} (least : -2 ^ 31 ≤ n) (below : n < 2 ^ 31) :
    readSigned ⟨signedBytes 4 n ++ tail, refs, units⟩ = .ok (n, ⟨tail, refs, units⟩) := by
  have bytes := take_append tail refs units (length_littleBytes 4 (n % (256 ^ 4 : Nat)).toNat)
  have back : signed 32 (littleEndian (signedBytes 4 n)) = n :=
    signed_littleEndian_signedBytes (by omega) least below
  rw [signedBytes] at back ⊢
  simp only [readSigned, bind_of_ok bytes, back, pure_ok]

theorem readDouble_littleBytes (x : Double) :
    readDouble ⟨littleBytes 8 x.bits.toNat ++ tail, refs, units⟩ = .ok (x, ⟨tail, refs, units⟩) := by
  have bytes := take_append tail refs units (length_littleBytes 8 x.bits.toNat)
  have back : littleEndian (littleBytes 8 x.bits.toNat) = x.bits.toNat :=
    littleEndian_littleBytes x.bits.toNat_lt
  simp only [readDouble, bind_of_ok bytes, back, UInt64.ofNat_toNat, pure_ok]

/-- A length is read when as many bytes remain. -/
theorem readLength_littleBytes {n : Nat} (fits : n < 2 ^ 31) (held : n ≤ tail.length) :
    readLength ⟨littleBytes 4 n ++ tail, refs, units⟩ = .ok (n, ⟨tail, refs, units⟩) := by
  have word := readSigned_signedBytes tail refs units (n := n) (by omega) (by omega)
  have notNegative : ¬ (n : Int) < 0 := by omega
  have enough : ¬ tail.length < n := by omega
  rw [signedBytes_natCast fits] at word
  simp only [readLength, bind_of_ok word, get_bind, Int.toNat_natCast, notNegative, enough, decide_false,
    Bool.or_false, Bool.false_eq_true, if_false, pure_ok]

theorem readText_encode (s : String) :
    readText (Text.Utf8.encode s).length ⟨Text.Utf8.encode s ++ tail, refs, units⟩ =
      .ok (s, ⟨tail, refs, units⟩) := by
  have bytes := take_append tail refs units (rfl : (Text.Utf8.encode s).length = _)
  simp only [readText, bind_of_ok bytes, Text.Utf8.decodeLossy_encode, pure_ok]

end Bytes

/-! ### Contents without parts -/

/-- An integer is read as the value of the sum of its digits. -/
theorem readInteger_append (tail : List UInt8) (refs : Table) (units : List CodeUnit) {size : Int}
    (least : -2 ^ 31 ≤ size) (below : size < 2 ^ 31) {bytes : List UInt8} (count : bytes.length = size.natAbs * 2) :
    readInteger ⟨signedBytes 4 size ++ (bytes ++ tail), refs, units⟩ =
      .ok (integerValue size (sumDigits 0 0 bytes), ⟨tail, refs, units⟩) := by
  have word := readSigned_signedBytes (bytes ++ tail) refs units least below
  have taken := take_append tail refs units count
  have enough : ¬ (bytes ++ tail).length < size.natAbs * 2 := by
    rw [List.length_append]
    omega
  simp only [readInteger, bind_of_ok word, get_bind, enough, if_false, bind_of_ok taken, pure_ok]

/-- Digits of fifteen bits are among those of the stream. -/
theorem map_toNat_map_ofNat {digits : List Nat} (small : ∀ digit ∈ digits, digit < 2 ^ 15) :
    (digits.map UInt16.ofNat).map UInt16.toNat = digits := by
  conv_rhs => rw [← List.map_id digits]
  rw [List.map_map]
  apply List.map_congr_left
  intro digit member
  have fits := small digit member
  rw [Function.comp_apply, UInt16.toNat_ofNat', Nat.mod_eq_of_lt (by omega)]
  rfl

/-- An integer is read back from its digits. -/
theorem readInteger_digits (tail : List UInt8) (refs : Table) (units : List CodeUnit) {n : Int64}
    {digits : List Nat} {size : Int} (small : ∀ digit ∈ digits, digit < 2 ^ 15)
    (least : -2 ^ 31 ≤ size) (below : size < 2 ^ 31) (count : size.natAbs = digits.length)
    (isNumber : n.toInt = if size < 0 then -(fifteenBitNumber digits : Int) else fifteenBitNumber digits) :
    readInteger ⟨signedBytes 4 size ++ (digits.flatMap (littleBytes 2) ++ tail), refs, units⟩ =
      .ok (.int n, ⟨tail, refs, units⟩) := by
  have words := map_toNat_map_ofNat small
  have bytes : digits.flatMap (littleBytes 2) = digitBytes (digits.map UInt16.ofNat) := by
    rw [digitBytes_eq_flatMap, words]
  have number : digitNumber (digits.map UInt16.ofNat) = fifteenBitNumber digits := by
    rw [digitNumber, words]
  have fits : digitNumber (digits.map UInt16.ofNat) < 2 ^ 120 := by
    have lower := n.le_toInt
    have upper := n.toInt_lt
    rw [number]
    split at isNumber <;> omega
  obtain ⟨total, sums⟩ := exists_sums_of_lt fits
  have size : (digitBytes (digits.map UInt16.ofNat)).length = size.natAbs * 2 := by
    rw [length_digitBytes, List.length_map, count]
  rw [bytes, readInteger_append tail refs units least below size, sums.isSum, sums.integerValue_some, number,
    signedLike, ← isNumber, exactValue_toInt]

/-- Contents without parts are read back, and number nothing. -/
theorem readContents_scalar {object : StreamReader Value} {version : Version} {kind : Char} {v : Value}
    {bytes : List UInt8} (written : Scalar kind v bytes) (tail : List UInt8) (refs : Table)
    (units : List CodeUnit) :
    readContents object version kind ⟨bytes ++ tail, refs, units⟩ = .ok (v, ⟨tail, refs, units⟩) := by
  cases written with
  | none => rfl
  | true => rfl
  | false => rfl
  | ellipsis => rfl
  | short n least below =>
      have word := readSigned_signedBytes tail refs units least below
      simp only [readContents, bind_of_ok word, Int64.ofInt_toInt, pure_ok]
  | long n =>
      have bytes := take_append tail refs units (length_littleBytes 8 (n.toInt % (256 ^ 8 : Nat)).toNat)
      have back : signed 64 (littleEndian (signedBytes 8 n.toInt)) = n.toInt :=
        signed_littleEndian_signedBytes (by omega) n.le_toInt n.toInt_lt
      rw [signedBytes] at back ⊢
      simp only [readContents, bind_of_ok bytes, back, Int64.ofInt_toInt, pure_ok]
  | digits n digits small count isNumber =>
      rw [List.append_assoc]
      apply readInteger_digits tail refs units small (by omega) (by omega) (by omega)
      rw [if_neg (by omega), isNumber]
  | negativeDigits n digits small count isNumber =>
      rw [List.append_assoc]
      apply readInteger_digits tail refs units small (by omega) (by omega) (by omega)
      rw [isNumber]
      -- Without digits the sign is lost, and the number is zero.
      split
      · rfl
      · rename_i notNegative
        have empty : digits = [] := List.eq_nil_of_length_eq_zero (by omega)
        rw [empty]
        rfl
  | float x =>
      have number := readDouble_littleBytes tail refs units x
      simp only [readContents, bind_of_ok number, pure_ok]
  | complex re im =>
      have first := readDouble_littleBytes (littleBytes 8 im.bits.toNat ++ tail) refs units re
      have second := readDouble_littleBytes tail refs units im
      rw [List.append_assoc]
      simp only [readContents, bind_of_ok first, bind_of_ok second, pure_ok]
  | bytes bs size =>
      have length := readLength_littleBytes (bs ++ tail) refs units size (by simp)
      have contents := take_append tail refs units (rfl : bs.length = _)
      rw [List.append_assoc]
      simp only [readContents, bind_of_ok length, bind_of_ok contents, pure_ok]
  | text kind s isText size =>
      have length := readLength_littleBytes (Text.Utf8.encode s ++ tail) refs units size (by simp)
      have contents := readText_encode tail refs units s
      rw [List.append_assoc]
      simp only [List.mem_cons, List.not_mem_nil, or_false] at isText
      rcases isText with rfl | rfl | rfl | rfl
      all_goals
        simp only [readContents, bind_of_ok length, bind_of_ok contents, pure_ok]
  | shortText kind s isText size =>
      have length := readByte_littleBytes (Text.Utf8.encode s ++ tail) refs units size
      have contents := readText_encode tail refs units s
      rw [List.append_assoc]
      simp only [List.mem_cons, List.not_mem_nil, or_false] at isText
      rcases isText with rfl | rfl
      all_goals
        simp only [readContents, bind_of_ok length, bind_of_ok contents, pure_ok]

/-! ### Parts -/

/-- The reader reads what the parts of an object may be: the value comes back, exactly the encoding is used
    up, and the numbered values come to the table. No encoding starts with the byte that ends a
    dictionary. -/
structure Reads (object : StreamReader Value) (part : Encoding) : Prop where
  opens : ∀ {table : Table} {v : Value} {bytes : List UInt8} {numbered : List Value},
    part table v bytes numbered → ∃ byte more, bytes = byte :: more ∧ byte ≠ 48
  value : ∀ {table : Table} {v : Value} {bytes : List UInt8} {numbered : List Value},
    part table v bytes numbered → ∀ (tail : List UInt8) (units : List CodeUnit),
      object ⟨bytes ++ tail, table, units⟩ = .ok (v, ⟨tail, table ++ numbered.map some, units⟩)

section Parts

variable {object : StreamReader Value} {part : Encoding}

/-- Every value of a row has a byte at least. -/
theorem Reads.length_le (reads : Reads object part) {table : Table} {items : List Value}
    {bytes : List UInt8} {numbered : List Value} (written : Items part table items bytes numbered) :
    items.length ≤ bytes.length := by
  induction written with
  | nil =>
      simp
  | cons first rest ih =>
      obtain ⟨byte, more, starts, _⟩ := reads.opens first
      rw [starts, List.length_cons, List.length_append, List.length_cons]
      omega

/-- A row of values is read back. -/
theorem readMany_items (reads : Reads object part) {table : Table} {items : List Value}
    {bytes : List UInt8} {numbered : List Value} (written : Items part table items bytes numbered)
    (tail : List UInt8) (units : List CodeUnit) :
    readMany object items.length ⟨bytes ++ tail, table, units⟩ =
      .ok (items, ⟨tail, table ++ numbered.map some, units⟩) := by
  induction written with
  | nil table =>
      simp only [readMany, List.length_nil, pure_ok, List.nil_append, List.map_nil, List.append_nil]
  | @cons table v items bytes more numbered others first rest ih =>
      have here := reads.value first (more ++ tail) units
      simp only [List.length_cons, readMany, List.append_assoc, bind_of_ok here, bind_of_ok ih, pure_ok,
        List.map_append]

/-- Where the dictionary does not end a pair starts. -/
theorem readPairs_cons {fuel : Nat} {s afterKey afterValue final : StreamState} {key value : Value}
    {pairs : List (Value × Value)} (notEnd : s.rest.head? ≠ some 48)
    (readKey : object s = .ok (key, afterKey)) (readValue : object afterKey = .ok (value, afterValue))
    (readRest : readPairs object fuel afterValue = .ok (pairs, final)) :
    readPairs object (fuel + 1) s = .ok ((key, value) :: pairs, final) := by
  simp only [readPairs, get_bind, notEnd, if_false, bind_of_ok readKey, bind_of_ok readValue,
    bind_of_ok readRest, pure_ok]

/-- The pairs of a dictionary are read back, up to the byte that ends it. -/
theorem readPairs_items (reads : Reads object part) :
    ∀ {pairs : List (Value × Value)} {table : Table} {bytes : List UInt8} {numbered : List Value},
      Items part table (entries pairs) bytes numbered →
      ∀ {fuel : Nat} (tail : List UInt8) (units : List CodeUnit), pairs.length < fuel →
        readPairs object fuel ⟨bytes ++ (littleBytes 1 48 ++ tail), table, units⟩ =
          .ok (pairs, ⟨tail, table ++ numbered.map some, units⟩)
  | [], _, _, _, written, fuel + 1, tail, units, _ => by
      cases written
      have ends : littleBytes 1 48 = [48] := rfl
      rw [ends, List.nil_append, List.map_nil, List.append_nil]
      rfl
  | (k, v) :: pairs, table, _, _, written, fuel + 1, tail, units, enough => by
      have both : Items part table (k :: v :: entries pairs) _ _ := written
      cases both with
      | @cons _ _ _ keyBytes _ keyNumbered _ key rest =>
          cases rest with
          | @cons _ _ _ valueBytes more valueNumbered others value rest =>
              obtain ⟨byte, behind, starts, notEnd⟩ := reads.opens key
              have readKey := reads.value key (valueBytes ++ (more ++ (littleBytes 1 48 ++ tail))) units
              have readValue := reads.value value (more ++ (littleBytes 1 48 ++ tail)) units
              have readRest := readPairs_items reads rest tail units
                (Nat.lt_of_succ_lt_succ enough : pairs.length < fuel)
              simp only [List.append_assoc, List.map_append] at readValue readRest ⊢
              refine readPairs_cons ?_ readKey readValue readRest
              simpa [starts] using notEnd

theorem length_entries (pairs : List (Value × Value)) : (entries pairs).length = pairs.length * 2 := by
  induction pairs with
  | nil =>
      rfl
  | cons entry pairs ih =>
      have unfolded : entries (entry :: pairs) = entry.1 :: entry.2 :: entries pairs := rfl
      rw [unfolded, List.length_cons, List.length_cons, ih, List.length_cons, Nat.succ_mul]

/-- The contents of an object are read back. -/
theorem readContents_contents (version : Version) (reads : Reads object part) {table : Table} {kind : Char}
    {v : Value} {bytes : List UInt8} {numbered : List Value}
    (contents : Contents part table kind v bytes numbered) (tail : List UInt8) (units : List CodeUnit) :
    readContents object version kind ⟨bytes ++ tail, table, units⟩ =
      .ok (v, ⟨tail, table ++ numbered.map some, units⟩) := by
  cases contents with
  | scalar written =>
      rw [List.map_nil, List.append_nil]
      exact readContents_scalar written tail table units
  | @row _ _ items bytes _ isRow size written =>
      have fits := reads.length_le written
      have length := readLength_littleBytes (bytes ++ tail) table units size
        (by rw [List.length_append]; omega)
      have parts := readMany_items reads written tail units
      rw [List.append_assoc]
      cases isRow
      all_goals
        simp only [readContents, bind_of_ok length, bind_of_ok parts, pure_ok]
  | @shortTuple items bytes _ size written =>
      have length := readByte_littleBytes (bytes ++ tail) table units size
      have parts := readMany_items reads written tail units
      rw [List.append_assoc]
      simp only [readContents, bind_of_ok length, bind_of_ok parts, pure_ok]
  | @dict pairs bytes _ distinct written =>
      have fits : pairs.length < (bytes ++ (littleBytes 1 48 ++ tail)).length + 1 := by
        have items := reads.length_le written
        rw [length_entries] at items
        rw [List.length_append]
        omega
      have parts := readPairs_items reads written tail units fits
      have whole : Value.insertAll [] pairs = pairs := Value.insertAll_of_distinctKeys distinct
      rw [List.append_assoc]
      simp only [readContents, get_bind, bind_of_ok parts, whole, pure_ok]

/-- The byte of a kind leaves room for the flag, and neither refers to an object nor ends a dictionary. -/
theorem Contents.kind_class {table : Table} {kind : Char} {v : Value} {bytes : List UInt8}
    {numbered : List Value} (contents : Contents part table kind v bytes numbered) :
    kind.toNat < 128 ∧ kind ≠ 'r' ∧ kind.toNat ≠ 48 := by
  cases contents with
  | scalar written =>
      cases written with
      | text kind s isText size =>
          revert kind
          decide
      | shortText kind s isText size =>
          revert kind
          decide
      | _ => decide
  | row isRow size written =>
      cases isRow <;> decide
  | shortTuple size written =>
      decide
  | dict distinct written =>
      decide

theorem ofNat_ne_end {n : Nat} (fits : n < 256) (other : n ≠ 48) : UInt8.ofNat n ≠ 48 := by
  intro same
  have number : (UInt8.ofNat n).toNat = 48 := by
    rw [same]
    rfl
  rw [UInt8.toNat_ofNat_of_lt' fits] at number
  exact other number

theorem reserve_ok (rest : List UInt8) (table : Table) (units : List CodeUnit) :
    reserve ⟨rest, table, units⟩ = .ok (table.length, ⟨rest, table ++ [none], units⟩) :=
  rfl

/-- The value of an object comes before those of the objects that were numbered inside it. -/
theorem finish_reserved (rest : List UInt8) (table inside : Table) (units : List CodeUnit) (v : Value) :
    finish table.length v ⟨rest, table ++ [none] ++ inside, units⟩ =
      .ok ((), ⟨rest, table ++ some v :: inside, units⟩) := by
  have placed : (table ++ [none] ++ inside).set table.length (some v) = table ++ some v :: inside := by
    simp
  rw [← placed]
  rfl

/-- An object whose parts are read back is read back. -/
theorem reads_object (version : Version) (reads : Reads object part) :
    Reads (readWith object version) (Object part) where
  opens := by
    intro table v bytes numbered written
    cases written with
    | @plain _ kind _ bytes _ contents =>
        obtain ⟨small, _, notEnd⟩ := contents.kind_class
        exact ⟨UInt8.ofNat kind.toNat, bytes, rfl, ofNat_ne_end (by omega) notEnd⟩
    | @flagged _ kind _ bytes _ contents =>
        obtain ⟨small, _, _⟩ := contents.kind_class
        exact ⟨UInt8.ofNat (kind.toNat + 128), bytes, rfl, ofNat_ne_end (by omega) (by omega)⟩
    | @reference _ _ number _ _ =>
        exact ⟨UInt8.ofNat 'r'.toNat, littleBytes 4 number, rfl, by decide⟩
  value := by
    intro table v bytes numbered written tail units
    cases written with
    | @plain _ kind _ bytes _ contents =>
        obtain ⟨small, notReference, _⟩ := contents.kind_class
        have first := readByte_littleBytes (bytes ++ tail) table units (n := kind.toNat) (by omega)
        have inside := readContents_contents version reads contents tail units
        have isKind : Char.ofNat (kind.toNat % 128) = kind := by
          rw [Nat.mod_eq_of_lt small, Char.ofNat_toNat]
        rw [List.append_assoc]
        simp only [readWith, bind_of_ok first, small, if_true, isKind, notReference, if_false, inside]
    | @flagged _ kind _ bytes others contents =>
        obtain ⟨small, notReference, _⟩ := contents.kind_class
        have first := readByte_littleBytes (bytes ++ tail) table units (n := kind.toNat + 128) (by omega)
        have inside := readContents_contents version reads contents tail units
        have isKind : Char.ofNat ((kind.toNat + 128) % 128) = kind := by
          rw [Nat.add_mod_right, Nat.mod_eq_of_lt small, Char.ofNat_toNat]
        have notPlain : ¬ kind.toNat + 128 < 128 := by omega
        -- The contents are read with the number of their object open at the end of the table.
        have taken := reserve_ok (bytes ++ tail) table units
        have put := finish_reserved tail table (others.map some) units v
        rw [List.append_assoc]
        simp only [readWith, bind_of_ok first, notPlain, if_false, isKind, bind_of_ok taken, notReference,
          bind_of_ok inside, bind_of_ok put, pure_ok, List.map_cons]
    | @reference _ _ number finished size =>
        have first := readByte_littleBytes (littleBytes 4 number ++ tail) table units (n := 'r'.toNat)
          (by decide)
        have word := readWord_littleBytes tail table units size
        have back : (UInt32.ofNat number).toNat = number := UInt32.toNat_ofNat_of_lt' size
        have isReference : Char.ofNat ('r'.toNat % 128) = 'r' := rfl
        have notFlagged : 'r'.toNat < 128 := by decide
        rw [List.append_assoc, List.map_nil, List.append_nil]
        simp only [readWith, bind_of_ok first, notFlagged, if_true, isReference, readReference,
          bind_of_ok word, get_bind, back, finished, pure_ok]

end Parts

/-- Objects are read back at every depth. -/
theorem reads_encodes (version : Version) (room : Nat) :
    Reads (readObject version room) (Encodes room) := by
  induction room with
  | zero =>
      exact ⟨fun impossible => impossible.elim, fun impossible => impossible.elim⟩
  | succ room ih =>
      exact reads_object version ih

/-- Numbers and references do not show: every encoding of a value is read as the value. Exactly its bytes are
    used up, and the numbered objects come to the table, each with its value, whatever the table held and
    whatever bytes follow. -/
theorem readObject_of_encodes (version : Version) (room : Nat) {table : Table} {v : Value}
    {bytes : List UInt8} {numbered : List Value} (encoded : Encodes room table v bytes numbered)
    (tail : List UInt8) (units : List CodeUnit) :
    (readObject version room).run ⟨bytes ++ tail, table, units⟩ =
      .ok (v, ⟨tail, table ++ numbered.map some, units⟩) :=
  (reads_encodes version room).value encoded tail units

/-- A value some of whose parts are alike. -/
def sharedValue : Value :=
  .tuple [.str "ab", .str "ab", .list [.int 7], .dict [(.str "ab", .int 7)], .str "seen"]

/-- Its bytes, with the parts that are alike written once. One object is numbered before. -/
def sharedBytes : List UInt8 :=
  [0xa9, 5, 0xfa, 2, 97, 98, 0x72, 2, 0, 0, 0, 0x5b, 1, 0, 0, 0, 0xe9, 7, 0, 0, 0,
    0x7b, 0x72, 2, 0, 0, 0, 0x72, 3, 0, 0, 0, 48, 0x72, 0, 0, 0, 0]

theorem encodes_sharedBytes :
    Encodes maxDepth [some (.str "seen")] sharedValue sharedBytes [sharedValue, .str "ab", .int 7] := by
  have text (table : Table) : Encodes 199 table (.str "ab") [0xfa, 2, 97, 98] [.str "ab"] :=
    Object.flagged (.scalar (.shortText 'z' "ab" (by decide) (by decide)))
  have again (room : Nat) (table : Table) (number : Nat) {v : Value}
      (finished : table[number]? = some (some v)) (size : number < 2 ^ 32) :
      Encodes (room + 1) table v (0x72 :: littleBytes 4 number) [] :=
    Object.reference finished size
  have list (table : Table) :
      Encodes 199 table (.list [.int 7]) [0x5b, 1, 0, 0, 0, 0xe9, 7, 0, 0, 0] [.int 7] :=
    Object.plain (.row .list (by decide)
      (.cons (Object.flagged (.scalar (.short 7 (by decide) (by decide)))) (.nil _)))
  have dict : Encodes 199 [some (.str "seen"), none, some (.str "ab"), some (.int 7)]
      (.dict [(.str "ab", .int 7)]) [0x7b, 0x72, 2, 0, 0, 0, 0x72, 3, 0, 0, 0, 48] [] :=
    Object.plain (.dict (List.pairwise_singleton _ _)
      (.cons (again 197 _ 2 rfl (by decide)) (.cons (again 197 _ 3 rfl (by decide)) (.nil _))))
  have items := Items.cons (text [some (.str "seen"), none])
    (.cons (again 198 _ 2 rfl (by decide))
      (.cons (list _)
        (.cons dict
          (.cons (again 198 _ 0 rfl (by decide)) (.nil _)))))
  exact Object.flagged (.shortTuple (by decide) items)

/-- The parts that are alike come back wherever they stand. -/
theorem readObject_sharedBytes :
    (readObject ⟨3, 11⟩ maxDepth).run ⟨sharedBytes ++ [1, 2], [some (.str "seen")], []⟩ =
      .ok (sharedValue, ⟨[1, 2],
        [some (.str "seen"), some sharedValue, some (.str "ab"), some (.int 7)], []⟩) :=
  readObject_of_encodes ⟨3, 11⟩ maxDepth encodes_sharedBytes [1, 2] []

end SourceRecovery.ObjectStream
