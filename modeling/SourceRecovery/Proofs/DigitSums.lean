/-
Module: SourceRecovery.Proofs.DigitSums
Layer: Proofs
Purpose: The sum of the digits of an integer in 128 bits. Digits stand at places of fifteen bits but have sixteen,
  so the sum of those below a position has two bits more than the position says; eight digits stay within 122 bits.
  From the eighth position on only zeros leave a sum, and any other digit makes the number too large for a value.
Imports: Mathlib.Algebra.Group.Int.Defs, Mathlib.Algebra.Group.Nat.Defs, Mathlib.Tactic.Ring,
  SourceRecovery.Proofs.ObjectEncoding
Trusted boundary: none
Main exports: ObjectStream.digitBytes, ObjectStream.digitNumber, ObjectStream.addDigit_low,
  ObjectStream.sumDigits_low, ObjectStream.Sums, ObjectStream.sums_or_none, ObjectStream.integerValue_sumDigits
Open obligations: none
-/
import Mathlib.Algebra.Group.Int.Defs
import Mathlib.Algebra.Group.Nat.Defs
import Mathlib.Tactic.Ring
import SourceRecovery.Proofs.ObjectEncoding

namespace SourceRecovery.ObjectStream

/-- The bytes of digits, two for each. -/
def digitBytes (digits : List UInt16) : List UInt8 :=
  digits.flatMap fun digit => littleBytes 2 digit.toNat

/-- The number of digits that stand at places of fifteen bits, lowest first. -/
def digitNumber (digits : List UInt16) : Nat :=
  fifteenBitNumber (digits.map UInt16.toNat)

theorem digitBytes_eq_flatMap (digits : List UInt16) :
    digitBytes digits = (digits.map UInt16.toNat).flatMap (littleBytes 2) := by
  rw [List.flatMap_map, digitBytes]

theorem digitNumber_cons (digit : UInt16) (digits : List UInt16) :
    digitNumber (digit :: digits) = digit.toNat + 2 ^ 15 * digitNumber digits :=
  rfl

/-- The digits behind others count from the place where those end. -/
theorem digitNumber_append (front back : List UInt16) :
    digitNumber (front ++ back) = digitNumber front + 2 ^ (15 * front.length) * digitNumber back := by
  induction front with
  | nil =>
      simp [digitNumber, fifteenBitNumber]
  | cons digit front ih =>
      rw [List.cons_append, digitNumber_cons, digitNumber_cons, ih, List.length_cons]
      ring

/-- Only zeros make zero. -/
theorem digitNumber_eq_zero_iff {digits : List UInt16} : digitNumber digits = 0 ↔ ∀ digit ∈ digits, digit = 0 := by
  induction digits with
  | nil =>
      simp [digitNumber, fifteenBitNumber]
  | cons digit digits ih =>
      have isZero : digit.toNat = 0 ↔ digit = 0 := UInt16.toNat_inj (b := 0)
      rw [digitNumber_cons, List.forall_mem_cons, ← ih, ← isZero]
      omega

/-! ### One digit -/

/-- Places are counted exactly below 2^28 positions. -/
theorem toNat_digitPlace {position : Nat} (few : position < 2 ^ 28) :
    (digitPlace position).toNat = 15 * position := by
  have fifteen : (15 : UInt32).toNat = 15 := rfl
  rw [digitPlace, UInt32.toNat_mul, UInt32.toNat_ofNat', fifteen]
  omega

/-- The first eight positions are those below the place 120. -/
theorem digitPlace_lt_iff {position : Nat} (few : position < 2 ^ 28) : digitPlace position < 120 ↔ position < 8 := by
  have bound : (120 : UInt32).toNat = 120 := rfl
  rw [UInt32.lt_iff_toNat_lt, toNat_digitPlace few, bound]
  omega

/-- A digit at one of the first eight positions is shifted without loss. -/
theorem toNat_digitPart {position : Nat} (low : position < 8) (digit : UInt16) :
    (digitPart (digitPlace position) digit).toNat = digit.toNat * 2 ^ (15 * position) := by
  have small : digit.toNat < 2 ^ 16 := digit.toNat_lt
  have place : 2 ^ (15 * position) ≤ 2 ^ 105 := Nat.pow_le_pow_right (by omega) (by omega)
  have fits : digit.toNat * 2 ^ (15 * position) < 2 ^ 128 := by
    calc digit.toNat * 2 ^ (15 * position) ≤ 2 ^ 16 * 2 ^ 105 := Nat.mul_le_mul (by omega) place
      _ < 2 ^ 128 := by decide
  rw [digitPart, BitVec.toNat_shiftLeft, BitVec.toNat_setWidth, toNat_digitPlace (by omega), Nat.shiftLeft_eq,
    UInt16.toNat_toBitVec, Nat.mod_eq_of_lt (a := digit.toNat) (by omega), Nat.mod_eq_of_lt fits]

/-- A number of 122 bits has no sign. -/
theorem toInt_of_lt {n : BitVec 128} (few : n.toNat < 2 ^ 122) : n.toInt = n.toNat :=
  BitVec.toInt_eq_toNat_of_lt (by omega)

/-- The sum is one of digits below a position: it has two bits more than the digits have places. -/
def SumBelow (position : Nat) (total : BitVec 128) : Prop :=
  total.toNat < 2 ^ (15 * position + 2)

theorem sumBelow_zero : SumBelow 0 0 := by
  unfold SumBelow
  decide

section Digit

variable {position : Nat} {total : BitVec 128} (below : SumBelow position total) (digit : UInt16)

include below

/-- The sum with one more digit is below the next position. -/
theorem sum_lt_next : total.toNat + digit.toNat * 2 ^ (15 * position) < 2 ^ (15 * (position + 1) + 2) := by
  have small : digit.toNat < 2 ^ 16 := digit.toNat_lt
  have here : 2 ^ (15 * position + 2) = 4 * 2 ^ (15 * position) := by ring
  have next : 2 ^ (15 * (position + 1) + 2) = 2 ^ 17 * 2 ^ (15 * position) := by ring
  have part : digit.toNat * 2 ^ (15 * position) ≤ 2 ^ 16 * 2 ^ (15 * position) :=
    Nat.mul_le_mul_right _ (by omega)
  rw [SumBelow, here] at below
  rw [next]
  omega

variable (low : position < 8)

include low

/-- Before one of the first eight positions and behind it, a sum has 122 bits at most. -/
theorem sum_lt_bits : total.toNat + (digitPart (digitPlace position) digit).toNat < 2 ^ 122 := by
  rw [toNat_digitPart low]
  exact (sum_lt_next below digit).trans_le (Nat.pow_le_pow_right (by omega) (by omega))

/-- A digit at one of the first eight positions is added without overflow. -/
theorem saddOverflow_digitPart : total.saddOverflow (digitPart (digitPlace position) digit) = false := by
  have sum := sum_lt_bits below digit low
  rw [BitVec.saddOverflow, toInt_of_lt (by omega), toInt_of_lt (by omega)]
  simp only [Bool.or_eq_false_iff, decide_eq_false_iff_not]
  omega

theorem toNat_add_digitPart :
    (total + digitPart (digitPlace position) digit).toNat = total.toNat + digit.toNat * 2 ^ (15 * position) := by
  have sum := sum_lt_bits below digit low
  rw [BitVec.toNat_add, Nat.mod_eq_of_lt (by omega), toNat_digitPart low]

/-- A digit at one of the first eight positions adds what it stands for. -/
theorem addDigit_low :
    ∃ sum, addDigit total (digitPlace position) digit = some sum ∧
      sum.toNat = total.toNat + digit.toNat * 2 ^ (15 * position) ∧ SumBelow (position + 1) sum := by
  refine ⟨total + digitPart (digitPlace position) digit, ?_, toNat_add_digitPart below digit low, ?_⟩
  · rw [addDigit, if_pos ((digitPlace_lt_iff (by omega)).mpr low), saddOverflow_digitPart below digit low,
      if_neg Bool.false_ne_true]
  · rw [SumBelow, toNat_add_digitPart below digit low]
    exact sum_lt_next below digit

end Digit

/-- A zero adds nothing, wherever it stands. -/
theorem addDigit_zero (total : BitVec 128) (place : UInt32) : addDigit total place 0 = some total := by
  have part : digitPart place 0 = 0 := BitVec.zero_shiftLeft place.toNat
  have least := total.le_toInt
  have greatest := total.toInt_lt
  have nothing : (0 : BitVec 128).toInt = 0 := rfl
  have fits : total.saddOverflow 0 = false := by
    rw [BitVec.saddOverflow, nothing]
    simp only [Bool.or_eq_false_iff, decide_eq_false_iff_not]
    omega
  rw [addDigit, part, fits, if_neg Bool.false_ne_true, if_pos rfl]
  split
  · exact congrArg some (BitVec.add_zero total)
  · rfl

/-- From the eighth position on no other digit leaves a sum. -/
theorem addDigit_high {position : Nat} (high : 8 ≤ position) (few : position < 2 ^ 28) {digit : UInt16}
    (notZero : digit ≠ 0) (total : BitVec 128) : addDigit total (digitPlace position) digit = none := by
  have above : ¬ digitPlace position < 120 := by
    rw [digitPlace_lt_iff few]
    omega
  rw [addDigit, if_neg above, if_neg notZero]

/-! ### Rows of digits -/

theorem digitBytes_cons (digit : UInt16) (digits : List UInt16) :
    digitBytes (digit :: digits) =
      UInt8.ofNat digit.toNat :: UInt8.ofNat (digit.toNat / 256) :: digitBytes digits :=
  rfl

theorem length_digitBytes (digits : List UInt16) : (digitBytes digits).length = digits.length * 2 := by
  induction digits with
  | nil =>
      rfl
  | cons digit digits ih =>
      rw [digitBytes_cons, List.length_cons, List.length_cons, ih, List.length_cons]
      omega

/-- A digit is read back from its two bytes. -/
theorem ofNat_littleEndian (digit : UInt16) :
    UInt16.ofNat (littleEndian [UInt8.ofNat digit.toNat, UInt8.ofNat (digit.toNat / 256)]) = digit := by
  have small : digit.toNat < 2 ^ 16 := digit.toNat_lt
  apply UInt16.toNat_inj.mp
  simp only [littleEndian, UInt8.toNat_ofNat', UInt16.toNat_ofNat']
  omega

/-- The first digit is added, and then the others from the next position on. -/
theorem sumDigits_cons (position : Nat) (total : BitVec 128) (digit : UInt16) (digits : List UInt16) :
    sumDigits position total (digitBytes (digit :: digits)) =
      (addDigit total (digitPlace position) digit).bind fun sum =>
        sumDigits (position + 1) sum (digitBytes digits) := by
  rw [digitBytes_cons, sumDigits, ofNat_littleEndian]
  cases addDigit total (digitPlace position) digit <;> rfl

theorem sumDigits_append (front back : List UInt16) :
    ∀ (position : Nat) (total : BitVec 128), sumDigits position total (digitBytes (front ++ back)) =
      (sumDigits position total (digitBytes front)).bind fun sum =>
        sumDigits (position + front.length) sum (digitBytes back) := by
  induction front with
  | nil =>
      intro position total
      rfl
  | cons digit front ih =>
      intro position total
      rw [List.cons_append, sumDigits_cons, sumDigits_cons, Option.bind_assoc, List.length_cons]
      simp only [ih, Nat.add_assoc, Nat.add_comm 1]

/-- Digits at the first eight positions add up to what they stand for. -/
theorem sumDigits_low (digits : List UInt16) :
    ∀ {position : Nat} {total : BitVec 128}, position + digits.length ≤ 8 → SumBelow position total →
      ∃ sum, sumDigits position total (digitBytes digits) = some sum ∧
        sum.toNat = total.toNat + digitNumber digits * 2 ^ (15 * position) ∧
          SumBelow (position + digits.length) sum := by
  induction digits with
  | nil =>
      intro position total _ below
      exact ⟨total, rfl, by simp [digitNumber, fifteenBitNumber], below⟩
  | cons digit digits ih =>
      intro position total low below
      rw [List.length_cons] at low ⊢
      obtain ⟨first, added, isFirst, next⟩ := addDigit_low below digit (by omega)
      obtain ⟨sum, summed, isSum, last⟩ := ih (by omega) next
      refine ⟨sum, ?_, ?_, ?_⟩
      · rw [sumDigits_cons, added, Option.bind_some, summed]
      · rw [isSum, isFirst, digitNumber_cons]
        ring
      · rwa [Nat.add_comm digits.length 1, ← Nat.add_assoc]

/-- Zeros leave a sum as it is, wherever they stand. -/
theorem sumDigits_zeros {digits : List UInt16} (zeros : ∀ digit ∈ digits, digit = 0) :
    ∀ (position : Nat) (total : BitVec 128), sumDigits position total (digitBytes digits) = some total := by
  induction digits with
  | nil =>
      intro position total
      rfl
  | cons digit digits ih =>
      intro position total
      obtain ⟨isZero, others⟩ := List.forall_mem_cons.mp zeros
      rw [sumDigits_cons, isZero, addDigit_zero, Option.bind_some, ih others]

/-- From the eighth position on a digit other than zero leaves no sum. -/
theorem sumDigits_high {digits : List UInt16} (notZeros : ∃ digit ∈ digits, digit ≠ 0) :
    ∀ {position : Nat}, 8 ≤ position → position + digits.length ≤ 2 ^ 28 →
      ∀ total : BitVec 128, sumDigits position total (digitBytes digits) = none := by
  induction digits with
  | nil =>
      obtain ⟨digit, member, _⟩ := notZeros
      cases member
  | cons digit digits ih =>
      intro position high few total
      rw [List.length_cons] at few
      rw [sumDigits_cons]
      by_cases isZero : digit = 0
      · rw [isZero, addDigit_zero, Option.bind_some]
        apply ih _ (by omega) (by omega)
        simpa [isZero] using notZeros
      · rw [addDigit_high high (by omega) isZero, Option.bind_none]

/-! ### All digits of an integer -/

/-- The sum of the digits is their number, and has 122 bits at most. -/
structure Sums (digits : List UInt16) (total : BitVec 128) : Prop where
  isSum : sumDigits 0 0 (digitBytes digits) = some total
  number : total.toNat = digitNumber digits
  bits : total.toNat < 2 ^ 122

/-- The first eight digits have a sum, from which the others go on. -/
theorem exists_sums_take (digits : List UInt16) :
    ∃ total, Sums (digits.take 8) total ∧
      sumDigits 0 0 (digitBytes digits) =
        sumDigits (digits.take 8).length total (digitBytes (digits.drop 8)) := by
  have few : (digits.take 8).length ≤ 8 := by
    rw [List.length_take]
    omega
  obtain ⟨total, summed, isTotal, below⟩ := sumDigits_low (digits.take 8) (by omega) sumBelow_zero
  refine ⟨total, ⟨summed, by simpa using isTotal, ?_⟩, ?_⟩
  · exact below.trans_le (Nat.pow_le_pow_right (by omega) (by omega))
  · conv_lhs => rw [← List.take_append_drop 8 digits]
    rw [sumDigits_append, summed, Option.bind_some, Nat.zero_add]

/-- The digits from the eighth position on count from the place 120. -/
theorem digitNumber_take_drop (digits : List UInt16) :
    digitNumber digits = digitNumber (digits.take 8) + 2 ^ 120 * digitNumber (digits.drop 8) := by
  by_cases few : digits.length ≤ 8
  · rw [List.take_of_length_le few, List.drop_of_length_le few]
    simp [digitNumber, fifteenBitNumber]
  · conv_lhs => rw [← List.take_append_drop 8 digits]
    rw [digitNumber_append, List.length_take, Nat.min_eq_left (by omega)]

/-- However many zeros stand behind the first eight digits, there is a sum. -/
theorem exists_sums_of_zeros {digits : List UInt16} (zeros : digitNumber (digits.drop 8) = 0) :
    ∃ total, Sums digits total := by
  obtain ⟨total, front, goesOn⟩ := exists_sums_take digits
  refine ⟨total, ?_, ?_, front.bits⟩
  · rw [goesOn, sumDigits_zeros (digitNumber_eq_zero_iff.mp zeros)]
  · rw [front.number, digitNumber_take_drop digits, zeros, Nat.mul_zero, Nat.add_zero]

/-- Digits whose number is below the place 120 have a sum, however many they are. -/
theorem exists_sums_of_lt {digits : List UInt16} (small : digitNumber digits < 2 ^ 120) :
    ∃ total, Sums digits total := by
  apply exists_sums_of_zeros
  rw [digitNumber_take_drop] at small
  omega

/-- Digits have a sum, or there is none and their number is too large for any value. -/
theorem sums_or_none {digits : List UInt16} (few : digits.length < 2 ^ 28) :
    (∃ total, Sums digits total) ∨
      sumDigits 0 0 (digitBytes digits) = none ∧ 2 ^ 120 ≤ digitNumber digits := by
  by_cases zeros : digitNumber (digits.drop 8) = 0
  · left
    exact exists_sums_of_zeros zeros
  · right
    have notZeros : ∃ digit ∈ digits.drop 8, digit ≠ 0 := by
      simpa [digitNumber_eq_zero_iff] using zeros
    have long : 8 < digits.length := by
      obtain ⟨digit, member, _⟩ := notZeros
      have present := List.length_pos_of_mem member
      rw [List.length_drop] at present
      omega
    constructor
    · obtain ⟨total, _, goesOn⟩ := exists_sums_take digits
      rw [goesOn]
      apply sumDigits_high notZeros
      · rw [List.length_take]
        omega
      · rw [← List.length_append, List.take_append_drop]
        omega
    · rw [digitNumber_take_drop]
      omega

/-! ### The value of a sum -/

/-- An integer as a value: the integer itself when it has 64 bits, and otherwise the number of its digits. -/
def exactValue (count : Nat) (n : Int) : Value :=
  if -2 ^ 63 ≤ n ∧ n < 2 ^ 63 then .int (Int64.ofInt n)
  else .raw ("<int of " ++ toString count ++ " digits>")

theorem narrow?_eq (n : BitVec 128) :
    narrow? n = if -2 ^ 63 ≤ n.toInt ∧ n.toInt < 2 ^ 63 then some (Int64.ofInt n.toInt) else none := by
  simp only [narrow?, Nat.pow_eq, Bool.and_eq_true, decide_eq_true_eq]
  rfl

theorem exactValue_toInt (count : Nat) (n : Int64) : exactValue count n.toInt = .int n := by
  rw [exactValue, if_pos ⟨n.le_toInt, n.toInt_lt⟩, Int64.ofInt_toInt]

/-- An integer with the sign of the count of its digits. -/
def signedLike (size : Int) (magnitude : Nat) : Int :=
  if size < 0 then -magnitude else magnitude

section Value

variable {digits : List UInt16} {total : BitVec 128} (sums : Sums digits total)

include sums

/-- A sum has no sign, so the negative of it is exact. -/
theorem Sums.toInt_neg : (-total).toInt = -total.toInt := by
  have bits := sums.bits
  rw [BitVec.toInt_neg, toInt_of_lt bits]
  apply Int.bmod_eq_of_le
  · omega
  · omega

/-- The value of a sum is the number of the digits, with the sign of their count. -/
theorem Sums.integerValue_some (size : Int) :
    integerValue size (some total) = exactValue size.natAbs (signedLike size (digitNumber digits)) := by
  have signed : (if size < 0 then -total else total).toInt = signedLike size (digitNumber digits) := by
    rw [signedLike, ← sums.number, ← toInt_of_lt sums.bits]
    split
    · exact sums.toInt_neg
    · rfl
  rw [integerValue, Option.map_some, Option.bind_some, narrow?_eq, signed, exactValue]
  by_cases fits : -2 ^ 63 ≤ signedLike size (digitNumber digits) ∧ signedLike size (digitNumber digits) < 2 ^ 63
  · rw [if_pos fits, if_pos fits]
  · rw [if_neg fits, if_neg fits]

end Value

/-- The digits of an integer are read as the number that they stand for. -/
theorem integerValue_sumDigits {digits : List UInt16} (few : digits.length < 2 ^ 28) (size : Int) :
    integerValue size (sumDigits 0 0 (digitBytes digits)) =
      exactValue size.natAbs (signedLike size (digitNumber digits)) := by
  rcases sums_or_none few with ⟨total, sums⟩ | ⟨none, large⟩
  · rw [sums.isSum, sums.integerValue_some]
  · have tooLarge : ¬ (-2 ^ 63 ≤ signedLike size (digitNumber digits) ∧
        signedLike size (digitNumber digits) < 2 ^ 63) := by
      rw [signedLike]
      split <;> omega
    rw [none, exactValue, if_neg tooLarge]
    rfl

end SourceRecovery.ObjectStream
