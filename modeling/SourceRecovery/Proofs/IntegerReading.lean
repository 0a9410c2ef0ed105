/-
Module: SourceRecovery.Proofs.IntegerReading
Layer: Proofs
Purpose: Integers of any size in an object stream. The signed count of digits and the digits that follow it are read as
  the number that they stand for, or as raw text when it has more than 64 bits. No step of the sum leaves 128 bits,
  and nothing fails but a stream that ends too early.
Imports: Mathlib.Algebra.BigOperators.Fin, SourceRecovery.Proofs.DigitSums, SourceRecovery.Proofs.ObjectReading
Trusted boundary: none
Main exports: ObjectStream.digitNumber_eq_sum, ObjectStream.ExactStep, ObjectStream.readInteger_eq_sum
Open obligations: none
-/
import Mathlib.Algebra.BigOperators.Fin
import SourceRecovery.Proofs.DigitSums
import SourceRecovery.Proofs.ObjectReading

namespace SourceRecovery.ObjectStream

/-! ### The number of digits -/

/-- Every digit counts at its own place. -/
theorem digitNumber_eq_sum (digits : List UInt16) :
    digitNumber digits = ∑ i : Fin digits.length, (digits.get i).toNat * 2 ^ (15 * i.val) := by
  induction digits with
  | nil =>
      rfl
  | cons digit digits ih =>
      have later (i : Fin digits.length) : ((digit :: digits).get i.succ).toNat * 2 ^ (15 * i.succ.val) =
          2 ^ 15 * ((digits.get i).toNat * 2 ^ (15 * i.val)) := by
        rw [List.get_cons_succ', Fin.val_succ]
        ring
      have split := Fin.sum_univ_succ fun i : Fin (digits.length + 1) =>
        ((digit :: digits).get i).toNat * 2 ^ (15 * i.val)
      rw [Finset.sum_congr rfl fun i _ => later i, ← Finset.mul_sum, ← ih] at split
      rw [digitNumber_cons]
      exact (split.trans (by simp)).symm

/-- The sign of the count is that of the number, and no digits are no number. -/
theorem signedLike_eq_sign_mul {size : Int} {digits : List UInt16} (count : digits.length = size.natAbs) :
    signedLike size (digitNumber digits) = size.sign * digitNumber digits := by
  rcases Int.lt_trichotomy size 0 with negative | zero | positive
  · rw [signedLike, if_pos negative, Int.sign_eq_neg_one_of_neg negative, Int.neg_one_mul]
  · rw [zero] at count ⊢
    rw [List.eq_nil_of_length_eq_zero count]
    rfl
  · rw [signedLike, if_neg (by omega), Int.sign_eq_one_of_pos positive, Int.one_mul]

/-! ### Steps of the sum -/

/-- The step that adds a digit to a sum loses nothing. Its place is counted in 32 bits without overflow, and where the
    digit is shifted and added, the shift keeps all its bits and the addition stays within 128 bits. -/
structure ExactStep (position : Nat) (total : BitVec 128) (digit : UInt16) : Prop where
  place : (digitPlace position).toNat = 15 * position
  shift : digitPlace position < 120 →
    (digitPart (digitPlace position) digit).toInt = digit.toNat * 2 ^ (15 * position)
  addition : digitPlace position < 120 → total.saddOverflow (digitPart (digitPlace position) digit) = false

/-- The sum of the digits before one of the first eight positions is as small as they are. -/
theorem sumBelow_of_take {digits : List UInt16} {k : Nat} (long : k ≤ digits.length) (low : k ≤ 8) {total : BitVec 128}
    (summed : sumDigits 0 0 (digitBytes (digits.take k)) = some total) : SumBelow k total := by
  have size : (digits.take k).length = k := List.length_take_of_le long
  obtain ⟨sum, again, _, below⟩ := sumDigits_low (digits.take k) (by omega) sumBelow_zero
  rw [summed] at again
  cases again
  rwa [size, Nat.zero_add] at below

/-- Every step of the sum of digits is exact. -/
theorem exactStep_of_take {digits : List UInt16} (few : digits.length < 2 ^ 28) {k : Nat} {digit : UInt16}
    (found : digits[k]? = some digit) {total : BitVec 128}
    (summed : sumDigits 0 0 (digitBytes (digits.take k)) = some total) : ExactStep k total digit := by
  have within : k < digits.length := (List.getElem?_eq_some_iff.mp found).1
  have below (low : k < 8) := sumBelow_of_take (Nat.le_of_lt within) (Nat.le_of_lt low) summed
  refine ⟨toNat_digitPlace (by omega), ?_, ?_⟩
  · rw [digitPlace_lt_iff (by omega)]
    intro low
    have bits := sum_lt_bits (below low) digit low
    rw [toInt_of_lt (by omega), toNat_digitPart low]
    push_cast
    rfl
  · rw [digitPlace_lt_iff (by omega)]
    intro low
    exact saddOverflow_digitPart (below low) digit low

/-! ### Streams that end too early -/

/-- Without four bytes there is no count. -/
theorem readInteger_of_length_lt (refs : Table) (units : List CodeUnit) {stream : List UInt8} (short : stream.length < 4) :
    readInteger ⟨stream, refs, units⟩ = .error ⟨.truncated, stream.length⟩ := by
  have missing : ¬ (stream.take 4).length = 4 := by
    rw [List.length_take]
    omega
  have cut : take 4 ⟨stream, refs, units⟩ = .error ⟨.truncated, stream.length⟩ := by
    simp only [take, missing, if_false]
  have uncounted : readSigned ⟨stream, refs, units⟩ = .error ⟨.truncated, stream.length⟩ := bind_of_error cut
  exact bind_of_error uncounted

section Counted

variable (refs : Table) (units : List CodeUnit) {size : Int} (few : size.natAbs < 2 ^ 28)

include few

/-- Digits that are missing are noticed before any is read. -/
theorem readInteger_of_few_bytes {rest : List UInt8} (short : rest.length < 2 * size.natAbs) :
    readInteger ⟨signedBytes 4 size ++ rest, refs, units⟩ = .error ⟨.badIntegerSize size, rest.length⟩ := by
  have word := readSigned_signedBytes rest refs units (n := size) (by omega) (by omega)
  have missing : rest.length < size.natAbs * 2 := by omega
  simp only [readInteger, bind_of_ok word, get_bind, missing, if_true]
  rfl

/-- A stream fails exactly when it has fewer bytes than the count announces. -/
theorem readInteger_eq_error_iff (rest : List UInt8) (fault : StreamFault) :
    readInteger ⟨signedBytes 4 size ++ rest, refs, units⟩ = .error fault ↔
      rest.length < 2 * size.natAbs ∧ fault = ⟨.badIntegerSize size, rest.length⟩ := by
  by_cases short : rest.length < 2 * size.natAbs
  · rw [readInteger_of_few_bytes refs units few short]
    constructor
    · rintro ⟨⟩
      exact ⟨short, rfl⟩
    · rintro ⟨_, rfl⟩
      rfl
  · have count : (rest.take (size.natAbs * 2)).length = size.natAbs * 2 := by
      rw [List.length_take]
      omega
    have least : -2 ^ 31 ≤ size := by omega
    have done := readInteger_append (rest.drop (size.natAbs * 2)) refs units least (by omega) count
    rw [List.take_append_drop] at done
    rw [done]
    constructor
    · rintro ⟨⟩
    · rintro ⟨tooShort, _⟩
      exact absurd tooShort short

end Counted

/-! ### Integers -/

/-- An integer of fewer than 2^28 digits. With the count and the digits in the stream, exactly their bytes are used up,
    and the value is the number of the digits with the sign of the count. On the way every digit is shifted and added
    exactly, and the last sum is negated exactly. A stream that ends within the count, or before the last digit, is
    at fault, and no other stream is. -/
theorem readInteger_eq_sum {size : Int} (few : size.natAbs < 2 ^ 28) (refs : Table) (units : List CodeUnit) :
    (∀ digits : List UInt16, digits.length = size.natAbs →
      let bytes := signedBytes 4 size ++ digitBytes digits
      let number := size.sign * (∑ i : Fin digits.length, (digits.get i).toNat * 2 ^ (15 * i.val) : Nat)
      bytes.length = 4 + 2 * size.natAbs ∧
      (∀ tail, readInteger ⟨bytes ++ tail, refs, units⟩ = .ok (exactValue size.natAbs number, ⟨tail, refs, units⟩)) ∧
      (∀ k digit total, digits[k]? = some digit → sumDigits 0 0 (digitBytes (digits.take k)) = some total →
        ExactStep k total digit) ∧
      ∀ total, sumDigits 0 0 (digitBytes digits) = some total → (-total).toInt = -total.toInt) ∧
    (∀ stream, stream.length < 4 → readInteger ⟨stream, refs, units⟩ = .error ⟨.truncated, stream.length⟩) ∧
    ∀ rest fault, readInteger ⟨signedBytes 4 size ++ rest, refs, units⟩ = .error fault ↔
      rest.length < 2 * size.natAbs ∧ fault = ⟨.badIntegerSize size, rest.length⟩ := by
  refine ⟨?_, ?_, ?_⟩
  · intro digits count bytes number
    have length : (digitBytes digits).length = size.natAbs * 2 := by rw [length_digitBytes, count]
    refine ⟨?_, ?_, ?_, ?_⟩
    · rw [List.length_append, length, signedBytes, length_littleBytes]
      omega
    · intro tail
      rw [List.append_assoc, readInteger_append tail refs units (by omega) (by omega) length,
        integerValue_sumDigits (by omega), signedLike_eq_sign_mul count, digitNumber_eq_sum]
    · intro k digit total found summed
      exact exactStep_of_take (by omega) found summed
    · intro total summed
      have fewDigits : digits.length < 2 ^ 28 := by omega
      rcases sums_or_none fewDigits with ⟨sum, sums⟩ | ⟨none, _⟩
      · have same : sum = total := Option.some.inj (sums.isSum.symm.trans summed)
        exact same ▸ sums.toInt_neg
      · rw [summed] at none
        cases none
  · intro stream short
    exact readInteger_of_length_lt refs units short
  · exact readInteger_eq_error_iff refs units few

/-- The least integer of 64 bits, with four zeros more than it needs, one byte less than that, and its opposite, which
    has 64 bits no more. -/
theorem readInteger_eq_sum_least :
    readInteger ⟨signedBytes 4 (-9) ++ digitBytes [0, 0, 0, 0, 8, 0, 0, 0, 0] ++ [78], [], []⟩ =
        .ok (.int Int64.minValue, ⟨[78], [], []⟩) ∧
      readInteger ⟨signedBytes 4 (-9) ++ List.replicate 17 0, [], []⟩ = .error ⟨.badIntegerSize (-9), 17⟩ ∧
        readInteger ⟨signedBytes 4 5 ++ digitBytes [0, 0, 0, 0, 8] ++ [78], [], []⟩ =
          .ok (.raw "<int of 5 digits>", ⟨[78], [], []⟩) := by
  have fewNine : (-9 : Int).natAbs < 2 ^ 28 := by decide
  have fewFive : (5 : Int).natAbs < 2 ^ 28 := by decide
  have nine := readInteger_eq_sum fewNine [] []
  have five := ((readInteger_eq_sum fewFive [] []).1 [0, 0, 0, 0, 8] rfl).2.1 [78]
  refine ⟨?_, ?_, five.trans ?_⟩
  · exact (nine.1 [0, 0, 0, 0, 8, 0, 0, 0, 0] rfl).2.1 [78]
  · exact (nine.2.2 _ _).mpr ⟨by decide, rfl⟩
  · rw [exactValue, if_neg (by decide)]
    rfl

end SourceRecovery.ObjectStream
