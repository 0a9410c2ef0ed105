/-
Module: SourceRecovery.Proofs.DigitText
Layer: Proofs
Purpose: Numbers written in digits read back. Digits are written in any base up to sixteen, with zeros in
  front or with capitals, and are read with a bound; a sign is never mistaken for a digit.
Imports: Mathlib.Algebra.Group.Int.Defs, Mathlib.Algebra.Group.Nat.Defs, SourceRecovery.Number.Text,
  SourceRecovery.Text.Basic
Trusted boundary: none
Main exports: digitsValue?_map_toDigits, readDigits_toDigits, readUnsigned_toDigits, readUnsigned_hexDigits
Open obligations: none
-/
import Mathlib.Algebra.Group.Int.Defs
import Mathlib.Algebra.Group.Nat.Defs
import SourceRecovery.Number.Text
import SourceRecovery.Text.Basic

namespace SourceRecovery

/-- The code point of a digit. -/
theorem toNat_digitChar : ∀ d : Fin 16,
    (Nat.digitChar d).toNat = if d.val < 10 then 48 + d.val else 87 + d.val := by
  decide

/-- The code point of a digit as a capital. -/
theorem toNat_toUpper_digitChar : ∀ d : Fin 16,
    (Nat.digitChar d).toUpper.toNat = if d.val < 10 then 48 + d.val else 55 + d.val := by
  decide

/-- A character has the value of the digit that its code point is for. Letters are small or capital. -/
theorem digitValue?_of_toNat {base d : Nat} {c : Char} (below : d < base) (small : base ≤ 16)
    {letter : Nat} (letters : letter = 87 ∨ letter = 55)
    (code : c.toNat = if d < 10 then 48 + d else letter + d) : digitValue? base c = some d := by
  unfold digitValue?
  rw [code]
  by_cases decimal : d < 10
  · have last : 48 + d ≤ 57 := by omega
    simp [decimal, last, below]
  · have notDecimal : ¬ letter + d ≤ 57 := by omega
    rcases letters with rfl | rfl
    · have first : 97 ≤ 87 + d := by omega
      have last : 87 + d ≤ 122 := by omega
      simp [decimal, notDecimal, first, last, below]
    · have notSmall : ¬ 97 ≤ 55 + d := by omega
      have first : 65 ≤ 55 + d := by omega
      have last : 55 + d ≤ 90 := by omega
      simp [decimal, notDecimal, notSmall, first, last, below]

/-- A digit has its value. -/
theorem digitValue?_digitChar {base d : Nat} (small : base ≤ 16) (below : d < base) :
    digitValue? base (Nat.digitChar d) = some d :=
  digitValue?_of_toNat below small (Or.inl rfl) (toNat_digitChar ⟨d, by omega⟩)

/-- A capital digit has its value. -/
theorem digitValue?_toUpper_digitChar {base d : Nat} (small : base ≤ 16) (below : d < base) :
    digitValue? base (Nat.digitChar d).toUpper = some d :=
  digitValue?_of_toNat below small (Or.inr rfl) (toNat_toUpper_digitChar ⟨d, by omega⟩)

/-- Digits are read from left to right. -/
theorem digitsValue?_append (base acc : Nat) (front back : List Char) :
    digitsValue? base acc (front ++ back) =
      (digitsValue? base acc front).bind fun value => digitsValue? base value back := by
  induction front generalizing acc with
  | nil =>
      rfl
  | cons c front ih =>
      simp only [List.cons_append, digitsValue?]
      cases digitValue? base c with
      | none =>
          rfl
      | some value =>
          exact ih _

/-- Digits spelled by `spell` read back, as long as every single one does. -/
theorem digitsValue?_map_toDigits {base : Nat} (two : 1 < base) (spell : Char → Char)
    (spelled : ∀ d < base, digitValue? base (spell (Nat.digitChar d)) = some d) (n : Nat) :
    digitsValue? base 0 ((Nat.toDigits base n).map spell) = some n := by
  induction n using Nat.strongRecOn with
  | ind n ih =>
      rw [Nat.toDigits_eq_if two]
      split
      · rename_i below
        simp [digitsValue?, spelled n below]
      · have smaller : n / base < n := Nat.div_lt_self (by omega) two
        have remainder : n % base < base := Nat.mod_lt n (by omega)
        have last : digitsValue? base (n / base) [spell (Nat.digitChar (n % base))] =
            some (n / base * base + n % base) := by
          simp [digitsValue?, spelled _ remainder]
        rw [List.map_append, List.map_singleton, digitsValue?_append, ih _ smaller, Option.bind_some, last,
          Nat.div_add_mod']

/-- Zeros in front do not count. -/
theorem digitsValue?_replicate_zero {base : Nat} {zero : Char}
    (isZero : digitValue? base zero = some 0) (count : Nat) (digits : List Char) :
    digitsValue? base 0 (List.replicate count zero ++ digits) = digitsValue? base 0 digits := by
  induction count with
  | zero =>
      rfl
  | succ count ih =>
      simp only [List.replicate_succ, List.cons_append, digitsValue?, isZero,
        Nat.zero_mul, Nat.zero_add]
      exact ih

/-- Digits that are spelled and filled up with zeros are read within the bound. -/
theorem readDigits_of_value {base bound n : Nat} {digits : List Char} (nonempty : digits ≠ [])
    (value : digitsValue? base 0 digits = some n) (below : n < bound) :
    readDigits base bound digits = .ok n := by
  simp [readDigits, nonempty, value, below]

/-- The digits of a written number have its value. -/
theorem digitsValue?_toDigits {base : Nat} (two : 1 < base) (small : base ≤ 16) (n : Nat) :
    digitsValue? base 0 (Nat.toDigits base n) = some n := by
  simpa using digitsValue?_map_toDigits two id (fun d => digitValue?_digitChar small) n

/-- A written number is read back when it is below the bound. -/
theorem readDigits_toDigits {base bound n : Nat} (two : 1 < base) (small : base ≤ 16)
    (below : n < bound) : readDigits base bound (Nat.toDigits base n) = .ok n :=
  readDigits_of_value Nat.toDigits_ne_nil (digitsValue?_toDigits two small n) below

/-- A written number is too large from the bound on. -/
theorem readDigits_toDigits_of_le {base bound n : Nat} (two : 1 < base) (small : base ≤ 16)
    (large : bound ≤ n) : readDigits base bound (Nat.toDigits base n) = .error .tooLarge := by
  simp [readDigits, digitsValue?_toDigits two small n, Nat.not_lt.mpr large]

/-- Everything in a written number is a digit. -/
theorem exists_digit_of_mem_toDigits {base : Nat} (two : 1 < base) {c : Char} {n : Nat}
    (member : c ∈ Nat.toDigits base n) : ∃ d < base, c = Nat.digitChar d := by
  induction n using Nat.strongRecOn with
  | ind n ih =>
      rw [Nat.toDigits_eq_if two] at member
      split at member
      · rename_i below
        exact ⟨n, below, by simpa using member⟩
      · have smaller : n / base < n := Nat.div_lt_self (by omega) two
        have remainder : n % base < base := Nat.mod_lt n (by omega)
        rcases List.mem_append.mp member with front | last
        · exact ih _ smaller front
        · exact ⟨n % base, remainder, by simpa using last⟩

/-- What every digit satisfies, everything in a written number satisfies. -/
theorem forall_mem_toDigits {base : Nat} (two : 1 < base) (small : base ≤ 16) (good : Char → Prop)
    (digits : ∀ d : Fin 16, good (Nat.digitChar d)) (n : Nat) :
    ∀ c ∈ Nat.toDigits base n, good c := by
  intro c member
  obtain ⟨d, below, rfl⟩ := exists_digit_of_mem_toDigits two member
  exact digits ⟨d, by omega⟩

/-- Digits without a sign are read as they are. -/
theorem readUnsigned_eq_readDigits {base bound : Nat} {cs : List Char} (unsigned : '+' ∉ cs) :
    readUnsigned base bound cs = readDigits base bound cs := by
  unfold readUnsigned
  split
  · simp at unsigned
  · simp at unsigned
  · rfl

/-- A written number is read back by the reader that also takes a sign. -/
theorem readUnsigned_toDigits {base bound n : Nat} (two : 1 < base) (small : base ≤ 16)
    (below : n < bound) : readUnsigned base bound (Nat.toDigits base n) = .ok n := by
  have unsigned : '+' ∉ Nat.toDigits base n := fun member =>
    forall_mem_toDigits two small (· ≠ '+') (by decide) n '+' member rfl
  rw [readUnsigned_eq_readDigits unsigned]
  exact readDigits_toDigits two small below

/-! ### Hexadecimal digits of a fixed width -/

/-- A number that fits has as many digits as wanted. -/
theorem length_hexDigits {width n : Nat} (positive : 0 < width) (fits : n < 16 ^ width) :
    (Text.hexDigits width n).length = width := by
  have short : (Nat.toDigits 16 n).length ≤ width :=
    (Nat.length_toDigits_le_iff (by omega) positive).mpr fits
  simp only [Text.hexDigits, List.length_append, List.length_replicate]
  omega

/-- What every digit satisfies, all digits of a fixed width satisfy. -/
theorem forall_mem_hexDigits (good : Char → Prop) (digits : ∀ d : Fin 16, good (Nat.digitChar d))
    (width n : Nat) : ∀ c ∈ Text.hexDigits width n, good c := by
  intro c member
  rcases List.mem_append.mp member with filled | written
  · rw [(List.mem_replicate.mp filled).2]
    exact digits 0
  · exact forall_mem_toDigits (by omega) (by omega) good digits n c written

/-- Digits of a fixed width, each spelled in its own way, read back. -/
theorem readUnsigned_map_hexDigits {bound n : Nat} (width : Nat) (spell : Char → Char)
    (spelled : ∀ d : Fin 16, digitValue? 16 (spell (Nat.digitChar d)) = some d.val)
    (unsigned : ∀ d : Fin 16, spell (Nat.digitChar d) ≠ '+') (below : n < bound) :
    readUnsigned 16 bound ((Text.hexDigits width n).map spell) = .ok n := by
  have noSign : '+' ∉ (Text.hexDigits width n).map spell := by
    intro member
    obtain ⟨c, cMem, isPlus⟩ := List.mem_map.mp member
    exact forall_mem_hexDigits (fun c => spell c ≠ '+') unsigned width n c cMem isPlus
  rw [readUnsigned_eq_readDigits noSign]
  apply readDigits_of_value _ _ below
  · simp [Text.hexDigits, Nat.toDigits_ne_nil]
  · have zeros : digitValue? 16 (spell '0') = some 0 := spelled 0
    have digits := digitsValue?_map_toDigits (by omega) spell
      (fun d dBelow => spelled ⟨d, dBelow⟩) n
    simp only [Text.hexDigits, List.map_append, List.map_replicate]
    rw [digitsValue?_replicate_zero zeros, digits]

/-- Digits of a fixed width read back. -/
theorem readUnsigned_hexDigits {bound n : Nat} (width : Nat) (below : n < bound) :
    readUnsigned 16 bound (Text.hexDigits width n) = .ok n := by
  have mapped := readUnsigned_map_hexDigits width id
    (fun d => digitValue?_digitChar (by omega) d.isLt) (by decide) below
  rwa [List.map_id] at mapped

end SourceRecovery
