/-
Module: SourceRecovery.Proofs.Utf8RoundTrip
Layer: Proofs
Purpose: The bytes of a text are read back as the text. Every character takes the decoding machine from
  between two characters to between two characters, through bytes that lie in the range the machine asks
  for.
Imports: SourceRecovery.Text.Utf8
Trusted boundary: none
Main exports: Text.Utf8.decodeFrom_utf8EncodeChar, Text.Utf8.decodeLossy_encode
Open obligations: none
-/
import SourceRecovery.Text.Utf8

namespace SourceRecovery.Text.Utf8

theorem toNat_ofNat_byte {b : Nat} (below : b < 256) : (UInt8.ofNat b).toNat = b :=
  UInt8.toNat_ofNat_of_lt' below

/-- A byte in range finishes a character that owes one byte. -/
theorem decodeFrom_last {bits low high b : Nat} (below : b < 256) (inRange : low ≤ b ∧ b ≤ high)
    (rest : List UInt8) :
    decodeFrom (some ⟨bits, 1, low, high⟩) (UInt8.ofNat b :: rest) =
      Char.ofNat (bits * 64 + b % 64) :: decodeFrom none rest := by
  simp [decodeFrom, step, toNat_ofNat_byte below, inRange]

/-- A byte in range brings six bits of a character that owes more than one byte. -/
theorem decodeFrom_more {bits owed low high b : Nat} (below : b < 256) (inRange : low ≤ b ∧ b ≤ high)
    (rest : List UInt8) :
    decodeFrom (some ⟨bits, owed + 2, low, high⟩) (UInt8.ofNat b :: rest) =
      decodeFrom (some ⟨bits * 64 + b % 64, owed + 1, 0x80, 0xbf⟩) rest := by
  simp [decodeFrom, step, toNat_ofNat_byte below, inRange]

/-- A byte that is a character. -/
theorem decodeFrom_whole {b : Nat} (below : b < 0x80) (rest : List UInt8) :
    decodeFrom none (UInt8.ofNat b :: rest) = Char.ofNat b :: decodeFrom none rest := by
  simp [decodeFrom, step, restart, lead, toNat_ofNat_byte (by omega : b < 256), below]

/-- A byte that opens a character. -/
theorem decodeFrom_opens {b : Nat} {pending : Pending} (opening : lead (UInt8.ofNat b) = .opens pending)
    (rest : List UInt8) :
    decodeFrom none (UInt8.ofNat b :: rest) = decodeFrom (some pending) rest := by
  simp [decodeFrom, step, restart, opening]

/-- The first byte of two. -/
theorem lead_two {b : Nat} (least : 0xc2 ≤ b) (below : b < 0xe0) :
    lead (UInt8.ofNat b) = .opens ⟨b % 0x20, 1, 0x80, 0xbf⟩ := by
  simp only [lead, toNat_ofNat_byte (by omega : b < 256)]
  rw [if_neg (by omega), if_neg (by omega), if_pos below]

/-- The first byte of three; the range of the second one shuts out what has a shorter form and what is a
    surrogate. -/
theorem lead_three {b : Nat} (least : 0xe0 ≤ b) (below : b < 0xf0) :
    ∃ low high, lead (UInt8.ofNat b) = .opens ⟨b % 0x10, 2, low, high⟩ ∧
      (low = if b = 0xe0 then 0xa0 else 0x80) ∧ (high = if b = 0xed then 0x9f else 0xbf) := by
  refine ⟨_, _, ?_, rfl, rfl⟩
  simp only [lead, toNat_ofNat_byte (by omega : b < 256)]
  rw [if_neg (by omega), if_neg (by omega), if_neg (by omega)]
  by_cases first : b = 0xe0
  · subst first
    rfl
  · rw [if_neg first, if_neg first]
    by_cases surrogate : b = 0xed
    · subst surrogate
      rfl
    · rw [if_neg surrogate, if_neg surrogate, if_pos below]

/-- The first byte of four; the range of the second one shuts out what has a shorter form and what is above
    the last code point. -/
theorem lead_four {b : Nat} (least : 0xf0 ≤ b) (most : b ≤ 0xf4) :
    ∃ low high, lead (UInt8.ofNat b) = .opens ⟨b % 8, 3, low, high⟩ ∧
      (low = if b = 0xf0 then 0x90 else 0x80) ∧ (high = if b = 0xf4 then 0x8f else 0xbf) := by
  refine ⟨_, _, ?_, rfl, rfl⟩
  simp only [lead, toNat_ofNat_byte (by omega : b < 256)]
  rw [if_neg (by omega), if_neg (by omega), if_neg (by omega), if_neg (by omega), if_neg (by omega),
    if_neg (by omega)]
  by_cases first : b = 0xf0
  · subst first
    rfl
  · rw [if_neg first, if_neg first]
    by_cases last : b = 0xf4
    · subst last
      rfl
    · rw [if_pos (by omega : b < 0xf4), if_neg last]

/-- The bytes of a character are read back as the character. -/
theorem decodeFrom_utf8EncodeChar (c : Char) (rest : List UInt8) :
    decodeFrom none (String.utf8EncodeChar c ++ rest) = c :: decodeFrom none rest := by
  have valid : c.toNat < 0xd800 ∨ 0xdfff < c.toNat ∧ c.toNat < 0x110000 := c.valid
  have back : Char.ofNat c.toNat = c := Char.ofNat_toNat c
  have code : c.val.toNat = c.toNat := rfl
  simp only [String.utf8EncodeChar, code]
  generalize c.toNat = v at valid back
  split
  · rename_i one
    rw [List.singleton_append, decodeFrom_whole (by omega), back]
  · split
    · rename_i notOne two
      have bits : (v / 64 % 32 + 192) % 32 * 64 + (v % 64 + 128) % 64 = v := by omega
      rw [List.cons_append, List.singleton_append, decodeFrom_opens (lead_two (by omega) (by omega)),
        decodeFrom_last (by omega) (by omega), bits, back]
    · split
      · rename_i notOne notTwo three
        obtain ⟨low, high, opening, isLow, isHigh⟩ :=
          lead_three (b := v / 4096 % 16 + 224) (by omega) (by omega)
        -- The ranges for the second byte are where surrogates and longer forms drop out.
        have inRange : low ≤ v / 64 % 64 + 128 ∧ v / 64 % 64 + 128 ≤ high := by
          rw [isLow, isHigh]
          split <;> split <;> omega
        have bits : ((v / 4096 % 16 + 224) % 16 * 64 + (v / 64 % 64 + 128) % 64) * 64 +
            (v % 64 + 128) % 64 = v := by omega
        rw [List.cons_append, List.cons_append, List.singleton_append, decodeFrom_opens opening,
          decodeFrom_more (by omega) inRange, decodeFrom_last (by omega) (by omega), bits, back]
      · rename_i notOne notTwo notThree
        obtain ⟨low, high, opening, isLow, isHigh⟩ :=
          lead_four (b := v / 262144 % 8 + 240) (by omega) (by omega)
        have inRange : low ≤ v / 4096 % 64 + 128 ∧ v / 4096 % 64 + 128 ≤ high := by
          rw [isLow, isHigh]
          split <;> split <;> omega
        have bits : (((v / 262144 % 8 + 240) % 8 * 64 + (v / 4096 % 64 + 128) % 64) * 64 +
            (v / 64 % 64 + 128) % 64) * 64 + (v % 64 + 128) % 64 = v := by omega
        rw [List.cons_append, List.cons_append, List.cons_append, List.singleton_append,
          decodeFrom_opens opening, decodeFrom_more (by omega) inRange,
          decodeFrom_more (by omega) (by omega), decodeFrom_last (by omega) (by omega), bits, back]

/-- The bytes of a text are read back as the text. -/
theorem decodeLossy_encode (s : String) : decodeLossy (encode s) = s := by
  have chars : ∀ cs : List Char, decodeFrom none (cs.flatMap String.utf8EncodeChar) = cs := by
    intro cs
    induction cs with
    | nil =>
        rfl
    | cons c cs ih =>
        rw [List.flatMap_cons, decodeFrom_utf8EncodeChar, ih]
  rw [decodeLossy, encode, chars, String.ofList_toList]

end SourceRecovery.Text.Utf8
