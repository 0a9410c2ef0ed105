/-
Module: SourceRecovery.Proofs.InstructionWords
Layer: Proofs
Purpose: Instructions and the words they are written in. An instruction is written as prefix words for the higher bytes
  of its argument, its own word, and in modern versions any number of cache words behind it. Decoding gives every
  instruction back with its whole argument, at the position of its first word. Whatever the bytes are, the positions of
  what is decoded are even, ascend and lie within the bytes; the offset of an instruction is its position in 32 bits, so
  that offsets begin again at four gigabytes.
Imports: SourceRecovery.Bytecode.Instruction
Trusted boundary: none
Main exports: Instruction.Written, Instruction.code, Instruction.placed, Instruction.firstWords,
  Instruction.decodeFrom_code, Instruction.exists_positions, Instruction.decode_words
Open obligations: none
-/
import SourceRecovery.Bytecode.Instruction

namespace SourceRecovery

/-! ### Words with a meaning of their own -/

theorem Opcode.ofByte_eq_extendedArg_iff {version : Version} {byte : UInt8} :
    Opcode.ofByte version byte = .extendedArg ↔ byte = 144 := by
  unfold Opcode.ofByte
  split <;> simp_all
  all_goals split <;> simp_all

theorem Opcode.ofByte_eq_cache_iff {version : Version} {byte : UInt8} :
    Opcode.ofByte version byte = .cache ↔ byte = 0 ∧ version.isModern = true := by
  unfold Opcode.ofByte Version.isModern
  split <;> simp_all
  all_goals split <;> simp_all

namespace Instruction

/-! ### Writing -/

/-- An instruction to be written: the byte of its operation, its whole argument, how many prefix words that bring
    nothing stand before it, and what the cache words behind it hold. -/
structure Written where
  byte : UInt8
  arg : UInt32
  idle : Nat := 0
  caches : List UInt8 := []
deriving DecidableEq, Repr

/-- The bytes of an argument above the lowest one, highest first, from the first one that is not zero. -/
def highBytes (arg : UInt32) : List UInt8 :=
  [(arg >>> 24).toUInt8, (arg >>> 16).toUInt8, (arg >>> 8).toUInt8].dropWhile (· == 0)

/-- A prefix word for each byte. -/
def prefixWords (bytes : List UInt8) : List UInt8 :=
  bytes.flatMap fun byte => [144, byte]

/-- A cache word for each byte, in the versions that have cache words. -/
def cacheWords (version : Version) (contents : List UInt8) : List UInt8 :=
  if version.isModern then contents.flatMap fun byte => [0, byte] else []

namespace Written

/-- The byte names an operation of its own: it is no prefix and, where there are cache words, none of them. -/
def Proper (version : Version) (w : Written) : Prop :=
  w.byte ≠ 144 ∧ (version.isModern = true → w.byte ≠ 0)

/-- The words of an instruction. -/
def code (version : Version) (w : Written) : List UInt8 :=
  prefixWords (List.replicate w.idle 0 ++ highBytes w.arg) ++ (w.byte :: w.arg.toUInt8 :: cacheWords version w.caches)

end Written

/-- The words of a row of instructions. -/
def code (version : Version) (ws : List Written) : List UInt8 :=
  ws.flatMap (Written.code version)

/-- The instructions of a row from a position on, each with the position of its first word in 32 bits. -/
def placed (version : Version) : (position : Nat) → List Written → List Instruction
  | _, [] => []
  | position, w :: ws =>
    ⟨UInt32.ofNat position, Opcode.ofByte version w.byte, w.arg⟩ ::
      placed version (position + (w.code version).length) ws

/-- The positions of the first words of a row of instructions. -/
def firstWords (version : Version) : (position : Nat) → List Written → List Nat
  | _, [] => []
  | position, w :: ws => position :: firstWords version (position + (w.code version).length) ws

/-! ### Arguments -/

/-- An argument with a further byte behind the bytes it has. -/
def shiftIn (high : UInt32) (byte : UInt8) : UInt32 :=
  (high <<< 8) ||| UInt32.ofNat byte.toNat

theorem toNat_shiftIn (high : UInt32) (byte : UInt8) :
    (shiftIn high byte).toNat = (high.toNat * 256 + byte.toNat) % 4294967296 := by
  have small : byte.toNat < 256 := byte.toNat_lt
  have low : (UInt32.ofNat byte.toNat).toNat = byte.toNat := by
    rw [UInt32.toNat_ofNat']
    omega
  have shifted : (high <<< 8).toNat = (high.toNat % 16777216) <<< 8 := by
    simp only [UInt32.toNat_shiftLeft, Nat.shiftLeft_eq, UInt32.reduceToNat, Nat.reduceMod, Nat.reducePow]
    omega
  rw [shiftIn, UInt32.toNat_or, low, shifted, ← Nat.shiftLeft_add_eq_or_of_lt small, Nat.shiftLeft_eq]
  omega

/-- Bytes in front that are zero bring nothing. -/
theorem foldl_shiftIn_replicate (count : Nat) : (List.replicate count 0).foldl shiftIn 0 = 0 := by
  induction count with
  | zero =>
      rfl
  | succ count ih =>
      rw [List.replicate_succ, List.foldl_cons]
      exact ih

theorem foldl_shiftIn_dropWhile (bytes : List UInt8) :
    (bytes.dropWhile (· == 0)).foldl shiftIn 0 = bytes.foldl shiftIn 0 := by
  induction bytes with
  | nil =>
      rfl
  | cons byte bytes ih =>
      rw [List.dropWhile_cons]
      split
      case isTrue isZero =>
        rw [ih, List.foldl_cons, eq_of_beq isZero]
        rfl
      case isFalse => rfl

/-- The higher bytes and the lowest one make up the argument. -/
theorem shiftIn_highBytes (idle : Nat) (arg : UInt32) :
    shiftIn ((List.replicate idle 0 ++ highBytes arg).foldl shiftIn 0) arg.toUInt8 = arg := by
  rw [List.foldl_append, foldl_shiftIn_replicate, highBytes, foldl_shiftIn_dropWhile]
  apply UInt32.toNat_inj.mp
  have bound : arg.toNat < 4294967296 := arg.toNat_lt
  simp only [List.foldl_cons, List.foldl_nil, toNat_shiftIn, UInt32.toNat_toUInt8, UInt32.toNat_shiftRight,
    Nat.shiftRight_eq_div_pow, UInt32.reduceToNat, Nat.reduceMod, Nat.reducePow]
  omega

/-! ### Reading what was written -/

variable {version : Version}

theorem decodeFrom_nil (position : Nat) (high : UInt32) (first : Option UInt32) :
    decodeFrom version position high first [] = [] :=
  rfl

theorem decodeFrom_prefixWord (position : Nat) (high : UInt32) (first : Option UInt32) (byte : UInt8)
    (rest : List UInt8) :
    decodeFrom version position high first (144 :: byte :: rest) =
      decodeFrom version (position + 2) (shiftIn high byte) (some (first.getD (UInt32.ofNat position))) rest := by
  rw [decodeFrom, Opcode.ofByte_eq_extendedArg_iff.mpr rfl]
  rfl

theorem decodeFrom_cacheWord (modern : version.isModern = true) (position : Nat) (high : UInt32) (first : Option UInt32)
    (byte : UInt8) (rest : List UInt8) :
    decodeFrom version position high first (0 :: byte :: rest) = decodeFrom version (position + 2) high first rest := by
  rw [decodeFrom, Opcode.ofByte_eq_cache_iff.mpr ⟨rfl, modern⟩]

theorem decodeFrom_ownWord {w : Written} (proper : w.Proper version) (position : Nat) (high : UInt32)
    (first : Option UInt32) (byte : UInt8) (rest : List UInt8) :
    decodeFrom version position high first (w.byte :: byte :: rest) =
      ⟨first.getD (UInt32.ofNat position), Opcode.ofByte version w.byte, shiftIn high byte⟩ ::
        decodeFrom version (position + 2) 0 none rest := by
  rw [decodeFrom]
  split
  case h_1 isCache =>
    obtain ⟨zero, modern⟩ := Opcode.ofByte_eq_cache_iff.mp isCache
    exact absurd zero (proper.2 modern)
  case h_2 isPrefix => exact absurd (Opcode.ofByte_eq_extendedArg_iff.mp isPrefix) proper.1
  case h_3 => rfl

/-- Prefix words shift their bytes in, and the first of them is where the instruction starts. -/
theorem decodeFrom_prefixWords (version : Version) (bytes : List UInt8) (position : Nat) (high : UInt32)
    (first : Option UInt32) (rest : List UInt8) :
    ∃ start : Option UInt32,
      start.getD (UInt32.ofNat (position + (prefixWords bytes).length)) = first.getD (UInt32.ofNat position) ∧
      decodeFrom version position high first (prefixWords bytes ++ rest) =
        decodeFrom version (position + (prefixWords bytes).length) (bytes.foldl shiftIn high) start rest := by
  induction bytes generalizing position high first with
  | nil =>
      exact ⟨first, rfl, rfl⟩
  | cons byte bytes ih =>
      obtain ⟨start, same, decoded⟩ := ih (position + 2) (shiftIn high byte) (some (first.getD (UInt32.ofNat position)))
      have longer : position + (prefixWords (byte :: bytes)).length = position + 2 + (prefixWords bytes).length := by
        rw [prefixWords, List.flatMap_cons, List.length_append, ← prefixWords, Nat.add_assoc]
        rfl
      refine ⟨start, ?_, ?_⟩
      · rw [longer, same]
        rfl
      · rw [longer, List.foldl_cons, ← decoded]
        exact decodeFrom_prefixWord position high first byte (prefixWords bytes ++ rest)

/-- Cache words are passed over. -/
theorem decodeFrom_cacheWords (contents : List UInt8) (position : Nat) (high : UInt32) (first : Option UInt32)
    (rest : List UInt8) :
    decodeFrom version position high first (cacheWords version contents ++ rest) =
      decodeFrom version (position + (cacheWords version contents).length) high first rest := by
  unfold cacheWords
  split
  case isFalse => rfl
  case isTrue modern =>
    induction contents generalizing position with
    | nil =>
        rfl
    | cons byte contents ih =>
        rw [List.flatMap_cons, List.append_assoc, List.length_append, ← Nat.add_assoc]
        exact (decodeFrom_cacheWord modern position high first byte _).trans (ih (position + 2))

/-- An instruction is decoded as it was written, and what follows as if nothing stood before it. -/
theorem decodeFrom_written {w : Written} (proper : w.Proper version) (position : Nat) (rest : List UInt8) :
    decodeFrom version position 0 none (w.code version ++ rest) =
      ⟨UInt32.ofNat position, Opcode.ofByte version w.byte, w.arg⟩ ::
        decodeFrom version (position + (w.code version).length) 0 none rest := by
  obtain ⟨start, same, decoded⟩ := decodeFrom_prefixWords version
    (List.replicate w.idle 0 ++ highBytes w.arg) position 0 none
    (w.byte :: w.arg.toUInt8 :: (cacheWords version w.caches ++ rest))
  have own := decodeFrom_ownWord proper
    (position + (prefixWords (List.replicate w.idle 0 ++ highBytes w.arg)).length)
    ((List.replicate w.idle 0 ++ highBytes w.arg).foldl shiftIn 0) start w.arg.toUInt8
    (cacheWords version w.caches ++ rest)
  rw [same, shiftIn_highBytes, decodeFrom_cacheWords] at own
  rw [Written.code, List.append_assoc]
  refine (decoded.trans own).trans ?_
  simp only [List.length_append, List.length_cons, Option.getD_none]
  congr 2
  omega

/-- A row of instructions is decoded as it was written, whatever follows it. -/
theorem decodeFrom_code {ws : List Written} (proper : ∀ w ∈ ws, w.Proper version) (position : Nat) (rest : List UInt8) :
    decodeFrom version position 0 none (code version ws ++ rest) =
      placed version position ws ++ decodeFrom version (position + (code version ws).length) 0 none rest := by
  induction ws generalizing position with
  | nil =>
      rfl
  | cons w ws ih =>
      obtain ⟨first, others⟩ := List.forall_mem_cons.mp proper
      rw [code, List.flatMap_cons, List.append_assoc, decodeFrom_written first, ← code, ih others, placed,
        List.length_append, Nat.add_assoc, List.cons_append]

/-! ### Positions in anything -/

/-- Even positions that ascend, from one position on and before another. -/
structure Spread (first bound : Nat) (positions : List Nat) : Prop where
  within : ∀ position ∈ positions, first ≤ position ∧ position < bound
  even : ∀ position ∈ positions, position % 2 = 0
  ascend : positions.Pairwise (· < ·)

namespace Spread

variable {first later bound : Nat} {positions : List Nat}

theorem nil : Spread first bound [] :=
  ⟨List.forall_mem_nil _, List.forall_mem_nil _, List.Pairwise.nil⟩

theorem mono (spread : Spread later bound positions) (early : first ≤ later) : Spread first bound positions where
  within position member := ⟨Nat.le_trans early (spread.within position member).1, (spread.within position member).2⟩
  even := spread.even
  ascend := spread.ascend

theorem cons (spread : Spread later bound positions) (even : first % 2 = 0) (early : first < later)
    (inside : first < bound) : Spread first bound (first :: positions) where
  within := List.forall_mem_cons.mpr ⟨⟨Nat.le_refl _, inside⟩, (spread.mono (Nat.le_of_lt early)).within⟩
  even := List.forall_mem_cons.mpr ⟨even, spread.even⟩
  ascend := List.pairwise_cons.mpr
    ⟨fun other member => Nat.lt_of_lt_of_le early (spread.within other member).1, spread.ascend⟩

end Spread

theorem length_word (position : Nat) (byte argument : UInt8) (rest : List UInt8) :
    position + (byte :: argument :: rest).length = position + 2 + rest.length := by
  rw [List.length_cons, List.length_cons]
  omega

/-- Decoding from an even position on, with the first prefix at an even position before it. -/
theorem exists_positions (version : Version) (bytes : List UInt8) (position : Nat) (high : UInt32) (lead : Option Nat)
    (even : position % 2 = 0) (evenLead : lead.getD position % 2 = 0) (early : lead.getD position ≤ position) :
    ∃ positions, (decodeFrom version position high (lead.map UInt32.ofNat) bytes).map start =
        positions.map UInt32.ofNat ∧
      Spread (lead.getD position) (position + bytes.length) positions := by
  generalize isFirst : lead.map UInt32.ofNat = first
  fun_induction decodeFrom version position high first bytes generalizing lead with
  | case1 position high first byte argument rest isCache ih =>
      rw [length_word]
      cases lead with
      | none =>
          have later := Nat.le_add_right position 2
          obtain ⟨positions, starts, spread⟩ := ih none (by omega) (by simpa using even) (Nat.le_refl _) isFirst
          exact ⟨positions, starts, spread.mono later⟩
      | some start =>
          exact ih (some start) (by omega) evenLead (Nat.le_trans early (Nat.le_add_right _ _)) isFirst
  | case2 position high first byte argument rest arg isPrefix ih =>
      rw [length_word]
      have isStart : first.getD (UInt32.ofNat position) = UInt32.ofNat (lead.getD position) := by
        subst isFirst
        exact Option.getD_map ..
      exact ih (some (lead.getD position)) (by omega) evenLead (Nat.le_trans early (Nat.le_add_right _ _))
        (congrArg some isStart.symm)
  | case3 position high first byte argument rest arg notCache notPrefix ih =>
      rw [length_word]
      have isStart : first.getD (UInt32.ofNat position) = UInt32.ofNat (lead.getD position) := by
        subst isFirst
        exact Option.getD_map ..
      obtain ⟨positions, starts, spread⟩ := ih none (by omega) (by simpa using even) (Nat.le_refl _) rfl
      have earlier : lead.getD position < position + 2 :=
        Nat.lt_of_le_of_lt early (Nat.lt_add_of_pos_right Nat.zero_lt_two)
      refine ⟨lead.getD position :: positions, ?_, ?_⟩
      · rw [List.map_cons, List.map_cons, starts, isStart]
      · exact spread.cons evenLead earlier (Nat.lt_of_lt_of_le earlier (Nat.le_add_right _ _))
  | case4 =>
      exact ⟨[], rfl, .nil⟩

/-! ### Offsets -/

/-- The offset is the position in 32 bits. -/
theorem map_offset {instructions : List Instruction} {positions : List Nat}
    (starts : instructions.map start = positions.map UInt32.ofNat) :
    instructions.map offset = positions.map (· % UInt32.size) := by
  have views : instructions.map offset = (instructions.map start).map UInt32.toNat := by
    rw [List.map_map]
    rfl
  rw [views, starts, List.map_map]
  exact List.map_congr_left fun _ _ => UInt32.toNat_ofNat' ..

/-- Positions below four gigabytes are their own offsets. -/
theorem map_mod_size {positions : List Nat} (small : ∀ position ∈ positions, position < UInt32.size) :
    positions.map (· % UInt32.size) = positions := by
  have same : ∀ position ∈ positions, position % UInt32.size = position := by
    intro position member
    exact Nat.mod_eq_of_lt (small position member)
  exact (List.map_congr_left same).trans (List.map_id' positions)

theorem map_start_placed (version : Version) (position : Nat) (ws : List Written) :
    (placed version position ws).map start = (firstWords version position ws).map UInt32.ofNat := by
  induction ws generalizing position with
  | nil =>
      rfl
  | cons w ws ih =>
      rw [placed, firstWords, List.map_cons, List.map_cons, ih]

/-- The words of a row lie within its code. -/
theorem lt_of_mem_firstWords {version : Version} {position first : Nat} {ws : List Written}
    (member : first ∈ firstWords version position ws) : first < position + (code version ws).length := by
  induction ws generalizing position with
  | nil =>
      cases member
  | cons w ws ih =>
      have word : 0 < (w.code version).length := by
        rw [Written.code, List.length_append, List.length_cons]
        omega
      rw [code, List.flatMap_cons, List.length_append, ← code]
      rcases List.mem_cons.mp member with rfl | behind
      · omega
      · have inside := ih behind
        omega

/-- Instructions that are written in words are decoded as they are, with their whole arguments and at the positions of
    their first words. From any bytes at all only instructions at even, ascending positions within the bytes are
    decoded. Offsets are positions in 32 bits, so that all of them are even, and in up to four gigabytes they are the
    positions themselves: they ascend and lie within the bytes. -/
theorem decode_words (version : Version) :
    (∀ ws : List Written, (∀ w ∈ ws, w.Proper version) →
      decode version (code version ws) = placed version 0 ws ∧
        ((code version ws).length ≤ UInt32.size →
          (decode version (code version ws)).map offset = firstWords version 0 ws)) ∧
    (∀ bytes : List UInt8, ∃ positions,
      (decode version bytes).map offset = positions.map (· % UInt32.size) ∧ Spread 0 bytes.length positions ∧
      (∀ ins ∈ decode version bytes, ins.offset % 2 = 0) ∧
      (bytes.length ≤ UInt32.size →
        (∀ ins ∈ decode version bytes, ins.offset < bytes.length) ∧
          (decode version bytes).Pairwise fun a b => a.offset < b.offset)) := by
  refine ⟨fun ws proper => ?_, fun bytes => ?_⟩
  · have whole := decodeFrom_code proper 0 []
    rw [List.append_nil, decodeFrom_nil, List.append_nil] at whole
    refine ⟨whole, fun small => ?_⟩
    rw [decode, whole, map_offset (map_start_placed version 0 ws)]
    apply map_mod_size
    intro first member
    have inside := lt_of_mem_firstWords member
    omega
  · obtain ⟨positions, starts, spread⟩ := exists_positions version bytes 0 0 none rfl rfl (Nat.le_refl _)
    have offsets := map_offset starts
    rw [Nat.zero_add] at spread
    refine ⟨positions, offsets, spread, fun ins member => ?_, fun small => ?_⟩
    · have isOffset := List.mem_map_of_mem (f := offset) member
      obtain ⟨position, inside, same⟩ := List.mem_map.mp (offsets ▸ isOffset)
      have even := spread.even position inside
      rw [← same, UInt32.size]
      omega
    · have isPositions : (decode version bytes).map offset = positions := by
        refine offsets.trans (map_mod_size fun position member => ?_)
        exact Nat.lt_of_lt_of_le (spread.within position member).2 small
      refine ⟨fun ins member => ?_, ?_⟩
      · have isOffset := List.mem_map_of_mem (f := offset) member
        exact (spread.within ins.offset (isPositions ▸ isOffset)).2
      · rw [← List.pairwise_map (f := offset) (R := (· < ·)), isPositions]
        exact spread.ascend

/-- An argument of four bytes behind a prefix that brings nothing, cache words of any contents, and an operation that
    is a cache word only in modern versions. -/
theorem decode_words_fullArgument :
    decode ⟨3, 11⟩ (code ⟨3, 11⟩ [⟨100, 0x12003456, 1, [0, 144]⟩, ⟨90, 7, 0, []⟩]) =
        [⟨0, .loadConst, 0x12003456⟩, ⟨14, .storeName, 7⟩] ∧
      (decode ⟨3, 8⟩ (code ⟨3, 8⟩ [⟨0, 256, 0, [9]⟩, ⟨83, 0, 0, []⟩])).map offset = [0, 4] := by
  refine ⟨((decode_words ⟨3, 11⟩).1 _ ?_).1.trans ?_, (((decode_words ⟨3, 8⟩).1 _ ?_).2 ?_).trans ?_⟩
  · simp [Written.Proper]
  · decide
  · simp [Written.Proper, Version.isModern, Version.atLeast]
  · decide
  · decide

/-- A row of equal words that are no prefixes. -/
theorem decodeFrom_replicate (count position : Nat) :
    decodeFrom ⟨3, 8⟩ position 0 none (List.replicate (2 * count) 9) =
      (List.range count).map fun i => ⟨UInt32.ofNat (position + 2 * i), .other 9, 9⟩ := by
  induction count generalizing position with
  | zero =>
      rfl
  | succ count ih =>
      have word : decodeFrom ⟨3, 8⟩ position 0 none (9 :: 9 :: List.replicate (2 * count) 9) =
          ⟨UInt32.ofNat position, .other 9, 9⟩ ::
            decodeFrom ⟨3, 8⟩ (position + 2) 0 none (List.replicate (2 * count) 9) :=
        rfl
      rw [Nat.mul_succ, List.replicate_succ, List.replicate_succ, word, ih, List.range_succ_eq_map, List.map_cons,
        List.map_map]
      congr 1
      refine List.map_congr_left fun i _ => ?_
      rw [Function.comp_apply, Nat.mul_succ, Nat.add_assoc, Nat.add_comm 2]

/-- In code of four gigabytes and one word more, the last word has the offset of the first one. -/
theorem decode_offsets_begin_again :
    ¬ (decode ⟨3, 8⟩ (List.replicate (UInt32.size + 2) 9)).Pairwise fun a b => a.offset < b.offset := by
  have words : UInt32.size + 2 = 2 * 2147483649 := rfl
  rw [decode, words, decodeFrom_replicate, List.pairwise_map]
  intro ascend
  have last : 2147483648 < (List.range 2147483649).length := by
    rw [List.length_range]
    omega
  have first : 0 < (List.range 2147483649).length := by
    rw [List.length_range]
    omega
  have below := List.pairwise_iff_getElem.mp ascend 0 2147483648 first last (by omega)
  rw [List.getElem_range, List.getElem_range] at below
  exact absurd below (by decide)

end Instruction

end SourceRecovery
