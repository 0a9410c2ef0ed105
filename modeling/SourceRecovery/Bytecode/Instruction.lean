/-
Module: SourceRecovery.Bytecode.Instruction
Layer: Bytecode
Purpose: Instructions and the words they are stored in. A word is an operation and a byte of its argument;
  prefix words bring the higher bytes, and cache words carry nothing.
Imports: SourceRecovery.Bytecode.Opcode
Trusted boundary: none
Main exports: Instruction, Instruction.decode
Open obligations: none
-/
import SourceRecovery.Bytecode.Opcode

namespace SourceRecovery

/-- An operation with its whole argument, and the offset of its first word in 32 bits. -/
structure Instruction where
  start : UInt32
  op : Opcode
  arg : UInt32
deriving DecidableEq, Repr, Inhabited

namespace Instruction

/-- The offset as a number. -/
def offset (ins : Instruction) : Nat :=
  ins.start.toNat

/-- Decoding from the word at a position on. `high` holds the argument bytes of the prefixes read since the
    last instruction, and `first` the offset of the first of them. Offsets are positions in 32 bits: at
    four gigabytes they begin again. A byte left over at the end is no word. -/
def decodeFrom (version : Version) :
    (position : Nat) → (high : UInt32) → (first : Option UInt32) → List UInt8 → List Instruction
  | position, high, first, byte :: argument :: rest =>
    let arg := (high <<< 8) ||| UInt32.ofNat argument.toNat
    match Opcode.ofByte version byte with
    | .cache => decodeFrom version (position + 2) high first rest
    | .extendedArg =>
      decodeFrom version (position + 2) arg (some (first.getD (UInt32.ofNat position))) rest
    | op => ⟨first.getD (UInt32.ofNat position), op, arg⟩ :: decodeFrom version (position + 2) 0 none rest
  | _, _, _, _ => []

/-- The instructions of a row of words. -/
def decode (version : Version) (code : List UInt8) : List Instruction :=
  decodeFrom version 0 0 none code

end Instruction

end SourceRecovery
