/-
Module: SourceRecovery.Text.Utf8
Layer: Text
Purpose: Texts as bytes. Decoding never fails: every maximal start of a character that the bytes do not
  finish becomes one replacement character, and decoding goes on with the next byte. The decoder is a
  machine that takes one byte at a time, so its state says which bytes may come next.
Imports: SourceRecovery.Text.Chars
Trusted boundary: none
Main exports: encode, decodeLossy
Open obligations: none
-/
import SourceRecovery.Text.Chars

namespace SourceRecovery.Text.Utf8

/-- What stands for bytes that are no character. -/
def replacement : Char :=
  Char.ofNat 0xfffd

/-- A character under way: the bits read, the number of bytes still owed, and the range the next byte has
    to lie in. -/
structure Pending where
  bits : Nat
  owed : Nat
  low : Nat
  high : Nat
deriving DecidableEq, Repr

/-- What a byte means between two characters. -/
inductive Lead where
  | whole (c : Char)
  | opens (pending : Pending)
  | stray
deriving DecidableEq, Repr

/-- The reading of a byte between two characters. Ranges of the second byte shut out overlong forms,
    surrogates and code points above the last one. -/
def lead (byte : UInt8) : Lead :=
  let b := byte.toNat
  if b < 0x80 then .whole (Char.ofNat b)
  else if b < 0xc2 then .stray
  else if b < 0xe0 then .opens ⟨b % 0x20, 1, 0x80, 0xbf⟩
  else if b = 0xe0 then .opens ⟨0, 2, 0xa0, 0xbf⟩
  else if b = 0xed then .opens ⟨0xd, 2, 0x80, 0x9f⟩
  else if b < 0xf0 then .opens ⟨b % 0x10, 2, 0x80, 0xbf⟩
  else if b = 0xf0 then .opens ⟨0, 3, 0x90, 0xbf⟩
  else if b < 0xf4 then .opens ⟨b % 8, 3, 0x80, 0xbf⟩
  else if b = 0xf4 then .opens ⟨4, 3, 0x80, 0x8f⟩
  else .stray

/-- What a byte between two characters puts out, and the character it opens. -/
def restart (byte : UInt8) : List Char × Option Pending :=
  match lead byte with
  | .whole c => ([c], none)
  | .opens pending => ([], some pending)
  | .stray => ([replacement], none)

/-- One byte: what it puts out, and the character then under way. -/
def step : Option Pending → UInt8 → List Char × Option Pending
  | none, byte => restart byte
  | some pending, byte =>
    if pending.low ≤ byte.toNat && byte.toNat ≤ pending.high then
      let bits := pending.bits * 64 + byte.toNat % 64
      if pending.owed = 1 then ([Char.ofNat bits], none)
      else ([], some ⟨bits, pending.owed - 1, 0x80, 0xbf⟩)
    else
      let (out, next) := restart byte
      (replacement :: out, next)

/-- Decoding from a state of the machine. -/
def decodeFrom : Option Pending → List UInt8 → List Char
  | none, [] => []
  | some _, [] => [replacement]
  | state, byte :: bytes =>
    let (out, next) := step state byte
    out ++ decodeFrom next bytes

/-- The text of a byte sequence, with a replacement character for each maximal start of a character that
    is not finished. -/
def decodeLossy (bytes : List UInt8) : String :=
  String.ofList (decodeFrom none bytes)

/-- The bytes of a text. -/
def encode (s : String) : List UInt8 :=
  s.toList.flatMap String.utf8EncodeChar

end SourceRecovery.Text.Utf8
