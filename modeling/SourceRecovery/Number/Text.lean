/-
Module: SourceRecovery.Number.Text
Layer: Number
Purpose: Numbers as text. A floating-point number is written with the fewest digits that read back,
  positionally while its first digit stands between the fourth decimal place and the sixteenth integer
  place, and with an exponent otherwise; how the exponent is written is a parameter. Beside it stand the
  readers of integers and of floating-point text, with the reason when a text is no number.
Imports: SourceRecovery.Number.Shortest, SourceRecovery.Text.Chars
Trusted boundary: none
Main exports: ExponentStyle, Double.write, IntegerFault, readUnsigned, DoubleFault, Double.read
Open obligations: none
-/
import SourceRecovery.Number.Shortest
import SourceRecovery.Text.Chars

namespace SourceRecovery

/-- How an exponent is written: with or without a plus sign, and with how many digits at least. -/
structure ExponentStyle where
  plus : Bool
  width : Nat
deriving DecidableEq, Repr

/-- Exponents of source literals: always signed, two digits at least. -/
def ExponentStyle.literal : ExponentStyle :=
  ⟨true, 2⟩

/-- Exponents in diagnostics: as short as possible. -/
def ExponentStyle.diagnostic : ExponentStyle :=
  ⟨false, 1⟩

namespace Decimal

/-- The decimal with a point and at least one digit on either side of it. -/
def positional (d : Decimal) : List Char :=
  let digits := d.digitChars
  let point := d.leading + 1
  if point ≤ 0 then '0' :: '.' :: (List.replicate (-point).toNat '0' ++ digits)
  else if (digits.length : Int) ≤ point then
    digits ++ List.replicate (point.toNat - digits.length) '0' ++ ['.', '0']
  else digits.take point.toNat ++ '.' :: digits.drop point.toNat

/-- The exponent with its sign. -/
def exponentText (style : ExponentStyle) (exponent : Int) : List Char :=
  let digits := Nat.toDigits 10 exponent.natAbs
  let sign := if exponent < 0 then ['-'] else if style.plus then ['+'] else []
  sign ++ List.replicate (style.width - digits.length) '0' ++ digits

/-- The decimal with one digit before the point and an exponent. -/
def scientific (style : ExponentStyle) (d : Decimal) : List Char :=
  let mantissa :=
    match d.digitChars with
    | [] => []
    | [only] => [only]
    | first :: rest => first :: '.' :: rest
  mantissa ++ 'e' :: exponentText style d.leading

/-- Positional notation for middling sizes, an exponent for the others. -/
def write (style : ExponentStyle) (d : Decimal) : List Char :=
  if -4 ≤ d.leading && d.leading < 16 then d.positional else d.scientific style

end Decimal

namespace Double

/-- The size of a finite number, without its sign. -/
def writeSize (style : ExponentStyle) (x : Double) : List Char :=
  if x.isZero then ['0', '.', '0'] else x.shortest.write style

/-- A finite number with its sign; zero keeps its sign. -/
def writeFinite (style : ExponentStyle) (x : Double) : List Char :=
  if x.isNegative then '-' :: x.writeSize style else x.writeSize style

end Double

/-- Why a text is no integer of the wanted size. -/
inductive IntegerFault where
  | empty
  | badDigit
  | tooLarge
deriving DecidableEq, Repr

/-- The wording of an integer fault. -/
def IntegerFault.message : IntegerFault → String
  | .empty => "cannot parse integer from empty string"
  | .badDigit => "invalid digit found in string"
  | .tooLarge => "number too large to fit in target type"

/-- The value of a digit in a base of at most sixteen. -/
def digitValue? (base : Nat) (c : Char) : Option Nat :=
  let code := c.toNat
  let value :=
    if 48 ≤ code && code ≤ 57 then code - 48
    else if 97 ≤ code && code ≤ 122 then code - 87
    else if 65 ≤ code && code ≤ 90 then code - 55
    else base
  if value < base then some value else none

/-- The value of a row of digits after `acc`. -/
def digitsValue? (base : Nat) : (acc : Nat) → List Char → Option Nat
  | acc, [] => some acc
  | acc, c :: cs =>
    match digitValue? base c with
    | some value => digitsValue? base (acc * base + value) cs
    | none => none

/-- A non-empty row of digits whose value is below `bound`. -/
def readDigits (base bound : Nat) (cs : List Char) : Except IntegerFault Nat :=
  if cs.isEmpty then .error .empty
  else
    match digitsValue? base 0 cs with
    | none => .error .badDigit
    | some n => if n < bound then .ok n else .error .tooLarge

/-- A row of digits that may follow one plus sign; a sign alone is a bad digit. -/
def readUnsigned (base bound : Nat) (cs : List Char) : Except IntegerFault Nat :=
  match cs with
  | ['+'] => .error .badDigit
  | '+' :: digits => readDigits base bound digits
  | _ => readDigits base bound cs

/-- Why a text is no floating-point number. -/
inductive DoubleFault where
  | empty
  | malformed
deriving DecidableEq, Repr

/-- The wording of a floating-point fault. -/
def DoubleFault.message : DoubleFault → String
  | .empty => "cannot parse float from empty string"
  | .malformed => "invalid float literal"

namespace Decimal

/-- The exponent after its mark: an optional sign and at least one digit, up to the end. -/
def readExponent? (cs : List Char) : Option Int :=
  let (negative, digits) :=
    match cs with
    | '-' :: rest => (true, rest)
    | '+' :: rest => (false, rest)
    | _ => (false, cs)
  if digits.isEmpty then none
  else (digitsValue? 10 0 digits).map fun n => if negative then -(n : Int) else (n : Int)

/-- An unsigned decimal: digits with at most one point among or around them, then an optional exponent. -/
def read? (cs : List Char) : Option Decimal :=
  let whole := cs.takeWhile Text.isAsciiDigit
  let afterWhole := cs.dropWhile Text.isAsciiDigit
  let (places, rest) :=
    match afterWhole with
    | '.' :: tail => (tail.takeWhile Text.isAsciiDigit, tail.dropWhile Text.isAsciiDigit)
    | _ => ([], afterWhole)
  if whole.isEmpty && places.isEmpty then none
  else
    let digits := Nat.ofDigitChars 10 (whole ++ places) 0
    let scale := -(places.length : Int)
    match rest with
    | [] => some ⟨digits, scale⟩
    | mark :: tail =>
      if mark == 'e' || mark == 'E' then
        (readExponent? tail).map fun e => ⟨digits, scale + e⟩
      else none

end Decimal

namespace Double

/-- The named values, in any case. -/
def readNamed? (negative : Bool) (cs : List Char) : Option Double :=
  let name := String.ofList (Text.Chars.asciiLower cs)
  if name == "inf" || name == "infinity" then
    some (if negative then infinity.negate else infinity)
  else if name == "nan" then some (if negative then nan.negate else nan)
  else none

/-- Floating-point text: an optional sign, then a decimal or a named value. -/
def read (cs : List Char) : Except DoubleFault Double :=
  if cs.isEmpty then .error .empty
  else
    let (negative, body) :=
      match cs with
      | '-' :: rest => (true, rest)
      | '+' :: rest => (false, rest)
      | _ => (false, cs)
    match Decimal.read? body with
    | some d => .ok (ofDecimal negative d.digits d.scale)
    | none =>
      match readNamed? negative body with
      | some x => .ok x
      | none => .error .malformed

end Double

end SourceRecovery
