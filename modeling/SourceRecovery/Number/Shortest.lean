/-
Module: SourceRecovery.Number.Shortest
Layer: Number
Purpose: The shortest decimal that reads back as a given number. The reals that round to the number form an
  interval around it. For one digit, two digits and so on the two neighbours of the number on that decimal
  grid are tested against the interval in exact arithmetic; the first grid with a hit gives the digits.
Imports: SourceRecovery.Number.Double
Trusted boundary: none
Main exports: Decimal, Double.shortest
Open obligations: none
-/
import SourceRecovery.Number.Double

namespace SourceRecovery

/-- The number `digits * 10 ^ scale`. -/
structure Decimal where
  digits : Nat
  scale : Int
deriving DecidableEq, Repr

namespace Decimal

/-- The decimal digits of a decimal, first digit first. -/
def digitChars (d : Decimal) : List Char :=
  Nat.toDigits 10 d.digits

/-- The exponent of the first digit. -/
def leading (d : Decimal) : Int :=
  d.scale + d.digitChars.length - 1

/-- Zeros at the end move into the scale; `fuel` bounds their number. -/
def stripZeros : (fuel : Nat) → Decimal → Decimal
  | 0, d => d
  | fuel + 1, d =>
    if d.digits ≠ 0 ∧ d.digits % 10 = 0 then stripZeros fuel ⟨d.digits / 10, d.scale + 1⟩ else d

end Decimal

/-- A positive number `value / den` together with the interval of what rounds to it. -/
structure RoundingInterval where
  value : Nat
  low : Nat
  high : Nat
  den : Nat
  closed : Bool
deriving Repr

namespace RoundingInterval

/-- The least `k` with `value / den < 10 ^ k`. -/
def decimalExponent (r : RoundingInterval) : Int :=
  if r.den ≤ r.value then (Nat.toDigits 10 (r.value / r.den)).length
  else 1 - (Nat.toDigits 10 ((r.den - 1) / r.value)).length

/-- `low ≤ c ≤ high`, with the ends counted only when the interval is closed. -/
def holds (closed : Bool) (low c high : Nat) : Bool :=
  if closed then low ≤ c && c ≤ high else low < c && c < high

/-- The neighbour of the value on the grid of the multiples of `10 ^ scale` that lies in the interval; of
    two neighbours the nearer one, and the upper one when both are equally near. -/
def onGrid? (r : RoundingInterval) (scale : Int) : Option Decimal :=
  let up := Nat.pow 10 (-scale).toNat
  let unit := r.den * Nat.pow 10 scale.toNat
  let below := r.value * up / unit
  let rest := r.value * up % unit
  let downOk := holds r.closed (r.low * up) (below * unit) (r.high * up)
  let upOk := holds r.closed (r.low * up) ((below + 1) * unit) (r.high * up)
  if upOk && (!downOk || unit ≤ 2 * rest) then some ⟨below + 1, scale⟩
  else if downOk then some ⟨below, scale⟩
  else none

/-- The decimal with the fewest digits in the interval; seventeen digits always suffice. -/
def shortest (r : RoundingInterval) : Decimal :=
  let top := r.decimalExponent
  let found := (List.range 17).findSome? fun n => r.onGrid? (top - (n + 1 : Nat))
  match found with
  | some d => d.stripZeros 20
  | none => ⟨0, 0⟩

end RoundingInterval

namespace Double

/-- The interval of a positive finite number. The gap below a power of two is half as wide as the gap
    above, and the ends belong to the number with the even significand. -/
def roundingInterval (x : Double) : RoundingInterval :=
  let m := x.significand
  let power := x.exponent - 2
  let up := Nat.pow 2 power.toNat
  let narrow := x.fraction = 0 && 1 < x.biased
  { value := 4 * m * up
    low := (if narrow then 4 * m - 1 else 4 * m - 2) * up
    high := (4 * m + 2) * up
    den := Nat.pow 2 (-power).toNat
    closed := m % 2 = 0 }

/-- The shortest decimal that reads back as the size of a finite number. -/
def shortest (x : Double) : Decimal :=
  if x.significand = 0 then ⟨0, 0⟩ else x.roundingInterval.shortest

end Double

end SourceRecovery
