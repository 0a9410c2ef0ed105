/-
Module: SourceRecovery.Number.Double
Layer: Number
Purpose: Binary floating-point numbers of 64 bits, held as their bit pattern, so that every fact about
  them is a fact about natural numbers. A ratio of natural numbers is rounded to the nearest number with a
  tie going to the even significand; integers and decimals are read through it.
Imports: none
Trusted boundary: none
Main exports: Double, Double.significand, Double.exponent, Double.ofRatio, Double.ofDecimal, Double.ofInt
Open obligations: none
-/

namespace SourceRecovery

/-- A binary floating-point number by its bit pattern: a sign, eleven bits of exponent, and 52 bits of
    fraction. -/
structure Double where
  bits : UInt64
deriving DecidableEq, Repr, Inhabited

namespace Double

/-- The sign bit is set. -/
def isNegative (x : Double) : Bool :=
  Nat.pow 2 63 ≤ x.bits.toNat

/-- The exponent field. -/
def biased (x : Double) : Nat :=
  x.bits.toNat / Nat.pow 2 52 % 2048

/-- The fraction field. -/
def fraction (x : Double) : Nat :=
  x.bits.toNat % Nat.pow 2 52

/-- No number at all. -/
def isNaN (x : Double) : Bool :=
  x.biased == 2047 && x.fraction != 0

/-- One of the two infinities. -/
def isInfinite (x : Double) : Bool :=
  x.biased == 2047 && x.fraction == 0

/-- One of the two zeros. -/
def isZero (x : Double) : Bool :=
  x.bits.toNat % Nat.pow 2 63 == 0

/-- The integer `m` such that the size of a finite number is `m * 2 ^ exponent`. -/
def significand (x : Double) : Nat :=
  if x.biased = 0 then x.fraction else Nat.pow 2 52 + x.fraction

/-- The power of two that scales the significand. -/
def exponent (x : Double) : Int :=
  if x.biased = 0 then -1074 else (x.biased : Int) - 1075

/-- Positive zero. -/
def zero : Double :=
  ⟨0⟩

/-- Positive infinity. -/
def infinity : Double :=
  ⟨0x7ff0000000000000⟩

/-- The quiet value that is no number. -/
def nan : Double :=
  ⟨0x7ff8000000000000⟩

/-- The number with the other sign. -/
def negate (x : Double) : Double :=
  ⟨x.bits ^^^ 0x8000000000000000⟩

/-- Equality of numbers: what is no number equals nothing, and the two zeros are equal. -/
def sameNumber (x y : Double) : Bool :=
  !x.isNaN && !y.isNaN && (x.bits == y.bits || (x.isZero && y.isZero))

/-- The quotient rounded to the nearest integer, a tie going to the even one. -/
def roundDiv (num den : Nat) : Nat :=
  let quotient := num / den
  let twice := 2 * (num % den)
  if twice < den then quotient
  else if den < twice then quotient + 1
  else quotient + quotient % 2

/-- The exponent of the greatest power of two that is at most `num / den`. -/
def binaryExponent (num den : Nat) : Int :=
  let guess : Int := (Nat.log2 num : Int) - (Nat.log2 den : Int)
  let reached :=
    if 0 ≤ guess then den * Nat.pow 2 guess.toNat ≤ num else den ≤ num * Nat.pow 2 (-guess).toNat
  if reached then guess else guess - 1

/-- The number of the given sign nearest to `num / den`, a tie going to the even significand. Below the
    smallest normal number the spacing stays constant, and beyond the greatest number lies infinity. -/
def ofRatio (negative : Bool) (num den : Nat) : Double :=
  let sign := if negative then Nat.pow 2 63 else 0
  if num = 0 then ⟨UInt64.ofNat sign⟩
  else
    let scale := max (binaryExponent num den - 52) (-1074)
    let m :=
      if 0 ≤ scale then roundDiv num (den * Nat.pow 2 scale.toNat)
      else roundDiv (num * Nat.pow 2 (-scale).toNat) den
    let size := (scale + 1074).toNat * Nat.pow 2 52 + m
    ⟨UInt64.ofNat (sign + min size (2047 * Nat.pow 2 52))⟩

/-- The number nearest to `digits * 10 ^ scale`. Sizes far beyond either end of the range are decided
    without computing the power of ten. -/
def ofDecimal (negative : Bool) (digits : Nat) (scale : Int) : Double :=
  let magnitude : Int := (Nat.toDigits 10 digits).length + scale
  if digits = 0 then ofRatio negative 0 1
  else if 400 < magnitude then ofRatio negative (Nat.pow 2 1100) 1
  else if magnitude < -400 then ofRatio negative 0 1
  else if 0 ≤ scale then ofRatio negative (digits * Nat.pow 10 scale.toNat) 1
  else ofRatio negative digits (Nat.pow 10 (-scale).toNat)

/-- The number nearest to an integer. -/
def ofInt (n : Int) : Double :=
  ofRatio (n < 0) n.natAbs 1

end Double

end SourceRecovery
