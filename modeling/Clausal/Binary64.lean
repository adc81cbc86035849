/-!
# Numbers in binary64

A number of the IEEE 754 format binary64 is kept as its sixty-four bits.
Numbers come in by rounding an exact quotient to the nearest member of the
format, a tie going to the one with an even significand, and go out as the
exact rational that the bits stand for.
-/

namespace Clausal

/-- A binary64 number, as its bits: sign, eleven of exponent, fifty-two of
fraction. -/
structure Binary64 where
  bits : UInt64
  deriving DecidableEq, Repr

namespace Binary64

/-! ## Reading the bits -/

/-- The weight of the sign bit, `2 ^ 63`. -/
def signBit : Nat := 0x8000000000000000

/-- How many fractions there are, `2 ^ 52`. -/
def fractionSpan : Nat := 0x10000000000000

/-- Whether the sign bit is set. -/
def isNegative (x : Binary64) : Bool :=
  signBit ≤ x.bits.toNat

/-- The biased exponent. -/
def exponentField (x : Binary64) : Nat :=
  x.bits.toNat / fractionSpan % 2048

/-- The fraction field. -/
def fractionField (x : Binary64) : Nat :=
  x.bits.toNat % fractionSpan

/-- Neither an infinity nor a NaN. -/
def isFinite (x : Binary64) : Bool :=
  x.exponentField < 2047

/-- An infinity. -/
def isInfinite (x : Binary64) : Bool :=
  x.exponentField = 2047 && x.fractionField = 0

/-- The significand of a finite number, a multiple of the unit in its last
place. -/
def significand (x : Binary64) : Nat :=
  if x.exponentField = 0 then x.fractionField else x.fractionField + fractionSpan

/-- The exponent of the unit in the last place. -/
def unitExponent (x : Binary64) : Int :=
  (max x.exponentField 1 : Nat) - 1075

/-- The exact value of a finite number. -/
def toRat? (x : Binary64) : Option Rat :=
  if x.isFinite then
    let e := x.unitExponent
    let magnitude : Rat :=
      if 0 ≤ e then (x.significand <<< e.toNat : Nat)
      else mkRat x.significand (1 <<< (-e).toNat)
    some (if x.isNegative then -magnitude else magnitude)
  else none

/-! ## Rounding to nearest -/

/-- A quotient of natural numbers to the nearest integer, a half to the even
one. -/
def roundDiv (num den : Nat) : Nat :=
  let q := num / den
  let r := num % den
  if 2 * r < den then q
  else if den < 2 * r then q + 1
  else if q % 2 = 0 then q else q + 1

/-- The bits of positive infinity. -/
def infinityBits : Nat := 2047 * fractionSpan

/-- The exponent of the greatest power of two that is at most `num / den`, for
positive numbers. -/
def leadingExponent (num den : Nat) : Int :=
  let guess : Int := (num.log2 : Int) - den.log2
  if num <<< (-guess).toNat < den <<< guess.toNat then guess - 1 else guess

/-- The bits of the magnitude nearest to `num / den`.  The unit in the last
place is `2 ^ e`; a significand that rounds up to `2 ^ 53` carries into the
exponent by itself, and what exceeds the format becomes infinity. -/
def magnitudeBits (num den : Nat) : Nat :=
  if num = 0 then 0
  else
    let e := max (leadingExponent num den - 52) (-1074)
    let q := roundDiv (num <<< (-e).toNat) (den <<< e.toNat)
    min ((e + 1074).toNat * fractionSpan + q) infinityBits

/-- The number of a sign and the bits of a magnitude. -/
def ofMagnitudeBits (negative : Bool) (magnitude : Nat) : Binary64 :=
  ⟨(magnitude + if negative then signBit else 0).toUInt64⟩

/-- The number nearest to `num / den`.  A zero numerator counts as positive, so
that zero over a negative number is the negative zero. -/
def quotient (num den : Rat) : Binary64 :=
  let ratio := num / den
  ofMagnitudeBits ((num < 0) != (den < 0)) (magnitudeBits ratio.num.natAbs ratio.den)

/-- The number nearest to a rational. -/
def ofRat (q : Rat) : Binary64 :=
  quotient q 1

/-- The number nearest to an integer, unless that is an infinity. -/
def ofInt? (n : Int) : Option Binary64 :=
  let x := ofRat n
  if x.isFinite then some x else none

/-- The number nearest to `digits * 10 ^ exponent`.  Far outside the range of
the format the answer is known without the power. -/
def ofDecimal (negative : Bool) (digits : Nat) (exponent : Int) : Binary64 :=
  let length : Int := (Nat.toDigits 10 digits).length
  let magnitude :=
    if digits = 0 || length + exponent < -400 then 0
    else if 400 < length + exponent then infinityBits
    else if 0 ≤ exponent then magnitudeBits (digits * Nat.pow 10 exponent.toNat) 1
    else magnitudeBits digits (Nat.pow 10 (-exponent).toNat)
  ofMagnitudeBits negative magnitude

/-- Zero. -/
def zero : Binary64 := ⟨0⟩

/-- An infinity. -/
def infinity (negative : Bool) : Binary64 :=
  ofMagnitudeBits negative infinityBits

/-- The quiet NaN with an empty payload. -/
def nan : Binary64 := ⟨0x7FF8000000000000⟩

end Binary64

end Clausal
