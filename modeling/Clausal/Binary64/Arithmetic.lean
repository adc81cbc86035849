import Clausal.Binary64

/-!
# Arithmetic in binary64

A sum, a product or a quotient of two finite numbers is the exact result,
rounded to nearest.  What has no result at all, such as the difference of two
infinities, is a NaN with its sign bit set, and a NaN among the operands is the
result.
-/

namespace Clausal.Binary64

/-- Neither finite nor an infinity. -/
def isNaN (x : Binary64) : Bool :=
  !x.isFinite && !x.isInfinite

/-- A zero of either sign. -/
def isZero (x : Binary64) : Bool :=
  x.bits.toNat % signBit = 0

/-- The result of an operation that has none. -/
def invalid : Binary64 := ⟨0xFFF8000000000000⟩

/-- The zero of a sign. -/
def signedZero (negative : Bool) : Binary64 :=
  ofMagnitudeBits negative 0

/-- The number nearest to a rational, with the given sign. -/
def ofMagnitude (negative : Bool) (q : Rat) : Binary64 :=
  ofMagnitudeBits negative (magnitudeBits q.num.natAbs q.den)

/-- Sums.  Opposite numbers add up to the positive zero. -/
def add (x y : Binary64) : Binary64 :=
  if x.isNaN then x
  else if y.isNaN then y
  else
    match x.toRat?, y.toRat? with
    | some p, some q =>
        if p + q = 0 then signedZero (x.isNegative && y.isNegative) else ofRat (p + q)
    | none, some _ => x
    | some _, none => y
    | none, none => if x = y then x else invalid

/-- Products. -/
def mul (x y : Binary64) : Binary64 :=
  let negative := x.isNegative != y.isNegative
  if x.isNaN then x
  else if y.isNaN then y
  else
    match x.toRat?, y.toRat? with
    | some p, some q => ofMagnitude negative (p * q)
    | _, _ => if x.isZero || y.isZero then invalid else infinity negative

/-- Quotients.  A number over zero is an infinity. -/
def div (x y : Binary64) : Binary64 :=
  let negative := x.isNegative != y.isNegative
  if x.isNaN then x
  else if y.isNaN then y
  else
    match x.toRat?, y.toRat? with
    | some p, some q =>
        if !y.isZero then ofMagnitude negative (p / q)
        else if x.isZero then invalid
        else infinity negative
    | none, some _ => infinity negative
    | some _, none => signedZero negative
    | none, none => invalid

/-- A number that orders the numbers as integers: zeros are equal, and a NaN
comes after everything else. -/
def rank (x : Binary64) : Int :=
  let magnitude : Int := (x.bits.toNat % signBit : Nat)
  if x.isNaN then signBit
  else if x.isNegative then -magnitude
  else magnitude

/-! ## Sums of many numbers -/

/-- Adds numbers one after another. -/
def addAll (start : Binary64) (xs : List Binary64) : Binary64 :=
  xs.foldl add start

/-- Adds numbers to eight sums in turn, and gives the sums and the numbers left
over at the end. -/
def addLanes (lanes xs : List Binary64) : List Binary64 × List Binary64 :=
  if xs.length < 8 then (lanes, xs)
  else addLanes (List.zipWith add lanes (xs.take 8)) (xs.drop 8)
termination_by xs.length
decreasing_by
  rw [List.length_drop]
  omega

/-- Adds eight sums by pairs, pairs of pairs, and so on. -/
def joinLanes : List Binary64 → Binary64
  | [a, b, c, d, e, f, g, h] =>
      add (add (add a b) (add c d)) (add (add e f) (add g h))
  | xs => addAll zero xs

/-- The sum of at most a hundred and twenty-eight numbers: fewer than eight are
added one after another, and more in eight sums. -/
def blockSum (xs : List Binary64) : Binary64 :=
  if xs.length < 8 then addAll zero xs
  else
    let (lanes, rest) := addLanes (xs.take 8) (xs.drop 8)
    addAll (joinLanes lanes) rest

/-- The sum of numbers, which are halved until their sum is that of a block, so
that rounding errors do not pile up. -/
def sum (xs : List Binary64) : Binary64 :=
  if xs.length ≤ 128 then blockSum xs
  else
    let half := xs.length / 2 - xs.length / 2 % 8
    add (sum (xs.take half)) (sum (xs.drop half))
termination_by xs.length
decreasing_by
  · rw [List.length_take]
    omega
  · rw [List.length_drop]
    omega

end Clausal.Binary64
