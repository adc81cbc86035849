import Clausal.Binary64.Arithmetic
import Clausal.Error

/-!
# The Gini coefficient

The Gini coefficient of some numbers says how unevenly their sum is spread over
them.  With the numbers in ascending order as `x 1` to `x n` it is the sum of
`(2 * i - n - 1) * x i` over `n` times the sum of the numbers, and zero where
the numbers add up to zero.  One procedure, `evaluate`, calculates it in any
arithmetic: `coefficient` is what it gives without rounding, and `ofAmounts`
calculates in binary64.
-/

namespace Clausal.Gini

/-- What a coefficient is calculated with. -/
structure Arithmetic (α : Type) where
  ofInt : Int → α
  mul : α → α → α
  div : α → α → α
  sum : List α → α
  atMost : α → α → Bool

/-- The coefficient of numbers that do not add up to zero. -/
def evaluate {α : Type} (arithmetic : Arithmetic α) (xs : List α) : α :=
  let n : Int := xs.length
  let ascending := xs.mergeSort arithmetic.atMost
  let weighted := (ascending.zipIdx 1).map fun (x, i) =>
    arithmetic.mul (arithmetic.ofInt (2 * (i : Int) - n - 1)) x
  arithmetic.div (arithmetic.sum weighted)
    (arithmetic.mul (arithmetic.ofInt n) (arithmetic.sum ascending))

/-! ## Without rounding -/

/-- The sum of some numbers. -/
def total (xs : List Rat) : Rat :=
  xs.foldr (· + ·) 0

/-- Calculating without rounding. -/
def exact : Arithmetic Rat where
  ofInt n := n
  mul x y := x * y
  div x y := x / y
  sum := total
  atMost x y := x ≤ y

/-- The Gini coefficient. -/
def coefficient (xs : List Rat) : Rat :=
  if total xs = 0 then 0 else evaluate exact xs

/-! ## In binary64 -/

/-- A number as it is given: an integer, which is exact, or one of binary64. -/
inductive Amount
  | whole (n : Int)
  | real (x : Binary64)
  deriving DecidableEq, Repr

namespace Amount

/-- The number that a value is; a truth value counts as one or zero. -/
def ofValue : Value → Amount
  | .int n => .whole n
  | .bool b => .whole (if b then 1 else 0)
  | .real x => .real x
  | _ => .whole 0

/-- The number in binary64. -/
def toReal : Amount → Except Error Binary64
  | .real x => .ok x
  | .whole n =>
      match Binary64.ofInt? n with
      | some x => .ok x
      | none => .error .beyondBinary64

/-- The sum of two numbers, exact if both are integers. -/
def add : Amount → Amount → Except Error Amount
  | .whole m, .whole n => .ok (.whole (m + n))
  | a, b => do pure (.real (Binary64.add (← a.toReal) (← b.toReal)))

/-- A zero of any kind. -/
def isZero : Amount → Bool
  | .whole n => n = 0
  | .real x => x.isZero

end Amount

/-- Calculating in binary64. -/
def binary64 : Arithmetic Binary64 where
  ofInt n := Binary64.ofRat n
  mul := Binary64.mul
  div := Binary64.div
  sum := Binary64.sum
  atMost x y := x.rank ≤ y.rank

/-- The coefficient of numbers in binary64. -/
def rounded (xs : List Binary64) : Binary64 :=
  evaluate binary64 xs

/-- The coefficient of numbers as they are given.  Integers that add up to zero
may be of any size; otherwise each must lie within binary64. -/
def ofAmounts (amounts : List Amount) : Except Error Binary64 := do
  let total ← amounts.foldlM Amount.add (.whole 0)
  if total.isZero then pure Binary64.zero
  else pure (rounded (← amounts.mapM Amount.toReal))

end Clausal.Gini
