import Clausal.Error

/-!
# Literals

A variable has a positive code.  A literal is the code of a variable, or the
opposite of it for the negation.  Zero is no literal: it ends a clause where
clauses are written one after another, and it could not be negated.
-/

namespace Clausal

/-- A truth value for every variable. -/
abbrev Valuation := Nat → Bool

namespace Literal

/-- Passes a literal on and refuses zero. -/
def require (lit : Int) : Except Error Int :=
  if lit = 0 then .error .zeroLiteral else .ok lit

/-- The opposite literal. -/
def negate (lit : Int) : Except Error Int :=
  (require lit).map fun l => -l

/-- Whether a literal is true under a valuation. -/
def holds (s : Valuation) (lit : Int) : Bool :=
  if 0 < lit then s lit.natAbs else !s lit.natAbs

@[simp]
theorem require_eq_ok_iff {lit l : Int} : require lit = .ok l ↔ lit ≠ 0 ∧ lit = l := by
  by_cases hzero : lit = 0 <;> simp [require, hzero]

@[simp]
theorem require_of_ne_zero {lit : Int} (hne : lit ≠ 0) : require lit = .ok lit := by
  simp [require, hne]

@[simp]
theorem require_zero : require 0 = .error .zeroLiteral :=
  rfl

/-- A literal and its opposite never agree. -/
theorem holds_neg (s : Valuation) {lit : Int} (hne : lit ≠ 0) :
    holds s (-lit) = !holds s lit := by
  rcases Int.lt_trichotomy lit 0 with hlt | heq | hgt
  · have hnot : ¬ 0 < lit := by omega
    simp [holds, hlt, hnot]
  · exact absurd heq hne
  · simp [holds, hgt, Int.le_of_lt hgt]

end Literal

end Clausal
