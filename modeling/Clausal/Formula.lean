import Clausal.Clause
import Clausal.Settings
import Clausal.Bits

/-!
# Formulas

A formula is a conjunction of clauses in the order in which they were added.
Besides the clauses themselves some constraints can be added that are written
as clauses: that two literals are equal, that an even number of three literals
is true, and that a vector of literals spells a number.
-/

namespace Clausal

/-- A conjunction of clauses, and the settings that it was made with. -/
structure Formula where
  settings : Settings := {}
  clauses : List Clause := []
  deriving Repr, Inhabited

namespace Formula

/-- How many clauses a formula has. -/
def length (f : Formula) : Nat :=
  f.clauses.length

/-- A formula with more clauses at its end. -/
def extend (f : Formula) (cs : List Clause) : Formula :=
  { f with clauses := f.clauses ++ cs }

/-- Adds the clause of some literals. -/
def appendClause (f : Formula) (lits : List Int) : Except Error Formula := do
  pure (f.extend [← Clause.ofLiterals lits])

/-- Adds the clauses of some lists of literals, or none of them. -/
def appendClauses (f : Formula) (cs : List (List Int)) : Except Error Formula := do
  pure (f.extend (← cs.mapM Clause.ofLiterals))

/-- The clauses after a literal has been added to a copy of one of them: the
formula does not change, but the position and the literal are checked.  A
negative position counts from the end. -/
def editCopy (f : Formula) (i lit : Int) : Except Error (List Clause) := do
  let c ← Position.item .noSuchItem f.clauses i
  (c.append lit).map fun _ => f.clauses

/-! ## Constraints as clauses -/

/-- Adds `x` or not `y`, and not `x` or `y`. -/
def assertEqualClauses (f : Formula) (x y : Int) : Except Error Formula := do
  let first ← Clause.ofInts [x, ← Literal.negate y]
  let second ← Clause.ofInts [← Literal.negate x, y]
  pure (f.extend [first, second])

/-- Adds the four clauses that are true when an even number of the literals is
true. -/
def assertXor3 (f : Formula) (x y z : Int) : Except Error Formula := do
  let first ← Clause.ofInts [← Literal.negate x, y, z]
  let second ← Clause.ofInts [x, ← Literal.negate y, z]
  let third ← Clause.ofInts [x, y, ← Literal.negate z]
  let fourth ← Clause.ofInts [← Literal.negate x, ← Literal.negate y, ← Literal.negate z]
  pure (f.extend [first, second, third, fourth])

/-- The clause that fixes a literal to a bit. -/
def unit (lit : Int) (bit : Bool) : Except Error Clause :=
  Clause.ofLiterals [if bit then lit else -lit]

/-- Adds a unit clause for each literal, the last one first, so that they spell
the number `value` most significant bit first. -/
def assignInteger (f : Formula) (lits : List Int) (value : Int) : Except Error Formula := do
  let value ← Bits.requireWord .value value
  let bits := Bits.ofInt lits.length value
  let units ← (lits.zip bits).reverse.mapM fun (lit, bit) => unit lit bit
  pure (f.extend units)

/-! ## Meaning -/

/-- Whether a valuation makes every clause of a formula true. -/
def holds (s : Valuation) (f : Formula) : Bool :=
  f.clauses.all (Clause.holds s)

end Formula

end Clausal
