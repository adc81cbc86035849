import Clausal.Literal
import Clausal.Position

/-!
# Clauses

A clause is a disjunction of literals in the order in which they were given.
A literal may occur twice and so may its opposite; zero may not.

A clause is made from a list of literals, which fails at a zero, or checked
from unchecked data, which reports every element that is no literal.
-/

namespace Clausal

/-- A disjunction of literals. -/
structure Clause where
  literals : List Int := []
  nonzero : ∀ lit ∈ literals, lit ≠ 0 := by simp
  deriving DecidableEq, Repr

namespace Clause

/-! ## Making clauses -/

/-- The clause of some literals, unless one is zero. -/
def ofLiterals (lits : List Int) : Except Error Clause :=
  if h : ∀ lit ∈ lits, lit ≠ 0 then .ok ⟨lits, h⟩ else .error .zeroLiteral

/-- Checks a clause. -/
def check (v : Value) : Checked Clause := do
  let lits ← Record.list Record.nonzero v
  pure ⟨lits.map Subtype.val, by
    intro lit literalMem
    rcases List.mem_map.mp literalMem with ⟨checked, _, rfl⟩
    exact checked.property⟩

/-- Checks a clause whose elements are integers. -/
def ofInts (lits : List Int) : Except Error Clause :=
  (check (.ofInts lits)).mapError .flawed

/-- The clause that a value with members gives.  A member equal to zero is
refused before anything else is looked at. -/
def ofMembers (v : Value) : Except Error Clause :=
  match v.members? with
  | none => .error (.noMembers v.kindWord)
  | some members =>
      if members.any fun m => m.isInt 0 then .error .zeroLiteral
      else (check (.list members)).mapError .flawed

/-- A clause with one more literal at its end. -/
def append (c : Clause) (lit : Int) : Except Error Clause :=
  if h : lit ≠ 0 then
    .ok ⟨c.literals ++ [lit], by
      intro l literalMem
      rcases List.mem_append.mp literalMem with old | new
      · exact c.nonzero l old
      · rw [List.mem_singleton.mp new]
        exact h⟩
  else .error .zeroLiteral

/-! ## Looking at clauses -/

/-- How many literals a clause has. -/
def length (c : Clause) : Nat :=
  c.literals.length

/-- The position of the first literal on the variable of `code`. -/
def indexOf? (c : Clause) (code : Int) : Option Nat :=
  c.literals.findIdx? fun lit => lit.natAbs = code.natAbs

/-- The literal at a position; negative positions count from the end. -/
def get (c : Clause) (i : Int) : Except Error Int :=
  Position.item .noSuchItem c.literals i

/-- Whether a value is the list of the literals of a clause. -/
def equalsValue (c : Clause) : Value → Bool
  | .list items =>
      items.length = c.length && (items.zip c.literals).all fun (v, lit) => v.isInt lit
  | _ => false

/-- A clause as it is shown. -/
def render (c : Clause) : Except Error String := do
  Error.writing c.literals
  let shown := ", ".intercalate (c.literals.map toString)
  pure s!"Clause([{shown}])"

/-! ## Meaning -/

/-- Whether a valuation makes some literal of a clause true. -/
def holds (s : Valuation) (c : Clause) : Bool :=
  c.literals.any (Literal.holds s)

@[simp]
theorem ofLiterals_eq_ok_iff {lits : List Int} {c : Clause} :
    ofLiterals lits = .ok c ↔ c.literals = lits := by
  unfold ofLiterals
  split
  · constructor
    · rintro ⟨⟩
      rfl
    · rintro rfl
      rfl
  · rename_i hzero
    constructor
    · intro hok
      exact absurd hok (by simp)
    · rintro rfl
      exact absurd c.nonzero hzero

end Clause

end Clausal
