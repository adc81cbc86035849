import Clausal.Cnf
import Clausal.Formula
import Clausal.Sbox
import Clausal.Solver
import Clausal.Statistics
import Clausal.Variables.Assigned

/-!
# Problems

A problem is a formula together with the variables that its literals are on.
Literals stay in the formula as they were given.  Only what leaves the problem,
as text, as a solver's input or for a solver to answer, has every literal
replaced by the one that stands for it.
-/

namespace Clausal

/-- A formula and its variables. -/
structure Problem where
  pool : Variables := {}
  formula : Formula := {}
  deriving Repr, Inhabited

namespace Problem

/-! ## Constraints kept as equalities -/

/-- A problem with what an operation leaves of its variables, and what the
operation tells. -/
def withOutcome {α : Type} (p : Problem) (outcome : Variables × Except Error α) :
    Problem × Except Error α :=
  ({ p with pool := outcome.1 }, outcome.2)

/-- Makes two literals equal without a clause. -/
def assertEqual (p : Problem) (x y : Int) : Problem × Except Error Unit :=
  p.withOutcome (p.pool.declareEqual x y)

/-- The pair that is to be equal where two literals differ by the given bit. -/
def xorPair (x y : Int) (bit : Bool) : Except Error (Int × Int) := do
  if bit then
    pure (x, ← Literal.negate y)
  else
    let x ← Literal.require x
    let y ← Literal.require y
    pure (x, y)

/-- The pairs that are to be equal where two vectors differ by the bits of a
constant, most significant bit first. -/
def xorPairs (xs ys : List Int) (constant : Int) : Except Error (List (Int × Int)) := do
  if xs.length ≠ ys.length then .error (.lengthMismatch xs.length ys.length)
  else
    let constant ← Bits.requireWord .constant constant
    let bits := Bits.ofInt xs.length constant
    ((xs.zip ys).zip bits).mapM fun ((x, y), bit) => xorPair x y bit

/-- States that two vectors of literals differ by the bits of a constant. -/
def assertXorWithConstant (p : Problem) (xs ys : List Int) (constant : Int) :
    Problem × Except Error Unit :=
  match xorPairs xs ys constant with
  | .error e => (p, .error e)
  | .ok pairs => p.withOutcome (p.pool.declareEqualAll pairs)

/-! ## Constraints kept as clauses -/

/-- Adds the clauses that say that `outputs` are the image of `inputs`. -/
def addImage (p : Problem) (box : Sbox) (inputs outputs : List Int) : Except Error Problem := do
  pure { p with formula := p.formula.extend (← box.image inputs outputs) }

/-! ## What leaves a problem -/

/-- The clauses with every literal replaced by the one that stands for it. -/
def resolvedClauses (p : Problem) : Except Error (List (List Int)) :=
  p.formula.clauses.mapM fun c => c.literals.mapM p.pool.resolve

/-- The line of a clause: its literals, and a zero at the end. -/
def clauseLine (lits : List Int) : Text :=
  lits.flatMap Assignment.spaced ++ Assignment.terminator

/-- The line that announces the numbers of variables and of clauses. -/
def headerLine (variableCount : Int) (clauseCount : Nat) : Text :=
  "p cnf " ++ Assignment.spaced variableCount ++ Decimal.ofNat clauseCount ++ [Text.newline]

/-- The text of some clauses, with the header if a number of variables is to be
announced. -/
def textOf (announced : Option Int) (clauses : List (List Int)) : Text :=
  let header : Text :=
    match announced with
    | some count => headerLine count clauses.length
    | none => []
  header ++ clauses.flatMap clauseLine

/-- The number of variables that a text announces if no other is asked for. -/
def announcedCount (p : Problem) (count : Option Int) : Int :=
  count.getD p.pool.size

/-- The text of a problem in DIMACS form.  The settings of the formula decide
about the header unless it is asked for or refused.  The number of variables is
written in any case, if not in the header then in the report of the text. -/
def toDimacs (p : Problem) (count : Option Int) (header : Option Bool) :
    Except Error Text := do
  let wanted := header.getD p.formula.settings.header.isTrue
  let announced := p.announcedCount count
  if wanted then Error.writing [announced]
  let clauses ← p.resolvedClauses
  Error.writing clauses.flatten
  Error.writing [announced]
  pure (textOf (if wanted then some announced else none) clauses)

/-- The input that a solver is given. -/
def toCnf (p : Problem) : Except Error Cnf := do
  let clauses ← p.resolvedClauses
  Cnf.ofClauses (max p.pool.size (Solver.largestVariable clauses)) clauses

/-- Statistics of the resolved clauses. -/
def statistics (p : Problem) : Except Error Statistics := do
  Statistics.ofCnf (← p.toCnf)

/-! ## Solving -/

/-- What a solver says about a problem. -/
structure Answer where
  problem : Problem
  model : Option (List Int)
  input : Cnf

namespace Answer

/-- Whether there is a model. -/
def isSatisfiable (a : Answer) : Bool :=
  a.model.isSome

end Answer

/-- Solves a problem; the variables take the model, if there is one.  Before that
the number of variables is reported. -/
def solve (backend : Backend) (p : Problem) : Except Error Answer := do
  let input ← p.toCnf
  Error.writing [(input.variableCount : Int)]
  match ← backend input.clauses with
  | none => pure ⟨p, none, input⟩
  | some model =>
      let pool ← p.pool.decode model
      pure ⟨{ p with pool := pool }, some model, input⟩

/-- Solves a problem and gives the answer as text. -/
def solveText (backend : Backend) (p : Problem) : Except Error Text := do
  Assignment.format (← backend (← p.resolvedClauses))

/-! ## Meaning -/

/-- Whether a valuation respects the equalities of a problem and makes its
clauses true. -/
def SatisfiedBy (p : Problem) (s : Valuation) : Prop :=
  p.pool.equalities.RespectedBy s ∧ p.formula.holds s = true

end Problem

end Clausal
