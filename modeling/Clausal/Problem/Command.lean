import Clausal.Problem

/-!
# Commands on a problem

A command is one call that may change a problem.  `perform` carries it out.  A
command that fails leaves the problem as it was, with two exceptions: a generated
name that was tried is not tried again, and what a declaration has entered before
its report fails stays entered.  `run` carries out a list of commands.
-/

namespace Clausal

/-- A call that may change a problem. -/
inductive Command
  | declareFamily (name : Text) (dimensions : Value)
  | declareGenerated (dimensions : Value)
  | declareEqual (x y : Int)
  | declareEqualAll (pairs : List (Int × Int))
  | decode (raw : List Int)
  | readSolution (text : Text)
  | appendClause (lits : List Int)
  | appendClauses (clauses : List (List Int))
  | assertEqual (x y : Int)
  | assertEqualClauses (x y : Int)
  | assertXor3 (x y z : Int)
  | assignInteger (lits : List Int) (value : Int)
  | assertXorWithConstant (xs ys : List Int) (constant : Int)
  | addImage (box : Sbox) (inputs outputs : List Int)
  | solve (backend : Backend)

namespace Problem

/-- A problem with other variables. -/
def withPool (p : Problem) (outcome : Except Error Variables) : Except Error Problem :=
  outcome.map fun a => { p with pool := a }

/-- A problem with another formula. -/
def withFormula (p : Problem) (outcome : Except Error Formula) : Except Error Problem :=
  outcome.map fun f => { p with formula := f }

/-- What an operation leaves if it succeeds. -/
def settled {σ α : Type} : σ × Except Error α → Except Error σ
  | (after, .ok _) => .ok after
  | (_, .error e) => .error e

/-- What a command makes of a problem if it succeeds. -/
def execute (p : Problem) : Command → Except Error Problem
  | .declareFamily name dimensions => p.withPool (settled (p.pool.declareFrom name dimensions))
  | .declareGenerated dimensions => p.withPool (settled (p.pool.declareGenerated dimensions))
  | .declareEqual x y => p.withPool (settled (p.pool.declareEqual x y))
  | .declareEqualAll pairs => p.withPool (settled (p.pool.declareEqualAll pairs))
  | .decode raw => p.withPool (p.pool.decode raw)
  | .readSolution text => p.withPool ((p.pool.readSolution text).map Prod.fst)
  | .appendClause lits => p.withFormula (p.formula.appendClause lits)
  | .appendClauses clauses => p.withFormula (p.formula.appendClauses clauses)
  | .assertEqual x y => settled (p.assertEqual x y)
  | .assertEqualClauses x y => p.withFormula (p.formula.assertEqualClauses x y)
  | .assertXor3 x y z => p.withFormula (p.formula.assertXor3 x y z)
  | .assignInteger lits value => p.withFormula (p.formula.assignInteger lits value)
  | .assertXorWithConstant xs ys constant => settled (p.assertXorWithConstant xs ys constant)
  | .addImage box inputs outputs => p.addImage box inputs outputs
  | .solve backend => (p.solve backend).map Answer.problem

/-- What a failed command leaves of a problem. -/
def afterFailure (p : Problem) : Command → Problem
  | .declareFamily name dimensions => { p with pool := (p.pool.declareFrom name dimensions).1 }
  | .declareGenerated dimensions => { p with pool := (p.pool.declareGenerated dimensions).1 }
  | .declareEqual x y => { p with pool := (p.pool.declareEqual x y).1 }
  | .declareEqualAll pairs => { p with pool := (p.pool.declareEqualAll pairs).1 }
  | .assertEqual x y => (p.assertEqual x y).1
  | .assertXorWithConstant xs ys constant => (p.assertXorWithConstant xs ys constant).1
  | _ => p

/-- Carries out a command: the problem after it, and the error if it failed. -/
def perform (p : Problem) (c : Command) : Problem × Option Error :=
  match p.execute c with
  | .ok after => (after, none)
  | .error e => (p.afterFailure c, some e)

/-- Carries out some commands, whether they succeed or not. -/
def run (p : Problem) (commands : List Command) : Problem :=
  commands.foldl (fun p c => (p.perform c).1) p

/-- Extending a run carries out the further commands after it. -/
theorem run_append (p : Problem) (first second : List Command) :
    p.run (first ++ second) = (p.run first).run second := by
  simp [run]

end Problem

end Clausal
