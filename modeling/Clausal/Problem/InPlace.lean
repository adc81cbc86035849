import Clausal.Problem.Command

/-!
# Commands that write to a problem

`perform` gives what a command makes of a problem as a whole.  Here the commands
that build constraints are procedures on one problem that they write to.  What
has been written stays when a procedure fails later, unless it puts back what was
there.  Only failures of the library's own make it do so.
-/

namespace Clausal

/-- A procedure that reads a problem, writes to it and may fail at any time. -/
abbrev Procedure := ExceptT Error (StateM Problem)

namespace Procedure

/-- Carries out a procedure: the problem that it leaves, and the error if it
failed. -/
def carryOut (procedure : Procedure Unit) (p : Problem) : Problem × Option Error :=
  match procedure.run.run p with
  | (.ok _, after) => (after, none)
  | (.error e, after) => (after, some e)

/-! ## Equalities -/

/-- Replaces the equalities. -/
def writeEqualities (m : Equalities) : Procedure Unit :=
  modify fun p => { p with pool := { p.pool with equalities := m } }

/-- Makes a literal lead to another one. -/
def writeEntry (lit target : Int) : Procedure Unit := do
  writeEqualities ((← get).pool.equalities.insert lit target)

/-- Makes two literals equal: one entry makes the source of their link lead to
its target, another one does so for their opposites, and then the link is
reported. -/
def declareEqual (x y : Int) : Procedure Unit := do
  match ← (← get).pool.equalities.linkFor x y with
  | none => pure ()
  | some l =>
      writeEntry l.source l.target
      writeEntry (-l.source) (-l.target)
      Error.writing [x, y, l.source, l.target]

/-- Makes the two members of every pair equal, one pair after the other. -/
def declareEach (pairs : List (Int × Int)) : Procedure Unit :=
  pairs.forM fun (x, y) => declareEqual x y

/-- Makes the two members of every pair equal.  After a failure of the library's
own the equalities that there were are put back. -/
def declareEqualAll (pairs : List (Int × Int)) : Procedure Unit := do
  let before := (← get).pool.equalities
  try
    declareEach pairs
  catch e =>
    if e.isOwn then writeEqualities before
    throw e

/-- States that two vectors of literals differ by the bits of a constant. -/
def assertXorWithConstant (xs ys : List Int) (constant : Int) : Procedure Unit := do
  declareEqualAll (← Problem.xorPairs xs ys constant)

/-! ## Clauses -/

/-- Replaces the formula once the other one has been made. -/
def changeFormula (change : Formula → Except Error Formula) : Procedure Unit := do
  let f ← change (← get).formula
  modify fun p => { p with formula := f }

end Procedure

/-- The procedure of a command that builds a constraint. -/
def Command.procedure? : Command → Option (Procedure Unit)
  | .declareEqual x y => some (.declareEqual x y)
  | .declareEqualAll pairs => some (.declareEqualAll pairs)
  | .appendClause lits => some (.changeFormula (·.appendClause lits))
  | .appendClauses clauses => some (.changeFormula (·.appendClauses clauses))
  | .assertEqual x y => some (.declareEqual x y)
  | .assertEqualClauses x y => some (.changeFormula (·.assertEqualClauses x y))
  | .assertXor3 x y z => some (.changeFormula (·.assertXor3 x y z))
  | .assignInteger lits value => some (.changeFormula (·.assignInteger lits value))
  | .assertXorWithConstant xs ys constant => some (.assertXorWithConstant xs ys constant)
  | .addImage box inputs outputs =>
      some (.changeFormula fun f => (box.image inputs outputs).map f.extend)
  | _ => none

namespace Problem

/-- Carries out a command, by its procedure if it builds a constraint: the
problem that it leaves, and the error if it failed. -/
def performInPlace (p : Problem) (c : Command) : Problem × Option Error :=
  match c.procedure? with
  | some procedure => procedure.carryOut p
  | none => p.perform c

end Problem

end Clausal
