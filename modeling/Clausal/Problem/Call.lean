import Clausal.Problem.InPlace

/-!
# Calls and their answers

A call carries out a command and tells something: the family that it has
declared, the name that it has made up, or whether there is an assignment.  Here
every command is a procedure.  What is wrong with a family is found out before
any part of it is written, but whether it can be reported only after that.
Values are written once all of them are known.  A made-up name is used up before
the family under it is looked at.
-/

namespace Clausal

/-- What a call tells when it succeeds. -/
inductive Reply
  /-- Nothing else than that it has succeeded. -/
  | done
  /-- The family that has been declared. -/
  | family (f : Family)
  /-- The name of the family that has been declared. -/
  | name (t : Text)
  /-- Whether there is an assignment. -/
  | verdict (satisfiable : Bool)
  deriving DecidableEq, Repr

namespace Procedure

/-! ## Families -/

/-- Changes the variables. -/
def changePool (change : Variables → Variables) : Procedure Unit :=
  modify fun p => { p with pool := change p.pool }

/-- Declares a family: enters it, counts its variables, drops the values that are
held, and reports the family. -/
def declareFamily (name : Text) (dimensions : Value) : Procedure Family := do
  let f ← (← get).pool.checkFamily name dimensions
  changePool fun a => { a with families := a.families ++ [f] }
  changePool fun a => { a with size := a.size + f.size }
  changePool fun a => { a with values := none }
  Error.writing f.reported
  pure f

/-- Declares a family under a made-up name.  The counter of these names is moved
on first. -/
def declareGenerated (dimensions : Value) : Procedure Text := do
  let n := (← get).pool.nextGenerated
  changePool fun a => { a with generated := n }
  let _ ← declareFamily (Variables.generatedName n) dimensions
  pure (Variables.generatedName n)

/-! ## Answers of solvers -/

/-- Takes the answer of a solver. -/
def decode (raw : List Int) : Procedure Unit := do
  let after ← (← get).pool.decode raw
  changePool fun _ => after

/-- Takes the answer of a solver as text, and tells whether it held an
assignment. -/
def readSolution (text : Text) : Procedure Bool := do
  if (← get).pool.families.isEmpty then throw .noFamilies
  else
    match ← Assignment.parse text with
    | none => pure false
    | some raw =>
        decode raw
        pure true

/-- Solves the problem, and tells whether there is a model. -/
def solve (backend : Backend) : Procedure Bool := do
  let input ← (← get).toCnf
  Error.writing [(input.variableCount : Int)]
  match ← backend input.clauses with
  | none => pure false
  | some model =>
      decode model
      pure true

end Procedure

/-- The procedure of a command. -/
def Command.procedure : Command → Procedure Reply
  | .declareFamily name dimensions => .family <$> .declareFamily name dimensions
  | .declareGenerated dimensions => .name <$> .declareGenerated dimensions
  | .decode raw => (fun _ => .done) <$> Procedure.decode raw
  | .readSolution text => .verdict <$> .readSolution text
  | .solve backend => .verdict <$> .solve backend
  | c => (fun _ => .done) <$> c.procedure?.getD (pure ())

namespace Problem

/-- Carries out a command by its procedure: the problem that it leaves, and what
it tells. -/
def call (p : Problem) (c : Command) : Problem × Except Error Reply :=
  match c.procedure.run.run p with
  | (told, after) => (after, told)

/-- What some calls tell, one after the other. -/
def replies (p : Problem) : List Command → List (Except Error Reply)
  | [] => []
  | c :: rest =>
      match p.call c with
      | (after, told) => told :: after.replies rest

end Problem

end Clausal
