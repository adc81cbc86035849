import Clausal.Problem.Call
import Clausal.Proofs.Problem.Atomicity

/-!
# What calls tell and change

The procedure of a command does what the command is for and tells what there is
to tell, or it fails and leaves what a failure leaves.  So a call leaves the same
problem as the command, and what is known of runs of commands holds of calls.
-/

namespace Clausal

/-! ## Declarations and answers -/

namespace Variables

/-- With some family an answer as text is parsed and then taken. -/
theorem readSolution_eq {a : Variables} (families : a.families ≠ []) (text : Text) :
    a.readSolution text =
      match Assignment.parse text with
      | .error e => .error e
      | .ok none => .ok (a, false)
      | .ok (some raw) => (a.decode raw).map fun b => (b, true) := by
  rw [readSolution, if_neg (mt List.isEmpty_iff.mp families)]
  cases Assignment.parse text with
  | error e => rfl
  | ok found =>
      cases found with
      | none => rfl
      | some raw =>
          change (a.decode raw >>= fun b => pure (b, true)) = (a.decode raw).map _
          cases a.decode raw <;> rfl

end Variables

namespace Problem

/-- With its input a problem is solved by the backend once the number of variables
has been reported, and takes the model. -/
theorem solve_of_toCnf {p : Problem} {input : Cnf} (made : p.toCnf = .ok input)
    (backend : Backend) :
    p.solve backend =
      match Error.writing [(input.variableCount : Int)], backend input.clauses with
      | .error e, _ => .error e
      | .ok _, .error e => .error e
      | .ok _, .ok none => .ok ⟨p, none, input⟩
      | .ok _, .ok (some model) =>
          (p.pool.decode model).map fun a => ⟨{ p with pool := a }, some model, input⟩ := by
  rw [solve, made]
  change (Error.writing [(input.variableCount : Int)] >>= _) = _
  cases Error.writing [(input.variableCount : Int)] with
  | error e => rfl
  | ok _ =>
      change (backend input.clauses >>= _) = _
      cases backend input.clauses with
      | error e => rfl
      | ok found =>
          cases found with
          | none => rfl
          | some model =>
              change (p.pool.decode model >>= _) = (p.pool.decode model).map _
              cases p.pool.decode model <;> rfl

end Problem

/-! ## Runs of procedures -/

namespace Procedure

variable {α β : Type}

theorem run_map (f : α → β) (procedure : Procedure α) (p : Problem) :
    (f <$> procedure).run.run p =
      match procedure.run.run p with
      | (outcome, q) => (outcome.map f, q) := by
  rw [map_eq_pure_bind, run_bind]
  rcases procedure.run.run p with ⟨outcome, q⟩
  cases outcome <;> rfl

/-- Changing the variables cannot fail. -/
theorem run_changePool_bind (change : Variables → Variables) (next : Unit → Procedure β)
    (p : Problem) :
    (changePool change >>= next).run.run p =
      (next ()).run.run { p with pool := change p.pool } :=
  run_bind (changePool change) next p

/-- A family is written in three parts after it has been checked, and reported
after that. -/
theorem run_declareFamily (name : Text) (dimensions : Value) (p : Problem) :
    (declareFamily name dimensions).run.run p =
      ((p.pool.declareFrom name dimensions).2,
        { p with pool := (p.pool.declareFrom name dimensions).1 }) := by
  rw [declareFamily, run_get_bind, run_lift_bind, Variables.declareFrom]
  cases p.pool.checkFamily name dimensions with
  | error e => rfl
  | ok f =>
      dsimp only
      rw [run_changePool_bind, run_changePool_bind, run_changePool_bind, run_lift_bind]
      cases Error.writing f.reported <;> rfl

/-- The counter is written before the family is checked. -/
theorem run_declareGenerated (dimensions : Value) (p : Problem) :
    (declareGenerated dimensions).run.run p =
      ((p.pool.declareGenerated dimensions).2,
        { p with pool := (p.pool.declareGenerated dimensions).1 }) := by
  rw [declareGenerated, run_get_bind, run_changePool_bind, run_bind, run_declareFamily,
    Variables.declareGenerated]
  dsimp only
  obtain ⟨after, told | told⟩ := Variables.declareFrom _ _ dimensions
  · rfl
  · rfl

theorem run_decode (raw : List Int) (p : Problem) :
    (decode raw).run.run p =
      match p.pool.decode raw with
      | .ok a => (.ok (), { p with pool := a })
      | .error e => (.error e, p) := by
  rw [decode, run_get_bind, run_lift_bind]
  cases p.pool.decode raw <;> rfl

theorem run_readSolution (text : Text) (p : Problem) :
    (readSolution text).run.run p =
      match p.pool.readSolution text with
      | .ok (a, satisfiable) => (.ok satisfiable, { p with pool := a })
      | .error e => (.error e, p) := by
  rw [readSolution, run_get_bind]
  by_cases families : p.pool.families = []
  · rw [Variables.readSolution, if_pos (List.isEmpty_iff.mpr families),
      if_pos (List.isEmpty_iff.mpr families)]
    rfl
  · rw [if_neg (mt List.isEmpty_iff.mp families), run_lift_bind,
      Variables.readSolution_eq families]
    cases Assignment.parse text with
    | error e => rfl
    | ok found =>
        cases found with
        | none => rfl
        | some raw =>
            dsimp only
            rw [run_bind, run_decode]
            cases p.pool.decode raw <;> rfl

theorem run_solve (backend : Backend) (p : Problem) :
    (solve backend).run.run p =
      match p.solve backend with
      | .ok answer => (.ok answer.isSatisfiable, answer.problem)
      | .error e => (.error e, p) := by
  rw [solve, run_get_bind, run_lift_bind]
  cases made : p.toCnf with
  | error e =>
      rw [Problem.solve, made]
      rfl
  | ok input =>
      dsimp only
      rw [run_lift_bind, Problem.solve_of_toCnf made]
      cases Error.writing [(input.variableCount : Int)] with
      | error e => rfl
      | ok _ =>
          dsimp only
          rw [run_lift_bind]
          cases backend input.clauses with
          | error e => rfl
          | ok found =>
              cases found with
              | none => rfl
              | some model =>
                  dsimp only
                  rw [run_bind, run_decode]
                  cases p.pool.decode model <;> rfl

end Procedure

/-! ## What calls tell and change -/

namespace Problem

open Procedure

/-- What a command tells and makes of a problem if it succeeds. -/
def effect (p : Problem) : Command → Except Error (Reply × Problem)
  | .declareFamily name dimensions =>
      (p.pool.declareFrom name dimensions).2.map fun f =>
        (.family f, { p with pool := (p.pool.declareFrom name dimensions).1 })
  | .declareGenerated dimensions =>
      (p.pool.declareGenerated dimensions).2.map fun name =>
        (.name name, { p with pool := (p.pool.declareGenerated dimensions).1 })
  | .readSolution text =>
      (p.pool.readSolution text).map fun (a, satisfiable) =>
        (.verdict satisfiable, { p with pool := a })
  | .solve backend =>
      (p.solve backend).map fun answer => (.verdict answer.isSatisfiable, answer.problem)
  | c => (p.execute c).map fun after => (.done, after)

/-- What a command makes of a problem is what is left of it after the command. -/
theorem map_snd_effect (p : Problem) (c : Command) :
    (p.effect c).map Prod.snd = p.execute c := by
  have forgets : ∀ (outcome : Except Error Problem),
      (outcome.map fun after => (Reply.done, after)).map Prod.snd = outcome := by
    intro outcome
    cases outcome <;> rfl
  cases c with
  | declareFamily name dimensions =>
      change _ = p.withPool (settled (p.pool.declareFrom name dimensions))
      rw [effect]
      obtain ⟨after, told | told⟩ := p.pool.declareFrom name dimensions
      · rfl
      · rfl
  | declareGenerated dimensions =>
      change _ = p.withPool (settled (p.pool.declareGenerated dimensions))
      rw [effect]
      obtain ⟨after, told | told⟩ := p.pool.declareGenerated dimensions
      · rfl
      · rfl
  | readSolution text =>
      change _ = p.withPool ((p.pool.readSolution text).map Prod.fst)
      rw [effect]
      cases p.pool.readSolution text <;> rfl
  | solve backend =>
      change _ = (p.solve backend).map Answer.problem
      rw [effect]
      cases p.solve backend <;> rfl
  | _ => exact forgets _

/-- The procedure of a command that builds a constraint tells nothing. -/
theorem run_procedure_of_procedure? (p : Problem) {c : Command} {builder : Procedure Unit}
    (found : c.procedure? = some builder) :
    c.procedure.run.run p =
      match p.effect c with
      | .ok (told, after) => (.ok told, after)
      | .error e => (.error e, p.afterFailure c) := by
  have carries := Command.carriesOut_of_procedure? found p
  have silent : c.procedure = (fun _ => Reply.done) <$> builder ∧
      p.effect c = (p.execute c).map fun after => (.done, after) := by
    cases c <;> first | contradiction | (cases found; exact ⟨rfl, rfl⟩)
  rw [silent.1, silent.2, run_map, carries]
  cases p.execute c <;> rfl

/-- The procedure of a command tells what it is for and does it, or fails and
leaves what a failure leaves. -/
theorem run_procedure (p : Problem) (c : Command) :
    c.procedure.run.run p =
      match p.effect c with
      | .ok (told, after) => (.ok told, after)
      | .error e => (.error e, p.afterFailure c) := by
  cases found : c.procedure? with
  | some builder => exact p.run_procedure_of_procedure? found
  | none =>
      cases c with
      | declareFamily name dimensions =>
          rw [Command.procedure, run_map, run_declareFamily, effect, afterFailure]
          cases (p.pool.declareFrom name dimensions).2 <;> rfl
      | declareGenerated dimensions =>
          rw [Command.procedure, run_map, run_declareGenerated, effect, afterFailure]
          cases (p.pool.declareGenerated dimensions).2 <;> rfl
      | decode raw =>
          have opened : p.effect (.decode raw) =
              (p.withPool (p.pool.decode raw)).map fun after => (.done, after) := rfl
          rw [Command.procedure, run_map, run_decode, opened, withPool]
          cases p.pool.decode raw <;> rfl
      | readSolution text =>
          rw [Command.procedure, run_map, run_readSolution, effect]
          cases p.pool.readSolution text <;> rfl
      | solve backend =>
          rw [Command.procedure, run_map, run_solve, effect]
          cases p.solve backend <;> rfl
      | _ => contradiction

theorem call_eq (p : Problem) (c : Command) :
    p.call c =
      match p.effect c with
      | .ok (told, after) => (after, .ok told)
      | .error e => (p.afterFailure c, .error e) := by
  rw [call, run_procedure]
  cases p.effect c <;> rfl

/-- A call leaves what the command leaves. -/
theorem fst_call (p : Problem) (c : Command) : (p.call c).1 = (p.perform c).1 := by
  rw [call_eq, perform, ← map_snd_effect]
  cases p.effect c <;> rfl

end Problem

end Clausal
