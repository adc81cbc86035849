import Clausal.Problem.InPlace
import Clausal.Proofs.Problem.Representatives

/-!
# Procedures and what they leave

A procedure carries out a command when it ends with what the command makes of a
problem, or fails for the same reason and leaves what the failed command leaves.
The procedures that add clauses write once, after everything has been made.
Where several pairs are linked one after the other, a failure leaves the links of
the pairs before, and these are taken back if the library itself refuses a pair.
They are not if the report of a link cannot be written.
-/

namespace Clausal

namespace Procedure

variable {α β : Type} {p : Problem}

/-! ## Runs -/

theorem run_bind (first : Procedure α) (next : α → Procedure β) (p : Problem) :
    (first >>= next).run.run p =
      match first.run.run p with
      | (.ok a, q) => (next a).run.run q
      | (.error e, q) => (.error e, q) := by
  rw [ExceptT.run_bind, StateT.run_bind]
  rcases first.run.run p with ⟨outcome, q⟩
  cases outcome <;> rfl

/-- What handles a failure begins with what the failure has left. -/
theorem run_tryCatch (first : Procedure α) (handle : Error → Procedure α) (p : Problem) :
    (tryCatch first handle).run.run p =
      match first.run.run p with
      | (.ok a, q) => (.ok a, q)
      | (.error e, q) => (handle e).run.run q := by
  rw [ExceptT.run_tryCatch, StateT.run_bind]
  rcases first.run.run p with ⟨outcome, q⟩
  cases outcome <;> rfl

/-- Using what has been made already writes nothing. -/
theorem run_lift_bind (made : Except Error α) (next : α → Procedure β) (p : Problem) :
    ((liftM made : Procedure α) >>= next).run.run p =
      match made with
      | .ok a => (next a).run.run p
      | .error e => (.error e, p) := by
  rw [run_bind]
  cases made <;> rfl

/-- Reading the problem writes nothing. -/
theorem run_get_bind (next : Problem → Procedure β) (p : Problem) :
    ((get : Procedure Problem) >>= next).run.run p = (next p).run.run p :=
  run_bind get next p

/-! ## Procedures of commands -/

/-- A procedure does to every problem what a command does. -/
def CarriesOut (procedure : Procedure Unit) (c : Command) : Prop :=
  ∀ p, procedure.run.run p =
    match p.execute c with
    | .ok after => (.ok (), after)
    | .error e => (.error e, p.afterFailure c)

variable {procedure : Procedure Unit} {c : Command}

theorem CarriesOut.carryOut_eq (carries : procedure.CarriesOut c) (p : Problem) :
    procedure.carryOut p = p.perform c := by
  rw [carryOut, carries p, Problem.perform]
  cases p.execute c <;> rfl

/-- The formula is replaced when the other one has been made. -/
theorem carriesOut_changeFormula {change : Formula → Except Error Formula}
    (executes : ∀ p : Problem, p.execute c = p.withFormula (change p.formula))
    (leaves : ∀ p : Problem, p.afterFailure c = p) : (changeFormula change).CarriesOut c := by
  intro p
  rw [changeFormula, run_get_bind, run_lift_bind, executes, leaves, Problem.withFormula]
  cases change p.formula <;> rfl

/-- What changes the variables and reports it carries out the command for it. -/
theorem carriesOut_of_settled (operation : Variables → Variables × Except Error Unit)
    (runs : ∀ p : Problem,
      procedure.run.run p = ((operation p.pool).2, { p with pool := (operation p.pool).1 }))
    (executes : ∀ p : Problem, p.execute c = p.withPool (Problem.settled (operation p.pool)))
    (leaves : ∀ p : Problem, p.afterFailure c = { p with pool := (operation p.pool).1 }) :
    procedure.CarriesOut c := by
  intro p
  rw [runs, executes, leaves]
  obtain ⟨after, told | told⟩ := operation p.pool
  · rfl
  · rfl

/-! ## Equalities -/

/-- Two entries written one after the other make the link of two literals, and a
report that fails does not change them. -/
theorem run_declareEqual (x y : Int) (p : Problem) :
    (declareEqual x y).run.run p =
      ((p.pool.equalities.enter x y).2, p.withEqualities (p.pool.equalities.enter x y).1) := by
  rw [declareEqual, run_get_bind, run_lift_bind, Equalities.enter]
  cases p.pool.equalities.linkFor x y with
  | error e => rfl
  | ok found =>
      cases found with
      | none => rfl
      | some l =>
          dsimp only
          cases Error.writing [x, y, l.source, l.target] <;> rfl

/-- Linking pairs one after the other leaves what has been linked. -/
theorem run_declareEach (pairs : List (Int × Int)) (p : Problem) :
    (declareEach pairs).run.run p =
      ((p.pool.equalities.enterAll pairs).2,
        p.withEqualities (p.pool.equalities.enterAll pairs).1) := by
  induction pairs generalizing p with
  | nil => rfl
  | cons e rest ih =>
      obtain ⟨x, y⟩ := e
      have opened : (declareEach ((x, y) :: rest)).run.run p =
          (declareEqual x y >>= fun _ => declareEach rest).run.run p := rfl
      rw [opened, run_bind, run_declareEqual, Equalities.enterAll]
      obtain ⟨middle, told | told⟩ := p.pool.equalities.enter x y
      · rfl
      · exact ih (p.withEqualities middle)

/-- A refusal among several pairs is taken back, and a report that fails is not. -/
theorem run_declareEqualAll (pairs : List (Int × Int)) (p : Problem) :
    (declareEqualAll pairs).run.run p =
      ((p.pool.declareEqualAll pairs).2, { p with pool := (p.pool.declareEqualAll pairs).1 }) := by
  rw [declareEqualAll, run_get_bind, run_tryCatch, run_declareEach, Variables.declareEqualAll]
  obtain ⟨m, told | told⟩ := p.pool.equalities.enterAll pairs
  · dsimp only
    cases told.isOwn <;> rfl
  · rfl

example : ((declareEqualAll [(1, 2), (3, -3)]).carryOut (.fresh {})).1.pool.equalities = {} := by
  decide +kernel

theorem carriesOut_declareEqualAll (pairs : List (Int × Int)) :
    (declareEqualAll pairs).CarriesOut (.declareEqualAll pairs) :=
  carriesOut_of_settled (·.declareEqualAll pairs) (run_declareEqualAll pairs) (fun _ => rfl)
    fun _ => rfl

theorem carriesOut_declareEqual (x y : Int) : (declareEqual x y).CarriesOut (.declareEqual x y) :=
  carriesOut_of_settled (·.declareEqual x y) (run_declareEqual x y) (fun _ => rfl) fun _ => rfl

theorem carriesOut_assertEqual (x y : Int) : (declareEqual x y).CarriesOut (.assertEqual x y) :=
  carriesOut_of_settled (·.declareEqual x y) (run_declareEqual x y)
    (Problem.execute_assertEqual · x y) fun _ => rfl

theorem carriesOut_assertXorWithConstant (xs ys : List Int) (constant : Int) :
    (assertXorWithConstant xs ys constant).CarriesOut (.assertXorWithConstant xs ys constant) := by
  intro p
  have left : p.afterFailure (.assertXorWithConstant xs ys constant) =
      (p.assertXorWithConstant xs ys constant).1 := rfl
  have succeeded : p.execute (.assertXorWithConstant xs ys constant) =
      Problem.settled (p.assertXorWithConstant xs ys constant) := rfl
  rw [left, succeeded, assertXorWithConstant, run_lift_bind, Problem.assertXorWithConstant]
  cases Problem.xorPairs xs ys constant with
  | error e => rfl
  | ok pairs =>
      dsimp only
      rw [run_declareEqualAll, Problem.withOutcome]
      obtain ⟨after, told | told⟩ := p.pool.declareEqualAll pairs
      · rfl
      · rfl

end Procedure

/-! ## Commands -/

open Procedure Equalities

/-- The procedure of a command carries it out. -/
theorem Command.carriesOut_of_procedure? {c : Command} {procedure : Procedure Unit}
    (found : c.procedure? = some procedure) : procedure.CarriesOut c := by
  cases c with
  | declareEqual x y =>
      cases found
      exact carriesOut_declareEqual x y
  | declareEqualAll pairs =>
      cases found
      exact carriesOut_declareEqualAll pairs
  | appendClause lits =>
      cases found
      exact carriesOut_changeFormula (fun _ => rfl) fun _ => rfl
  | appendClauses clauses =>
      cases found
      exact carriesOut_changeFormula (fun _ => rfl) fun _ => rfl
  | assertEqual x y =>
      cases found
      exact carriesOut_assertEqual x y
  | assertEqualClauses x y =>
      cases found
      exact carriesOut_changeFormula (fun _ => rfl) fun _ => rfl
  | assertXor3 x y z =>
      cases found
      exact carriesOut_changeFormula (fun _ => rfl) fun _ => rfl
  | assignInteger lits value =>
      cases found
      exact carriesOut_changeFormula (fun _ => rfl) fun _ => rfl
  | assertXorWithConstant xs ys constant =>
      cases found
      exact carriesOut_assertXorWithConstant xs ys constant
  | addImage box inputs outputs =>
      cases found
      exact carriesOut_changeFormula (Problem.execute_addImage · box inputs outputs) fun _ => rfl
  | _ => contradiction

namespace Problem

/-- Writing to a problem comes to the same as making another one. -/
theorem performInPlace_eq_perform (p : Problem) (c : Command) :
    p.performInPlace c = p.perform c := by
  rw [performInPlace]
  cases found : c.procedure? with
  | none => rfl
  | some procedure => exact (Command.carriesOut_of_procedure? found).carryOut_eq p

/-- A command that builds a constraint and is carried out in place either
succeeds, with what it is for, or fails.  After a failure the formula and the
variables are exactly as they were, whatever had been written before, but for the
equalities that are recorded.  There are none where the failure is another one
than a number that is too long, or where all literals that are to be made equal
can be written. -/
theorem performInPlace_run_spec {settings : Settings} {commands : List Command} {p : Problem}
    (reached : ((fresh settings).run commands).pool = p.pool) {c : Command}
    (builds : c.procedure?.isSome = true) :
    (∃ after, p.execute c = .ok after ∧ p.performInPlace c = (after, none)) ∨
      ∃ e m, p.execute c = .error e ∧ p.performInPlace c = (p.withEqualities m, some e) ∧
        p.pool.equalities.declareAll (p.recordedBy c) = .ok m ∧
          (e ≠ .numberTooLong ∨ LegiblePairs c.equated → p.performInPlace c = (p, some e)) := by
  have forest := (represents_run settings commands).forest
  rw [reached] at forest
  rw [performInPlace_eq_perform]
  cases executed : p.execute c with
  | ok after =>
      left
      refine ⟨after, rfl, ?_⟩
      rw [perform, executed]
  | error e =>
      right
      have noFamily : c.declaresFamily = false := by
        cases c <;> first | rfl | contradiction
      obtain ⟨m, recorded, left⟩ := exists_afterFailure_eq noFamily executed
      rw [perform_of_execute_eq_error executed, left]
      refine ⟨e, m, rfl, rfl, recorded, ?_⟩
      intro harmless
      have nothing : p.recordedBy c = [] := by
        rcases harmless with other | legible
        · exact recordedBy_of_ne_numberTooLong executed other
        · exact recordedBy_of_legible forest legible executed
      rw [nothing] at recorded
      cases recorded
      rfl

/-- Two vectors are to be equal of which the second places are opposites already.
The link of the first places is written before this is found out, and taken back
after it. -/
theorem performInPlace_run_spec_second_pair :
    let p := (fresh {}).run [.declareFamily "x" (.ofInts [4]), .declareEqual 4 (-2)]
    let c : Command := .assertXorWithConstant [1, 2] [3, 4] 0
    ((declareEach [(1, 3), (2, 4)]).carryOut p).1.pool.equalities ≠ p.pool.equalities ∧
      c.procedure?.isSome = true ∧ p.performInPlace c = (p, some (.oppositeLiterals 2 4)) := by
  intro p c
  have reached : ((fresh {}).run [.declareFamily "x" (.ofInts [4]),
      .declareEqual 4 (-2)]).pool = p.pool := rfl
  have builds : c.procedure?.isSome = true := rfl
  have outcome : (p.performInPlace c).2 = some (.oppositeLiterals 2 4) := by decide +kernel
  refine ⟨by decide +kernel, builds, ?_⟩
  obtain ⟨after, -, succeeded⟩ | ⟨e, m, -, failed, -, untouched⟩ :=
    performInPlace_run_spec reached builds
  · rw [succeeded] at outcome
    contradiction
  · rw [failed] at outcome
    cases outcome
    exact untouched (Or.inl (by decide))

/-- Two vectors are to be equal of which the first places have too long a literal.
Its link is written before the report of it fails, and stays. -/
theorem not_performInPlace_atomic :
    ¬ ∀ (c : Command) (e : Error), c.procedure?.isSome = true →
      ((fresh {}).performInPlace c).2 = some e →
        ((fresh {}).performInPlace c).1.pool = (fresh {}).pool := by
  intro atomic
  have untouched := atomic (.assertXorWithConstant [Decimal.overlong, 2] [1, 3] 0) .numberTooLong
    rfl (by decide +kernel)
  exact absurd untouched (by decide +kernel)

end Problem

end Clausal
