import Clausal.Problem.Command
import Clausal.Proofs.Writing

/-!
# Runs and the commands that succeed in them

Some commands of a run succeed, and the others leave the formula as it was and the
variables almost so.  Most commands give the problem other variables or another
formula and keep the rest.
-/

namespace Clausal.Problem

/-! ## What succeeds in a run -/

/-- The commands of a list that succeed when the list is carried out. -/
def succeeding (p : Problem) : List Command → List Command
  | [] => []
  | c :: rest =>
      match p.execute c with
      | .ok after => c :: after.succeeding rest
      | .error _ => (p.afterFailure c).succeeding rest

/-! ## What a command changes -/

variable {p after : Problem}

/-- A command that fails is reported with what it leaves. -/
theorem perform_of_execute_eq_error {c : Command} {e : Error}
    (failed : p.execute c = .error e) : p.perform c = (p.afterFailure c, some e) := by
  rw [perform, failed]

theorem withPool_eq_ok_iff {outcome : Except Error Variables} :
    p.withPool outcome = .ok after ↔
      ∃ a, outcome = .ok a ∧ { p with pool := a } = after :=
  Outcome.map_eq_ok_iff

theorem formula_of_withPool {outcome : Except Error Variables}
    (executed : p.withPool outcome = .ok after) : after.formula = p.formula := by
  obtain ⟨a, -, rfl⟩ := withPool_eq_ok_iff.mp executed
  rfl

theorem withFormula_eq_ok_iff {outcome : Except Error Formula} :
    p.withFormula outcome = .ok after ↔
      ∃ f, outcome = .ok f ∧ { p with formula := f } = after :=
  Outcome.map_eq_ok_iff

theorem settled_eq_error_iff {σ α : Type} {outcome : σ × Except Error α} {e : Error} :
    settled outcome = .error e ↔ outcome.2 = .error e := by
  obtain ⟨left, told | told⟩ := outcome
  · simp [settled]
  · simp [settled]

theorem settled_withOutcome {α : Type} (p : Problem) (outcome : Variables × Except Error α) :
    settled (p.withOutcome outcome) = p.withPool (settled outcome) := by
  obtain ⟨left, told | told⟩ := outcome
  · rfl
  · rfl

/-- Asserting that two literals are equal declares that they are. -/
theorem execute_assertEqual (p : Problem) (x y : Int) :
    p.execute (.assertEqual x y) = p.execute (.declareEqual x y) :=
  p.settled_withOutcome (p.pool.declareEqual x y)

/-- Asserting that two vectors differ by a constant declares that the pairs made
from them are equal. -/
theorem assertXorWithConstant_of_xorPairs {xs ys : List Int} {constant : Int}
    {pairs : List (Int × Int)} (paired : xorPairs xs ys constant = .ok pairs) :
    p.assertXorWithConstant xs ys constant = p.withOutcome (p.pool.declareEqualAll pairs) := by
  rw [assertXorWithConstant, paired]

theorem assertXorWithConstant_of_xorPairs_eq_error {xs ys : List Int} {constant : Int} {e : Error}
    (refused : xorPairs xs ys constant = .error e) :
    p.assertXorWithConstant xs ys constant = (p, .error e) := by
  rw [assertXorWithConstant, refused]

theorem execute_assertXorWithConstant_of_xorPairs {xs ys : List Int} {constant : Int}
    {pairs : List (Int × Int)} (paired : xorPairs xs ys constant = .ok pairs) :
    p.execute (.assertXorWithConstant xs ys constant) = p.execute (.declareEqualAll pairs) := by
  change settled (p.assertXorWithConstant xs ys constant) = _
  rw [assertXorWithConstant_of_xorPairs paired]
  exact p.settled_withOutcome _

theorem execute_assertXorWithConstant_eq_ok_iff {xs ys : List Int} {constant : Int} :
    p.execute (.assertXorWithConstant xs ys constant) = .ok after ↔
      ∃ pairs, xorPairs xs ys constant = .ok pairs ∧
        p.execute (.declareEqualAll pairs) = .ok after := by
  cases paired : xorPairs xs ys constant with
  | error e =>
      change settled (p.assertXorWithConstant xs ys constant) = .ok after ↔ _
      rw [assertXorWithConstant_of_xorPairs_eq_error paired]
      simp [settled]
  | ok pairs =>
      rw [execute_assertXorWithConstant_of_xorPairs paired]
      simp

/-- Adding the image of a box extends the formula by the clauses of the box. -/
theorem execute_addImage (p : Problem) (box : Sbox) (inputs outputs : List Int) :
    p.execute (.addImage box inputs outputs) =
      p.withFormula ((box.image inputs outputs).map p.formula.extend) := by
  change p.addImage box inputs outputs = _
  rw [addImage]
  cases box.image inputs outputs with
  | error e => rfl
  | ok clauses => rfl

/-- What a failure leaves has the formula that there was. -/
@[simp]
theorem formula_afterFailure (p : Problem) (c : Command) :
    (p.afterFailure c).formula = p.formula := by
  cases c with
  | assertXorWithConstant xs ys constant =>
      change (p.assertXorWithConstant xs ys constant).1.formula = p.formula
      rw [assertXorWithConstant]
      split <;> rfl
  | _ => rfl

/-! ## Solving -/

/-- The problem whose variables take a model, if there is one. -/
def taking (p : Problem) : Option (List Int) → Except Error Problem
  | none => .ok p
  | some model => p.withPool (p.pool.decode model)

/-- A problem is solved when it can be handed to the solver, its number of
variables can be reported, the solver answers, and the variables can take the
answer. -/
theorem solve_eq_ok_iff {backend : Backend} {answer : Answer} :
    p.solve backend = .ok answer ↔ p.toCnf = .ok answer.input ∧
      Decimal.Legible answer.input.variableCount ∧
        backend answer.input.clauses = .ok answer.model ∧
          p.taking answer.model = .ok answer.problem := by
  rw [solve, Outcome.bind_eq_ok_iff]
  constructor
  · rintro ⟨input, made, rest⟩
    obtain ⟨_, written, rest⟩ := Outcome.bind_eq_ok_iff.mp rest
    have legible := List.forall_mem_singleton.mp (Error.writing_eq_ok_iff.mp written)
    obtain ⟨model, answered, last⟩ := Outcome.bind_eq_ok_iff.mp rest
    cases model with
    | none =>
        cases last
        exact ⟨made, legible, answered, rfl⟩
    | some model =>
        obtain ⟨a, decoded, equal⟩ := Outcome.bind_eq_ok_iff.mp last
        cases equal
        exact ⟨made, legible, answered, withPool_eq_ok_iff.mpr ⟨a, decoded, rfl⟩⟩
  · obtain ⟨q, model, input⟩ := answer
    rintro ⟨made, legible, answered, taken⟩
    have written := Error.writing_eq_ok_iff.mpr (List.forall_mem_singleton.mpr legible)
    refine ⟨input, made, Outcome.bind_eq_ok_iff.mpr ⟨(), written, ?_⟩⟩
    refine Outcome.bind_eq_ok_iff.mpr ⟨model, answered, ?_⟩
    cases model with
    | none =>
        cases taken
        rfl
    | some model =>
        obtain ⟨a, decoded, rfl⟩ := withPool_eq_ok_iff.mp taken
        exact Outcome.bind_eq_ok_iff.mpr ⟨a, decoded, rfl⟩

theorem formula_of_execute_solve {backend : Backend}
    (executed : p.execute (.solve backend) = .ok after) : after.formula = p.formula := by
  obtain ⟨⟨q, model, input⟩, solved, rfl⟩ := Outcome.map_eq_ok_iff.mp executed
  have taken := (solve_eq_ok_iff.mp solved).2.2.2
  cases model with
  | none =>
      cases taken
      rfl
  | some model => exact formula_of_withPool taken

end Clausal.Problem
