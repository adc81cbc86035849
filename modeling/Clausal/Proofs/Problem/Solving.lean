import Clausal.Proofs.Problem.Document
import Clausal.Proofs.Variables.Decode

/-!
# Solving

A solver sees the resolved clauses only.  A valuation of the roots becomes one
of all literals that respects the equalities, so the resolved clauses can be
satisfied exactly when the problem can, and the values that the variables take
from a model make every stored clause true and equal literals equal.
-/

namespace Clausal.Problem

variable {p : Problem} {s : Valuation}

/-! ## The original and the resolved clauses -/

theorem satisfiedBy_throughRoots (forest : p.pool.equalities.Forest)
    (satisfied : ∀ lits ∈ p.resolved, Literal.AnyHolds s lits) :
    p.SatisfiedBy (p.pool.equalities.throughRoots s) := by
  constructor
  · exact forest.respectedBy_throughRoots s
  apply List.all_eq_true.mpr
  intro c clauseMem
  obtain ⟨root, rootMem, rootHolds⟩ := satisfied _ (List.mem_map_of_mem clauseMem)
  obtain ⟨lit, literalMem, rfl⟩ := List.mem_map.mp rootMem
  rw [← forest.holds_throughRoots (c.nonzero lit literalMem)] at rootHolds
  exact Clause.holds_eq_true_iff.mpr ⟨lit, literalMem, rootHolds⟩

/-- The resolved clauses can be satisfied exactly when the problem can. -/
theorem satisfiable_resolved_iff (forest : p.pool.equalities.Forest) :
    Solver.Satisfiable p.resolved ↔ ∃ s, p.SatisfiedBy s := by
  constructor
  · rintro ⟨s, satisfied⟩
    exact ⟨_, satisfiedBy_throughRoots forest satisfied⟩
  · rintro ⟨s, satisfied⟩
    exact ⟨s, ((satisfiedBy_iff_resolved forest).mp satisfied).2⟩

/-! ## Values from a model -/

/-- A model makes its own literals true. -/
theorem anyHolds_answered_of_isModel {clauses : List (List Int)} {model : List Int}
    (isModel : Solver.IsModel clauses model) {lits : List Int} (clauseMem : lits ∈ clauses) :
    Literal.AnyHolds (Variables.answered model) lits := by
  obtain ⟨lit, literalMem, found⟩ := isModel.satisfies lits clauseMem
  have oppositeNotMem : -lit ∉ model := isModel.neg_not_mem found
  have litHolds := Variables.holds_answered_of_mem
    (fun l modelMem => (isModel.in_range l modelMem).1) found oppositeNotMem
  exact ⟨lit, literalMem, litHolds⟩

/-- A correct backend answers, with a model exactly where the resolved clauses
can be satisfied, and the variables take the model, if an array can have a place
for each of them and the stored literals can be written. -/
theorem exists_solve_eq (forest : p.pool.equalities.Forest) (families : p.pool.families ≠ [])
    (bounded : p.pool.size < Word.signedBound)
    (legible : ∀ c ∈ p.formula.clauses, ∀ lit ∈ c.literals, Decimal.Legible lit)
    {backend : Backend} (correct : backend.Correct) :
    ∃ answer, p.solve backend = .ok answer ∧
      (answer.isSatisfiable = true ↔ Solver.Satisfiable p.resolved) ∧
      (answer.isSatisfiable = true → ∃ model, Solver.IsModel p.resolved model ∧
        p.pool.decode model = .ok answer.problem.pool) := by
  obtain ⟨input, made, inputClauses⟩ := exists_toCnf_eq forest
  have counted := legible_variableCount forest made
    (Decimal.legible_of_natAbs_le (Nat.le_refl _) bounded) legible
  rw [← inputClauses]
  by_cases satisfiable : Solver.Satisfiable input.clauses
  · obtain ⟨model, answered, isModel⟩ := correct.model_of_satisfiable input satisfiable
    have taken : ∃ a, p.pool.decode model = .ok a :=
      ⟨_, Variables.decode_eq forest families bounded model⟩
    obtain ⟨a, decoded⟩ := taken
    have solved : p.solve backend = .ok ⟨{ p with pool := a }, some model, input⟩ :=
      solve_eq_ok_iff.mpr ⟨made, counted, answered, withPool_eq_ok_iff.mpr ⟨a, decoded, rfl⟩⟩
    exact ⟨_, solved, iff_of_true rfl satisfiable, fun _ => ⟨model, isModel, decoded⟩⟩
  · have answered := correct.none_of_unsatisfiable input satisfiable
    have solved : p.solve backend = .ok ⟨p, none, input⟩ :=
      solve_eq_ok_iff.mpr ⟨made, counted, answered, rfl⟩
    exact ⟨_, solved, iff_of_false Bool.false_ne_true satisfiable, fun positive =>
      absurd positive Bool.false_ne_true⟩

/-- Solving changes nothing but the held values. -/
theorem exists_values_of_solve {backend : Backend} {answer : Answer}
    (solved : p.solve backend = .ok answer) :
    ∃ values, answer.problem = { p with pool := { p.pool with values := values } } := by
  obtain ⟨q, model, input⟩ := answer
  have taken := (solve_eq_ok_iff.mp solved).2.2.2
  cases model with
  | none =>
      cases taken
      exact ⟨q.pool.values, rfl⟩
  | some model =>
      obtain ⟨a, decoded, rfl⟩ := withPool_eq_ok_iff.mp taken
      obtain ⟨-, -, values, -, rfl⟩ := Variables.decode_eq_ok_iff.mp decoded
      exact ⟨some values, rfl⟩

/-- A correct backend finds out whether some valuation satisfies a problem, and
then the variables hold the values of such a valuation. -/
theorem exists_solve_eq_shows (forest : p.pool.equalities.Forest)
    (families : p.pool.families ≠ []) (bounded : p.pool.size < Word.signedBound)
    (legible : ∀ c ∈ p.formula.clauses, ∀ lit ∈ c.literals, Decimal.Legible lit)
    {backend : Backend} (correct : backend.Correct) :
    ∃ answer, p.solve backend = .ok answer ∧
      (answer.isSatisfiable = true ↔ ∃ s, p.SatisfiedBy s) ∧
      (answer.isSatisfiable = true → ∃ s, p.SatisfiedBy s ∧ answer.problem.pool.Shows s) := by
  obtain ⟨answer, solved, decided, taken⟩ :=
    exists_solve_eq forest families bounded legible correct
  refine ⟨answer, solved, decided.trans (satisfiable_resolved_iff forest), ?_⟩
  intro positive
  obtain ⟨model, isModel, decoded⟩ := taken positive
  have satisfied : p.SatisfiedBy (p.pool.equalities.throughRoots (Variables.answered model)) :=
    satisfiedBy_throughRoots forest fun _ => anyHolds_answered_of_isModel isModel
  exact ⟨_, satisfied, Variables.shows_of_decode forest decoded⟩

/-- Solving that gives no model or fails leaves the problem as it was. -/
theorem perform_solve_eq_self {backend : Backend}
    (noModel : ∀ answer, p.solve backend = .ok answer → answer.isSatisfiable = false) :
    (p.perform (.solve backend)).1 = p := by
  have executed : p.execute (.solve backend) = (p.solve backend).map Answer.problem := rfl
  rw [perform, executed]
  cases solved : p.solve backend with
  | error e => rfl
  | ok answer =>
      obtain ⟨q, model, input⟩ := answer
      have taken := (solve_eq_ok_iff.mp solved).2.2.2
      cases model with
      | none =>
          cases taken
          rfl
      | some model => exact absurd (noModel _ solved) (by simp [Answer.isSatisfiable])

/-! ## The values of the variables afterwards -/

variable {model : List Int} {after : Variables}

/-- Values taken from a model make every stored clause on declared variables
true. -/
theorem exists_literalValue_eq_true (forest : p.pool.equalities.Forest)
    (isModel : Solver.IsModel p.resolved model) (decoded : p.pool.decode model = .ok after)
    {c : Clause} (clauseMem : c ∈ p.formula.clauses)
    (declared : ∀ lit ∈ c.literals, lit.natAbs ≤ p.pool.size) :
    ∃ lit ∈ c.literals, after.literalValue lit = .ok true := by
  obtain ⟨root, rootMem, rootHolds⟩ :=
    anyHolds_answered_of_isModel isModel (List.mem_map_of_mem clauseMem)
  obtain ⟨lit, literalMem, rfl⟩ := List.mem_map.mp rootMem
  have value := Variables.literalValue_of_decode forest decoded (c.nonzero lit literalMem)
    (declared lit literalMem)
  rw [rootHolds] at value
  exact ⟨lit, literalMem, value⟩

/-- Values taken from any answer make declared pairs equal. -/
theorem exists_literalValue_eq_of_mem {pairs : List (Int × Int)}
    (represents : p.pool.equalities.Represents pairs) (decoded : p.pool.decode model = .ok after)
    {e : Int × Int} (pairMem : e ∈ pairs) (leftDeclared : e.1.natAbs ≤ p.pool.size)
    (rightDeclared : e.2.natAbs ≤ p.pool.size) :
    ∃ b, after.literalValue e.1 = .ok b ∧ after.literalValue e.2 = .ok b := by
  have forest := represents.forest
  have literals := represents.ne_zero e pairMem
  have sameRoot := (represents.root_eq_iff e.1 e.2).mpr (.declared pairMem)
  have left := Variables.literalValue_of_decode forest decoded literals.1 leftDeclared
  have right := Variables.literalValue_of_decode forest decoded literals.2 rightDeclared
  rw [← sameRoot] at right
  exact ⟨_, left, right⟩

/-! ## Solving after a run -/

/-- No model is taken where there are more variables than an array can have
places. -/
theorem isSatisfiable_eq_false_of_signedBound_le {backend : Backend} {answer : Answer}
    (beyond : Word.signedBound ≤ p.pool.size) (solved : p.solve backend = .ok answer) :
    answer.isSatisfiable = false := by
  obtain ⟨q, model, input⟩ := answer
  have taken := (solve_eq_ok_iff.mp solved).2.2.2
  cases model with
  | none => rfl
  | some model =>
      obtain ⟨a, decoded, -⟩ := withPool_eq_ok_iff.mp taken
      have bounded := (Variables.decode_eq_ok_iff.mp decoded).2.1
      omega

/-- Solving with a correct backend after any run that has declared a family, not
more variables than an array can have places, and stored clauses on declared
variables only.  The answer is that there is a model exactly when some valuation
makes the stored clauses true and the recorded pairs equal; then the variables make
a literal of every stored clause true, and give recorded pairs of declared variables
equal values.  With more variables no answer is that there is a model.  With any
backend at all the problem stays as it was unless there is a model.  The recorded
pairs are those of the commands that succeeded if all literals that were to be made
equal can be written. -/
theorem solve_run_spec {settings : Settings} {commands : List Command} {p : Problem}
    (reached : (fresh settings).run commands = p) {backend : Backend}
    (correct : backend.Correct) (families : p.pool.families ≠ [])
    (declared : ∀ c ∈ p.formula.clauses, ∀ lit ∈ c.literals, lit.natAbs ≤ p.pool.size) :
    (p.pool.size < Word.signedBound → ∃ answer, p.solve backend = .ok answer ∧
      (answer.isSatisfiable = true ↔ ∃ s : Valuation,
        (∀ c ∈ p.formula.clauses, c.holds s = true) ∧
          ∀ e ∈ (fresh settings).recorded commands, Literal.holds s e.1 = Literal.holds s e.2) ∧
      (answer.isSatisfiable = true →
        (∀ c ∈ p.formula.clauses, ∃ lit ∈ c.literals,
          answer.problem.pool.literalValue lit = .ok true) ∧
        ∀ e ∈ (fresh settings).recorded commands,
          e.1.natAbs ≤ p.pool.size → e.2.natAbs ≤ p.pool.size →
            ∃ b, answer.problem.pool.literalValue e.1 = .ok b ∧
              answer.problem.pool.literalValue e.2 = .ok b)) ∧
    (Word.signedBound ≤ p.pool.size → ∀ answer, p.solve backend = .ok answer →
      answer.isSatisfiable = false) ∧
    (∀ other : Backend,
      (∀ answer, p.solve other = .ok answer → answer.isSatisfiable = false) →
        (p.perform (.solve other)).1 = p) ∧
    ((∀ c ∈ commands, Equalities.LegiblePairs c.equated) →
      (fresh settings).recorded commands = (fresh settings).accepted commands) := by
  have represents := represents_run settings commands
  rw [reached] at represents
  have meaning : Solver.Satisfiable p.resolved ↔ ∃ s : Valuation,
      (∀ c ∈ p.formula.clauses, c.holds s = true) ∧
        ∀ e ∈ (fresh settings).recorded commands, Literal.holds s e.1 = Literal.holds s e.2 := by
    rw [satisfiable_resolved_iff represents.forest]
    apply exists_congr
    intro s
    rw [SatisfiedBy, represents.respectedBy_iff, Formula.holds, List.all_eq_true, and_comm]
  refine ⟨fun bounded => ?answer, fun beyond _ => isSatisfiable_eq_false_of_signedBound_le beyond,
    fun _ => perform_solve_eq_self, recorded_eq_accepted Equalities.forest_empty⟩
  case answer =>
    have legible : ∀ c ∈ p.formula.clauses, ∀ lit ∈ c.literals, Decimal.Legible lit :=
      fun c clauseMem lit literalMem =>
        Decimal.legible_of_natAbs_le (declared c clauseMem lit literalMem) bounded
    obtain ⟨answer, solved, decided, taken⟩ :=
      exists_solve_eq represents.forest families bounded legible correct
    refine ⟨answer, solved, decided.trans meaning, ?_⟩
    intro positive
    obtain ⟨model, isModel, decoded⟩ := taken positive
    constructor
    · intro c clauseMem
      exact exists_literalValue_eq_true represents.forest isModel decoded clauseMem
        (declared c clauseMem)
    · intro e pairMem leftDeclared rightDeclared
      exact exists_literalValue_eq_of_mem represents decoded pairMem leftDeclared rightDeclared

/-- The search solves clauses of which one is on a variable that an equality has
made superfluous. -/
theorem solve_run_spec_search :
    let commands : List Command :=
      [.declareFamily "x" (.ofInts [4]), .appendClause [1, -2], .declareEqual 4 (-1),
        .appendClause [4, 2]]
    (fresh {}).accepted commands = [(4, -1)] ∧
    ∃ answer, ((fresh {}).run commands).solve Solver.solve = .ok answer ∧
      (answer.isSatisfiable = true ↔ ∃ s : Valuation,
        (∀ c ∈ ((fresh {}).run commands).formula.clauses, c.holds s = true) ∧
          ∀ e ∈ (fresh {}).accepted commands, Literal.holds s e.1 = Literal.holds s e.2) ∧
      (answer.isSatisfiable = true →
        (∀ c ∈ ((fresh {}).run commands).formula.clauses, ∃ lit ∈ c.literals,
          answer.problem.pool.literalValue lit = .ok true) ∧
        ∀ e ∈ (fresh {}).accepted commands,
          e.1.natAbs ≤ ((fresh {}).run commands).pool.size →
            e.2.natAbs ≤ ((fresh {}).run commands).pool.size →
              ∃ b, answer.problem.pool.literalValue e.1 = .ok b ∧
                answer.problem.pool.literalValue e.2 = .ok b) := by
  intro commands
  have legible : ∀ c ∈ commands, Equalities.LegiblePairs c.equated :=
    legiblePairs_equated_of_short (by decide)
  have reached : (fresh {}).run commands = (fresh {}).run commands := rfl
  obtain ⟨answered, -, -, same⟩ :=
    solve_run_spec reached Solver.solve_correct (by decide +kernel) (by decide +kernel)
  rw [same legible] at answered
  exact ⟨by decide +kernel, answered (by decide +kernel)⟩

/-- A family with as many variables as an array cannot have places, and a clause that
can be made true: there is no answer. -/
theorem not_solve_beyond_array :
    let p := (fresh {}).run [.declareFamily "x" (.ofInts [0x8000000000000000]),
      .appendClause [1]]
    p.pool.families ≠ [] ∧
      (∀ c ∈ p.formula.clauses, ∀ lit ∈ c.literals, lit.natAbs ≤ p.pool.size) ∧
      (p.formula.holds fun _ => true) = true ∧
      (p.solve Solver.solve).map Answer.isSatisfiable = .error .beyondDimension := by
  intro p
  exact ⟨by decide +kernel, by decide +kernel, by decide +kernel, by decide +kernel⟩

end Clausal.Problem
