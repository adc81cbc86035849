import Clausal.Proofs.Assignment
import Clausal.Proofs.Problem.Calls
import Clausal.Proofs.Problem.Document
import Clausal.Proofs.Variables.Decode

/-!
# Solving through text

A problem can be solved directly, or its answer can be written as text and the
text read.  Both ways give the solver the same clauses.  Reading a text gives the
literals of the answer up to the first zero, and no other literal of an answer
counts, so the two ways come to the same.
-/

namespace Clausal

/-! ## Answers that can be written -/

/-- The literals of every model that a backend gives can be written and read
back.  A solver numbers its variables by machine words, which have few digits. -/
def Backend.Legible (backend : Backend) : Prop :=
  ∀ clauses model, backend clauses = .ok (some model) → ∀ lit ∈ model, Decimal.Legible lit

theorem Word.natAbs_narrow_le (n : Int) : (narrow n).natAbs ≤ 0x80000000 := by
  have low : -((0x100000000 : Nat) / 2 : Int) ≤ narrow n := Int.le_bmod (by decide)
  have high : narrow n < (((0x100000000 : Nat) + 1) / 2 : Int) := Int.bmod_lt (by decide)
  omega

namespace Solver

/-- The solvers that are chosen by name work on words of thirty-two bits. -/
theorem legible_backend (name : Text) : (backend name).Legible := by
  intro clauses model answered lit literalMem
  unfold backend at answered
  split at answered
  · contradiction
  · split at answered
    · contradiction
    · obtain ⟨lits, -, rfl⟩ := Option.map_eq_some_iff.mp (Except.ok.inj answered)
      have below := natAbs_le_of_mem_modelOf literalMem
      have narrowed : largestVariable (clauses.map fun c => c.map Word.narrow) ≤ 0x80000000 := by
        rw [largestVariable_le_iff]
        intro c clauseMem l literalMem
        obtain ⟨wide, -, rfl⟩ := List.mem_map.mp clauseMem
        obtain ⟨n, -, rfl⟩ := List.mem_map.mp literalMem
        exact Word.natAbs_narrow_le n
      exact Decimal.legible_of_natAbs_lt (by omega)

end Solver

/-! ## Reading a written answer -/

namespace Variables

variable {a : Variables}

/-- What comes after the first zero of an answer does not matter. -/
theorem decode_beforeZero (a : Variables) (raw : List Int) :
    a.decode (beforeZero raw) = a.decode raw := by
  have sameLiterals : beforeZero (beforeZero raw) = beforeZero raw :=
    beforeZero_eq_self fun _ literalMem => ne_zero_of_mem_beforeZero literalMem
  rw [decode, directValues, sameLiterals]
  rfl

/-- Reading a written answer is taking the answer. -/
theorem readSolution_written (families : a.families ≠ []) {answer : Option (List Int)}
    (legible : ∀ lits ∈ answer, ∀ lit ∈ beforeZero lits, Decimal.Legible lit) :
    a.readSolution (Assignment.written answer) =
      match answer with
      | none => .ok (a, false)
      | some raw => (a.decode raw).map fun b => (b, true) := by
  have parsed : Assignment.parse (Assignment.written answer) = .ok (answer.map beforeZero) :=
    Assignment.parse_written legible
  rw [readSolution_eq families, parsed]
  cases answer with
  | none => rfl
  | some raw =>
      change (a.decode (beforeZero raw)).map _ = _
      rw [decode_beforeZero]

example : ((Problem.fresh {}).run
    [.declareFamily "x" (.ofInts [2]), .readSolution "SAT 1 0 2"]).pool.values =
      some [true, false] := by
  decide +kernel

end Variables

namespace Problem

variable {p : Problem}

theorem call_readSolution (p : Problem) (text : Text) :
    p.call (.readSolution text) =
      match p.pool.readSolution text with
      | .ok (a, satisfiable) => ({ p with pool := a }, .ok (.verdict satisfiable))
      | .error e => (p, .error e) := by
  rw [call_eq, effect]
  cases p.pool.readSolution text <;> rfl

theorem call_decode (p : Problem) (raw : List Int) :
    p.call (.decode raw) =
      match p.pool.decode raw with
      | .ok a => ({ p with pool := a }, .ok .done)
      | .error e => (p, .error e) := by
  have opened : p.effect (.decode raw) =
      (p.withPool (p.pool.decode raw)).map fun after => (.done, after) := rfl
  rw [call_eq, opened, withPool]
  cases p.pool.decode raw <;> rfl

/-- An answer whose literals are not too long is written and read back up to its
first zero, the one that ends it or one among its literals, and an answer without
literals as none.  It does not matter which blanks separate its words, whether there
are blanks in front, and what text follows.  After any run that has declared a
family, reading the text leaves the same problem as taking the literals themselves.
Both succeed if an array can have a place for each variable, and otherwise fail in
the same way. -/
theorem parse_format_run_spec {lits : List Int} (legible : ∀ lit ∈ lits, Decimal.Legible lit) :
    ∃ written, Assignment.format (some lits) = .ok written ∧
      Assignment.parse written = .ok (some (lits.takeWhile (· ≠ 0))) ∧
      (0 ∉ lits → Assignment.parse written = .ok (some lits)) ∧
      (∀ blanks text rest : Text, (∀ n ∈ blanks, Text.isBlank n = true) →
        Text.Respaced written text →
          Assignment.parse (blanks ++ text ++ rest) = .ok (some (lits.takeWhile (· ≠ 0)))) ∧
      (Assignment.format none >>= Assignment.parse) = .ok none ∧
      ∀ {settings : Settings} {commands : List Command} {p : Problem},
        ((fresh settings).run commands).pool = p.pool → p.pool.families ≠ [] →
          (p.pool.size < Word.signedBound →
            ∃ after, p.call (.decode lits) = (after, .ok .done) ∧
              p.call (.readSolution written) = (after, .ok (.verdict true))) ∧
          (Word.signedBound ≤ p.pool.size →
            p.call (.decode lits) = (p, .error .beyondDimension) ∧
              p.call (.readSolution written) = (p, .error .beyondDimension)) := by
  have counted : ∀ lit ∈ lits.takeWhile (· ≠ 0), Decimal.Legible lit := fun lit literalMem =>
    legible lit ((List.takeWhile_prefix _).subset literalMem)
  have parsed : Assignment.parse (Assignment.written (some lits)) =
      .ok (some (lits.takeWhile (· ≠ 0))) :=
    Assignment.parse_written fun _ given => Option.some.inj given ▸ counted
  refine ⟨_, Assignment.format_eq_of_legible legible, parsed, ?whole, ?respaced, ?none, ?same⟩
  case whole =>
    intro noZero
    have counts : ∀ lit ∈ lits, lit ≠ 0 := fun lit literalMem =>
      ne_of_mem_of_not_mem literalMem noZero
    have all : lits.takeWhile (· ≠ 0) = lits := Variables.beforeZero_eq_self counts
    rw [parsed, all]
  case respaced =>
    intro blanks text rest blank respaced
    exact Assignment.parse_respaced counted blank respaced rest
  case none =>
    rw [Assignment.format_eq_of_legible (List.forall_mem_nil _)]
    decide
  case same =>
    intro settings commands p reached families
    have forest := (represents_run settings commands).forest
    rw [reached] at forest
    have read : p.pool.readSolution (Assignment.written (some lits)) =
        (p.pool.decode lits).map fun a => (a, true) :=
      Variables.readSolution_written families fun _ given => Option.some.inj given ▸ counted
    rw [call_decode, call_readSolution, read]
    constructor
    · intro bounded
      rw [Variables.decode_eq forest families bounded]
      exact ⟨_, rfl, rfl⟩
    · intro beyond
      rw [Variables.decode_eq_error (fun taken => Nat.not_lt.mpr beyond taken.2), if_neg families]
      exact ⟨rfl, rfl⟩

/-- An answer with a literal beyond the variables, a zero among its literals and
another literal after it, and the same answer with other blanks and more text. -/
theorem parse_format_run_spec_zero :
    let p := (fresh {}).run [.declareFamily "x" (.ofInts [3]), .declareEqual 3 (-1)]
    Assignment.parse "SAT\n1 -14 0 3 0\n" = .ok (some [1, -14]) ∧
      Assignment.parse "\t SAT\r\n1 -14 0 3 0\n1 x" = .ok (some [1, -14]) ∧
      ∃ after, p.call (.decode [1, -14, 0, 3]) = (after, .ok .done) ∧
        p.call (.readSolution "SAT\n1 -14 0 3 0\n") = (after, .ok (.verdict true)) := by
  intro p
  have short : ∀ lit ∈ ([1, -14, 0, 3] : List Int), lit.natAbs < 10 ^ 20 := by decide
  have legible : ∀ lit ∈ ([1, -14, 0, 3] : List Int), Decimal.Legible lit :=
    fun lit literalMem => Decimal.legible_of_natAbs_lt (short lit literalMem)
  have expected : Assignment.format (some [1, -14, 0, 3]) = .ok "SAT\n1 -14 0 3 0\n" := by
    decide +kernel
  obtain ⟨written, made, parsed, -, others, -, same⟩ := parse_format_run_spec legible
  cases made.symm.trans expected
  have respaced : Text.Respaced "SAT\n1 -14 0 3 0\n" "SAT\r\n1 -14 0 3 0\n" :=
    .point rfl <| .point rfl <| .point rfl <|
      .gap (g := [0x0A]) (h := [0x0D, 0x0A]) ⟨by decide, by decide⟩ ⟨by decide, by decide⟩
        (.refl "1 -14 0 3 0\n")
  have reached : ((fresh {}).run [.declareFamily "x" (.ofInts [3]),
      .declareEqual 3 (-1)]).pool = p.pool := rfl
  exact ⟨parsed, others "\t " _ "1 x" (by decide) respaced,
    (same reached (by decide +kernel)).1 (by decide +kernel)⟩

/-- A written answer that is read where there are more variables than an array can
have places is not taken. -/
theorem not_call_readSolution_every_size :
    let p := (fresh {}).run [.declareFamily "x" (.ofInts [0x8000000000000000])]
    p.pool.families ≠ [] ∧ Assignment.format (some []) = .ok "SAT\n0\n" ∧
      (p.call (.readSolution "SAT\n0\n")).2 = .error .beyondDimension := by
  intro p
  exact ⟨by decide +kernel, by decide +kernel, by decide +kernel⟩

theorem call_solve (p : Problem) (backend : Backend) :
    p.call (.solve backend) =
      match p.solve backend with
      | .ok answer => (answer.problem, .ok (.verdict answer.isSatisfiable))
      | .error e => (p, .error e) := by
  rw [call_eq, effect]
  cases p.solve backend <;> rfl

/-- An answer as text is written from what the backend makes of the resolved
clauses. -/
theorem solveText_eq (forest : p.pool.equalities.Forest) {backend : Backend}
    (legible : backend.Legible) :
    p.solveText backend = (backend p.resolved).map Assignment.written := by
  rw [solveText, resolvedClauses_eq forest, Outcome.ok_bind]
  cases answered : backend p.resolved with
  | error e => rfl
  | ok answer =>
      apply Assignment.format_eq_of_legible
      cases answer with
      | none => exact List.forall_mem_nil _
      | some model => exact legible _ _ answered

/-- Solving directly and reading the answer that solving as text gives, for any
formula whose variables some run has led to, with at least one family, and any
backend with literals of no more digits than can be read.  If the announced number
of variables can be written, and so if all stored literals and the number of declared
variables can, both succeed with the same verdict or fail with the same error, and
leave the same problem.  Otherwise solving directly fails for this number and changes
nothing. -/
theorem call_solve_eq_call_readSolution {settings : Settings} {commands : List Command}
    {p : Problem} (reached : ((fresh settings).run commands).pool = p.pool)
    (families : p.pool.families ≠ []) {backend : Backend} (legible : backend.Legible) :
    ∃ d, p.toCnf = .ok d ∧
      (Decimal.Legible d.variableCount → p.call (.solve backend) =
        match p.solveText backend with
        | .ok text => p.call (.readSolution text)
        | .error e => (p, .error e)) ∧
      (¬ Decimal.Legible d.variableCount →
        p.call (.solve backend) = (p, .error .numberTooLong)) ∧
      (Decimal.Legible p.pool.size →
        (∀ c ∈ p.formula.clauses, ∀ lit ∈ c.literals, Decimal.Legible lit) →
          Decimal.Legible d.variableCount) := by
  have forest := (represents_run settings commands).forest
  rw [reached] at forest
  obtain ⟨input, made, sameClauses⟩ := exists_toCnf_eq forest
  refine ⟨input, made, ?same, ?tooLong, legible_variableCount forest made⟩
  case same =>
    intro counted
    rw [call_solve, solve_of_toCnf made, solveText_eq forest legible, sameClauses,
      Error.writing_eq_ok_iff.mpr (List.forall_mem_singleton.mpr counted)]
    cases answered : backend p.resolved with
    | error e => rfl
    | ok answer =>
        have readable : ∀ lits ∈ answer, ∀ lit ∈ Variables.beforeZero lits,
            Decimal.Legible lit := by
          rintro lits rfl lit literalMem
          exact legible _ _ answered lit ((List.takeWhile_prefix _).subset literalMem)
        change _ = p.call (.readSolution (Assignment.written answer))
        rw [call_readSolution, Variables.readSolution_written families readable]
        cases answer with
        | none => rfl
        | some model =>
            dsimp only
            cases p.pool.decode model <;> rfl
  case tooLong =>
    intro tooLong
    have failed := Error.writing_eq_error_iff.mpr
      ⟨rfl, mt List.forall_mem_singleton.mp tooLong⟩
    rw [call_solve, solve_of_toCnf made, failed]

/-- A variable that an equality has made superfluous, and a literal beyond the
declared variables: both ways find the same model. -/
theorem call_solve_eq_call_readSolution_undeclared :
    let p := (fresh {}).run [.declareFamily "x" (.ofInts [3]), .declareEqual 3 (-1),
      .appendClause [3, 5], .appendClause [-5, 2], .appendClause [1]]
    p.solveText (Solver.backend "minisat22") = .ok "SAT\n1 2 -3 -4 5 0\n" ∧
      p.call (.solve (Solver.backend "minisat22")) =
        p.call (.readSolution "SAT\n1 2 -3 -4 5 0\n") := by
  intro p
  have reached : ((fresh {}).run [.declareFamily "x" (.ofInts [3]), .declareEqual 3 (-1),
      .appendClause [3, 5], .appendClause [-5, 2], .appendClause [1]]).pool = p.pool := rfl
  obtain ⟨d, -, same, -, counted⟩ := call_solve_eq_call_readSolution reached (by decide +kernel)
    (Solver.legible_backend "minisat22")
  have written : p.solveText (Solver.backend "minisat22") = .ok "SAT\n1 2 -3 -4 5 0\n" := by
    decide +kernel
  rw [written] at same
  exact ⟨written, same (counted (Decimal.legible_of_natAbs_lt (by decide +kernel))
    (legible_of_short (by decide +kernel)))⟩

/-- Clauses that cannot be satisfied, with a literal that is too long: the answer as
text says that there is no model, and solving directly fails. -/
theorem not_call_solve_eq_call_readSolution :
    let p := (fresh {}).run [.declareFamily "x" (.ofInts [1]), .appendClause [1],
      .appendClause [-1], .appendClause [Decimal.overlong]]
    let unsatisfiable : Backend := fun _ => .ok none
    p.pool.families ≠ [] ∧
      p.solveText unsatisfiable = .ok "UNSAT\n" ∧
      (p.call (.readSolution "UNSAT\n")).2 = .ok (.verdict false) ∧
      (p.call (.solve unsatisfiable)).2 = .error .numberTooLong := by
  intro p unsatisfiable
  exact ⟨by decide +kernel, by decide +kernel, by decide +kernel, by decide +kernel⟩

end Problem

end Clausal
