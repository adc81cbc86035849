import Clausal.Proofs.Problem.Representatives
import Clausal.Proofs.Problem.Resolved
import Mathlib.Order.Bounds.Defs

/-!
# The input of a solver

After any run every literal is resolved to a literal, so the clauses of a
problem can always be handed to a solver.  The number of variables announced
there is the least one that covers the declared variables and all literals, and
the clauses pass the check that clauses from outside have to pass.
-/

namespace Clausal

/-! ## Checked clauses -/

namespace Record

/-- Integers pass the check of integers. -/
theorem list_integer_ofInts (lits : List Int) : list integer (.ofInts lits) = .ok lits := by
  rw [Value.ofInts, list, eachFrom_eq_ok_iff, List.map_map]
  rfl

end Record

namespace Cnf

variable {n : Nat} {clauses : List (List Int)} {d : Cnf}

theorem eq_of_ofClauses (made : ofClauses n clauses = .ok d) :
    d.variableCount = n ∧ d.clauses = clauses := by
  unfold ofClauses at made
  split at made
  · contradiction
  · cases made
    exact ⟨rfl, rfl⟩

/-- Where the number and the literals are integers, the check looks at the
literals only. -/
theorem check_ofInts (n : Nat) (clauses : List (List Int)) :
    check (some (.int n)) (some (.list (clauses.map .ofInts))) = ofClauses n clauses := by
  have clausesChecked :
      Record.list (Record.list Record.integer) (.list (clauses.map .ofInts)) = .ok clauses := by
    rw [Record.list, Record.eachFrom_eq_ok_iff, List.map_map]
    exact List.map_congr_left fun lits _ => Record.list_integer_ofInts lits
  rw [check, Record.required, Record.required, Record.natural_natCast, clausesChecked]
  rfl

/-- Numbered clauses pass their own check. -/
theorem check_self (d : Cnf) :
    check (some (.int d.variableCount)) (some (.list (d.clauses.map .ofInts))) = .ok d := by
  obtain ⟨other, checked, -⟩ := exists_ofClauses_eq d.in_range
  obtain ⟨sameCount, sameClauses⟩ := eq_of_ofClauses checked
  rw [check_ofInts, checked]
  cases other
  cases d
  dsimp only at sameCount sameClauses
  subst sameCount sameClauses
  rfl

end Cnf

/-! ## What is handed to a solver -/

namespace Problem

variable {p : Problem} {d : Cnf}

/-- The input of a solver has the resolved clauses, and as many variables as are
declared or occur in them. -/
theorem toCnf_eq_ok_iff (forest : p.pool.equalities.Forest) :
    p.toCnf = .ok d ↔ d.clauses = p.resolved ∧
      d.variableCount = max p.pool.size (Solver.largestVariable p.resolved) := by
  have opened : p.toCnf =
      Cnf.ofClauses (max p.pool.size (Solver.largestVariable p.resolved)) p.resolved := by
    rw [toCnf, resolvedClauses_eq forest]
    rfl
  constructor
  · intro made
    rw [opened] at made
    exact (Cnf.eq_of_ofClauses made).symm
  · rintro ⟨sameClauses, sameCount⟩
    rw [opened, ← sameCount, ← sameClauses, ← Cnf.check_ofInts, Cnf.check_self]

/-- The announced number is the least one that covers the declared variables and
every literal. -/
theorem isLeast_variableCount (forest : p.pool.equalities.Forest) (made : p.toCnf = .ok d) :
    IsLeast {n | p.pool.size ≤ n ∧ ∀ lits ∈ d.clauses, ∀ lit ∈ lits, lit.natAbs ≤ n}
      d.variableCount := by
  obtain ⟨sameClauses, sameCount⟩ := (toCnf_eq_ok_iff forest).mp made
  rw [sameClauses, sameCount]
  constructor
  · exact ⟨Nat.le_max_left _ _, Solver.largestVariable_le_iff.mp (Nat.le_max_right _ _)⟩
  · rintro n ⟨declared, covered⟩
    exact Nat.max_le.mpr ⟨declared, Solver.largestVariable_le_iff.mpr covered⟩

example : ((fresh {}).run [.appendClause [5, -2]]).toCnf.map Cnf.variableCount = .ok 5 := by
  decide +kernel

theorem legible_of_short
    (short : ∀ c ∈ p.formula.clauses, ∀ lit ∈ c.literals, lit.natAbs < 10 ^ 20) :
    ∀ c ∈ p.formula.clauses, ∀ lit ∈ c.literals, Decimal.Legible lit :=
  fun c storedMem lit literalMem => Decimal.legible_of_natAbs_lt (short c storedMem lit literalMem)

/-- The announced number can be written where the number of declared variables and
all stored literals can. -/
theorem legible_variableCount (forest : p.pool.equalities.Forest) (made : p.toCnf = .ok d)
    (sizeLegible : Decimal.Legible p.pool.size)
    (legible : ∀ c ∈ p.formula.clauses, ∀ lit ∈ c.literals, Decimal.Legible lit) :
    Decimal.Legible d.variableCount := by
  have least := (isLeast_variableCount forest made).2
  have positive : 0 < 10 ^ Decimal.digitLimit := Nat.pow_pos (by decide)
  rw [((toCnf_eq_ok_iff forest).mp made).1] at least
  have bounded : d.variableCount ≤ 10 ^ Decimal.digitLimit - 1 := by
    apply least
    constructor
    · exact Nat.le_sub_one_of_lt sizeLegible
    · intro lits clauseMem lit literalMem
      have short := legible_of_mem_resolved forest legible lits clauseMem lit literalMem
      exact Nat.le_sub_one_of_lt short
  exact Nat.lt_of_le_sub_one positive bounded

/-- Every literal of the resolved clauses is the one that stands for the stored
literal at its place. -/
theorem forall₂_resolved (forest : p.pool.equalities.Forest) :
    List.Forall₂ (fun c lits =>
        List.Forall₂ (fun lit r => p.pool.resolve lit = .ok r) c.literals lits)
      p.formula.clauses p.resolved := by
  rw [resolved, List.forall₂_map_right_iff, List.forall₂_same]
  intro c _
  rw [List.forall₂_map_right_iff, List.forall₂_same]
  intro lit literalMem
  exact forest.resolve_eq (c.nonzero lit literalMem)

/-- Any formula whose variables some run has led to can be handed to a solver,
whatever literals the formula and the equalities have.  No literal is zero,
neither a stored one nor what one is resolved to, and no chain of equalities
loops.  The clauses come in the order and with the lengths of the stored ones,
each literal resolved, and they pass the check of clauses from outside.  The
announced number of variables is the least one that is not below the number of
declared variables nor below any literal. -/
theorem toCnf_run_spec {settings : Settings} {commands : List Command} {p : Problem}
    (reached : ((fresh settings).run commands).pool = p.pool) :
    (∀ c ∈ p.formula.clauses, ∀ lit ∈ c.literals, lit ≠ 0) ∧
    (∀ lit, lit ≠ 0 → ∃ r, p.pool.resolve lit = .ok r ∧ r ≠ 0) ∧
    ∃ d, p.toCnf = .ok d ∧
      Cnf.check (some (.int d.variableCount)) (some (.list (d.clauses.map .ofInts))) = .ok d ∧
      List.Forall₂ (fun c lits =>
          List.Forall₂ (fun lit r => p.pool.resolve lit = .ok r) c.literals lits)
        p.formula.clauses d.clauses ∧
      d.clauses.map List.length = p.formula.clauses.map Clause.length ∧
      (∀ lits ∈ d.clauses, ∀ lit ∈ lits, lit ≠ 0) ∧
      IsLeast {n | p.pool.size ≤ n ∧ ∀ lits ∈ d.clauses, ∀ lit ∈ lits, lit.natAbs ≤ n}
        d.variableCount := by
  have forest := (represents_run settings commands).forest
  rw [reached] at forest
  refine ⟨fun c _ => c.nonzero, ?_, ?_⟩
  · intro lit litNe
    exact ⟨_, forest.resolve_eq litNe, mt forest.root_eq_zero_iff.mp litNe⟩
  · obtain ⟨d, made, sameClauses⟩ := exists_toCnf_eq forest
    refine ⟨d, made, d.check_self, ?_, ?_, ?_, isLeast_variableCount forest made⟩
    · rw [sameClauses]
      exact forall₂_resolved forest
    · rw [sameClauses, resolved, List.map_map]
      exact List.map_congr_left fun c _ => List.length_map _
    · rw [sameClauses]
      exact ne_zero_of_mem_resolved forest

/-- A literal beyond the two declared variables is resolved to another one beyond
them, and the number that is announced covers what is left. -/
theorem toCnf_run_spec_undeclared :
    let p := (fresh {}).run [.declareFamily "x" (.ofInts [2]), .appendClause [7, -9],
      .declareEqual 7 (-5), .appendClause []]
    p.resolvedClauses = .ok [[-5, -9], []] ∧ p.toCnf.map Cnf.variableCount = .ok 9 ∧
      ∃ d, p.toCnf = .ok d ∧ d.clauses.map List.length = p.formula.clauses.map Clause.length ∧
        IsLeast {n | p.pool.size ≤ n ∧ ∀ lits ∈ d.clauses, ∀ lit ∈ lits, lit.natAbs ≤ n}
          d.variableCount := by
  intro p
  have reached : ((fresh {}).run [.declareFamily "x" (.ofInts [2]), .appendClause [7, -9],
      .declareEqual 7 (-5), .appendClause []]).pool = p.pool := rfl
  obtain ⟨-, -, d, made, -, -, lengths, -, least⟩ := toCnf_run_spec reached
  exact ⟨by decide +kernel, by decide +kernel, d, made, lengths, least⟩

end Problem

end Clausal
