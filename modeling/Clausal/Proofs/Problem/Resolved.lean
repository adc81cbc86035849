import Clausal.Problem
import Clausal.Proofs.Clause
import Clausal.Proofs.Decimal
import Clausal.Proofs.Equalities.Declaration
import Clausal.Proofs.Solver

/-!
# Resolved clauses

What leaves a problem has every literal replaced by its root.  Where the
equalities are respected a literal has the value of its root, so the resolved
clauses say what the stored ones say.
-/

namespace Clausal

/-! ## Numbered clauses -/

namespace Cnf

/-- Clauses whose literals are neither zero nor beyond the variables are
accepted. -/
theorem exists_ofClauses_eq {n : Nat} {clauses : List (List Int)}
    (inRange : ∀ c ∈ clauses, ∀ lit ∈ c, lit ≠ 0 ∧ lit.natAbs ≤ n) :
    ∃ d, ofClauses n clauses = .ok d ∧ d.clauses = clauses := by
  have fine : firstComplaint? (some n) clauses = none := by
    apply List.findSome?_eq_none_iff.mpr
    rintro ⟨c, i⟩ pairMem
    apply List.findSome?_eq_none_iff.mpr
    intro lit literalMem
    have clauseMem := List.mem_of_getElem? (List.mem_zipIdx_iff_getElem?.mp pairMem)
    have range := inRange c clauseMem lit literalMem
    rw [complaint?, if_neg range.1]
    exact if_neg (Nat.not_lt.mpr range.2)
  unfold ofClauses
  split
  · rename_i complaint
    rw [fine] at complaint
    contradiction
  · exact ⟨_, rfl, rfl⟩

end Cnf

namespace Problem

/-! ## Resolution -/

variable {p : Problem} {s : Valuation}

/-- The clauses with every literal replaced by its root. -/
def resolved (p : Problem) : List (List Int) :=
  p.formula.clauses.map fun c => c.literals.map p.pool.equalities.root

/-- In a forest no stored clause fails to be resolved. -/
theorem resolvedClauses_eq (forest : p.pool.equalities.Forest) :
    p.resolvedClauses = .ok p.resolved := by
  apply Outcome.mapM_eq_ok_map
  intro c _
  apply Outcome.mapM_eq_ok_map
  intro lit literalMem
  exact forest.resolve_eq (c.nonzero lit literalMem)

theorem anyHolds_map_root_iff (forest : p.pool.equalities.Forest)
    (respected : p.pool.equalities.RespectedBy s) (c : Clause) :
    Literal.AnyHolds s (c.literals.map p.pool.equalities.root) ↔ c.holds s = true := by
  have sameValues : Literal.holds s ∘ p.pool.equalities.root = Literal.holds s :=
    funext (forest.holds_root respected)
  rw [Literal.anyHolds_iff, Clause.holds, List.any_map, sameValues]

/-- Where the equalities are respected the resolved clauses say what the formula
says. -/
theorem forall_resolved_iff (forest : p.pool.equalities.Forest)
    (respected : p.pool.equalities.RespectedBy s) :
    (∀ lits ∈ p.resolved, Literal.AnyHolds s lits) ↔ p.formula.holds s = true := by
  rw [resolved, List.forall_mem_map, Formula.holds, List.all_eq_true]
  simp only [anyHolds_map_root_iff forest respected]

/-- The valuations that satisfy a problem are those that respect its equalities
and make its resolved clauses true. -/
theorem satisfiedBy_iff_resolved (forest : p.pool.equalities.Forest) :
    p.SatisfiedBy s ↔ p.pool.equalities.RespectedBy s ∧
      ∀ lits ∈ p.resolved, Literal.AnyHolds s lits := by
  apply and_congr_right
  intro respected
  exact (forall_resolved_iff forest respected).symm

/-- A literal of a resolved clause is the root of a stored one. -/
theorem exists_stored_of_mem_resolved {lits : List Int} (clauseMem : lits ∈ p.resolved)
    {lit : Int} (literalMem : lit ∈ lits) :
    ∃ c ∈ p.formula.clauses, ∃ stored ∈ c.literals, p.pool.equalities.root stored = lit := by
  obtain ⟨c, storedMem, rfl⟩ := List.mem_map.mp clauseMem
  obtain ⟨stored, storedLiteralMem, sameLiteral⟩ := List.mem_map.mp literalMem
  exact ⟨c, storedMem, stored, storedLiteralMem, sameLiteral⟩

theorem ne_zero_of_mem_resolved (forest : p.pool.equalities.Forest) :
    ∀ lits ∈ p.resolved, ∀ lit ∈ lits, lit ≠ 0 := by
  intro lits clauseMem lit literalMem
  obtain ⟨c, -, stored, storedMem, rfl⟩ := exists_stored_of_mem_resolved clauseMem literalMem
  exact mt forest.root_eq_zero_iff.mp (c.nonzero stored storedMem)

/-- What a literal is resolved to has no more digits than the literal. -/
theorem legible_of_mem_resolved (forest : p.pool.equalities.Forest)
    (legible : ∀ c ∈ p.formula.clauses, ∀ lit ∈ c.literals, Decimal.Legible lit) :
    ∀ lits ∈ p.resolved, ∀ lit ∈ lits, Decimal.Legible lit := by
  intro lits clauseMem lit literalMem
  obtain ⟨c, storedMem, stored, storedLiteralMem, rfl⟩ :=
    exists_stored_of_mem_resolved clauseMem literalMem
  exact (legible c storedMem stored storedLiteralMem).of_natAbs_le (forest.natAbs_root_le stored)

/-- What a solver is given are the resolved clauses. -/
theorem exists_toCnf_eq (forest : p.pool.equalities.Forest) :
    ∃ input, p.toCnf = .ok input ∧ input.clauses = p.resolved := by
  rw [toCnf, resolvedClauses_eq forest]
  apply Cnf.exists_ofClauses_eq
  intro lits clauseMem lit literalMem
  have covered := Solver.natAbs_le_largestVariable clauseMem literalMem
  exact ⟨ne_zero_of_mem_resolved forest lits clauseMem lit literalMem,
    Nat.le_trans covered (Nat.le_max_right _ _)⟩

end Problem

end Clausal
