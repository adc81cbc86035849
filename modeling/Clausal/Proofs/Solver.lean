import Clausal.Cnf
import Clausal.Proofs.Clause
import Clausal.Solver

/-!
# Solvers that can be relied on

A correct backend gives a model of every satisfiable list of clauses and says of
every other list that there is none.  A model has one literal for each variable
up to the greatest that occurs, and makes every clause true.

The search is such a backend: the literals that it finds solve the clauses, and
it gives up only where no valuation makes them all true.
-/

namespace Clausal

/-! ## What a backend has to do -/

namespace Solver

/-- Some valuation makes every clause true. -/
def Satisfiable (clauses : List (List Int)) : Prop :=
  ∃ s : Valuation, ∀ lits ∈ clauses, Literal.AnyHolds s lits

/-- One literal for each variable up to the greatest that occurs, some literal of
every clause among them. -/
structure IsModel (clauses : List (List Int)) (model : List Int) : Prop where
  in_range : ∀ lit ∈ model, lit ≠ 0 ∧ lit.natAbs ≤ largestVariable clauses
  one_literal : ∀ v : Nat, 0 < v → v ≤ largestVariable clauses →
    ((v : Int) ∈ model ↔ -(v : Int) ∉ model)
  satisfies : ∀ lits ∈ clauses, ∃ lit ∈ lits, lit ∈ model

end Solver

/-- A backend gives a model exactly of the satisfiable lists of clauses. -/
structure Backend.Correct (backend : Backend) : Prop where
  model_of_satisfiable : ∀ d : Cnf, Solver.Satisfiable d.clauses →
    ∃ model, backend d.clauses = .ok (some model) ∧ Solver.IsModel d.clauses model
  none_of_unsatisfiable : ∀ d : Cnf, ¬ Solver.Satisfiable d.clauses →
    backend d.clauses = .ok none

namespace Solver

variable {clauses : List (List Int)} {lit : Int} {lits : List Int}

/-- No literal of a model is the opposite of another one. -/
theorem IsModel.neg_not_mem {model : List Int} (isModel : IsModel clauses model)
    (literalMem : lit ∈ model) : -lit ∉ model := by
  have range := isModel.in_range lit literalMem
  have one := isModel.one_literal lit.natAbs (Int.natAbs_pos.mpr range.1) range.2
  rcases Int.natAbs_eq lit with same | opposite
  · rw [← same] at one
    exact one.mp literalMem
  · rw [opposite] at literalMem ⊢
    rw [Int.neg_neg]
    exact fun opposed => one.mp opposed literalMem

/-! ## Deciding one literal -/

theorem mem_given_iff {d : List Int} :
    d ∈ given lit clauses ↔ ∃ c ∈ clauses, lit ∉ c ∧ d = c.filter fun l => l ≠ -lit := by
  rw [given, List.mem_map]
  constructor
  · rintro ⟨c, kept, rfl⟩
    obtain ⟨clauseMem, without⟩ := List.mem_filter.mp kept
    exact ⟨c, clauseMem, by simpa using without, rfl⟩
  · rintro ⟨c, clauseMem, without, rfl⟩
    exact ⟨c, List.mem_filter.mpr ⟨clauseMem, by simpa using without⟩, rfl⟩

theorem ne_zero_of_mem_given (clausesNe : ∀ c ∈ clauses, ∀ l ∈ c, l ≠ 0) :
    ∀ d ∈ given lit clauses, ∀ l ∈ d, l ≠ 0 := by
  intro d clauseMem l literalMem
  obtain ⟨c, original, -, rfl⟩ := mem_given_iff.mp clauseMem
  exact clausesNe c original l (List.mem_filter.mp literalMem).1

/-- A valuation that makes the decided literal true makes what is left of each
clause true. -/
theorem anyHolds_of_mem_given {s : Valuation} (litNe : lit ≠ 0) (litHolds : Literal.holds s lit)
    (satisfied : ∀ c ∈ clauses, Literal.AnyHolds s c) :
    ∀ d ∈ given lit clauses, Literal.AnyHolds s d := by
  intro d clauseMem
  obtain ⟨c, original, -, rfl⟩ := mem_given_iff.mp clauseMem
  obtain ⟨l, literalMem, holds⟩ := satisfied c original
  have notOpposite : l ≠ -lit := by
    rintro rfl
    rw [Literal.holds_neg s litNe, litHolds] at holds
    contradiction
  exact ⟨l, List.mem_filter.mpr ⟨literalMem, by simpa using notOpposite⟩, holds⟩

/-! ## What the search finds -/

/-- Literals on variables of the clauses, no two of them opposite, of which every
clause has one. -/
structure Solution (clauses : List (List Int)) (lits : List Int) : Prop where
  occurs : ∀ lit ∈ lits, ∃ c ∈ clauses, lit ∈ c ∨ -lit ∈ c
  consistent : ∀ lit ∈ lits, -lit ∉ lits
  satisfies : ∀ c ∈ clauses, ∃ lit ∈ c, lit ∈ lits

namespace Solution

/-- A solution of what is left has no literal on the decided variable. -/
theorem ne_of_mem (solution : Solution (given lit clauses) lits) {l : Int}
    (literalMem : l ∈ lits) : l ≠ lit ∧ l ≠ -lit := by
  obtain ⟨d, clauseMem, here⟩ := solution.occurs l literalMem
  obtain ⟨c, -, without, rfl⟩ := mem_given_iff.mp clauseMem
  have absent : lit ∉ c.filter fun l => l ≠ -lit := fun kept =>
    without (List.mem_filter.mp kept).1
  have oppositeAbsent : -lit ∉ c.filter fun l => l ≠ -lit := by simp
  constructor
  · rintro rfl
    rcases here with same | opposite
    · exact absent same
    · exact oppositeAbsent opposite
  · rintro rfl
    rw [Int.neg_neg] at here
    rcases here with opposite | same
    · exact oppositeAbsent opposite
    · exact absent same

/-- The decided literal and a solution of what is left solve the clauses. -/
theorem cons (litNe : lit ≠ 0) (occurring : ∃ c ∈ clauses, lit ∈ c ∨ -lit ∈ c)
    (solution : Solution (given lit clauses) lits) : Solution clauses (lit :: lits) where
  occurs := by
    intro l literalMem
    rcases List.mem_cons.mp literalMem with rfl | later
    · exact occurring
    · obtain ⟨d, clauseMem, here⟩ := solution.occurs l later
      obtain ⟨c, original, -, rfl⟩ := mem_given_iff.mp clauseMem
      refine ⟨c, original, here.imp ?_ ?_⟩
      · exact fun kept => (List.mem_filter.mp kept).1
      · exact fun kept => (List.mem_filter.mp kept).1
  consistent := by
    intro l literalMem opposite
    rcases List.mem_cons.mp literalMem with rfl | later
    · rcases List.mem_cons.mp opposite with same | oppositeLater
      · omega
      · exact (solution.ne_of_mem oppositeLater).2 rfl
    · rcases List.mem_cons.mp opposite with same | oppositeLater
      · exact (solution.ne_of_mem later).2 (by omega)
      · exact solution.consistent l later oppositeLater
  satisfies := by
    intro c clauseMem
    by_cases decided : lit ∈ c
    · exact ⟨lit, decided, List.mem_cons_self⟩
    · rcases solution.satisfies _ (mem_given_iff.mpr ⟨c, clauseMem, decided, rfl⟩) with
        ⟨l, kept, found⟩
      exact ⟨l, (List.mem_filter.mp kept).1, List.mem_cons_of_mem lit found⟩

/-- The valuation in which the literals of a solution are true satisfies the
clauses. -/
theorem satisfiable (solution : Solution clauses lits)
    (clausesNe : ∀ c ∈ clauses, ∀ l ∈ c, l ≠ 0) : Satisfiable clauses := by
  refine ⟨fun v => decide ((v : Int) ∈ lits), ?_⟩
  intro c clauseMem
  obtain ⟨l, literalMem, found⟩ := solution.satisfies c clauseMem
  refine ⟨l, literalMem, ?_⟩
  have lNe := clausesNe c clauseMem l literalMem
  rw [Literal.holds]
  by_cases positive : 0 < l
  · have variableEq : (l.natAbs : Int) = l := by omega
    simp [positive, variableEq, found]
  · have oppositeEq : (l.natAbs : Int) = -l := by omega
    simp [positive, oppositeEq, solution.consistent l found]

end Solution

/-- Among clauses that are not empty there is a literal to decide, unless there
is no clause. -/
theorem eq_nil_of_branch?_eq_none (noneEmpty : ¬ clauses.any List.isEmpty = true)
    (chosen : branch? clauses = none) : clauses = [] := by
  cases clauses with
  | nil => rfl
  | cons first rest =>
      have headless : ∀ c ∈ first :: rest, c.head? ≠ none := by
        intro c clauseMem isNone
        apply noneEmpty
        rw [List.any_eq_true]
        exact ⟨c, clauseMem, List.isEmpty_iff.mpr (List.head?_eq_none_iff.mp isNone)⟩
      rw [branch?] at chosen
      cases unit : (first :: rest).find? fun c => c.length = 1 with
      | none =>
          rw [unit] at chosen
          exact absurd chosen (headless first List.mem_cons_self)
      | some c =>
          rw [unit] at chosen
          exact absurd chosen (headless c (List.mem_of_find?_eq_some unit))

/-- What the search finds is a solution. -/
theorem solution_of_search (clausesNe : ∀ c ∈ clauses, ∀ l ∈ c, l ≠ 0)
    (found : search clauses = some lits) : Solution clauses lits := by
  fun_induction search clauses generalizing lits with
  | case1 clauses empty => contradiction
  | case2 clauses noneEmpty chosen =>
      cases found
      rw [eq_nil_of_branch?_eq_none noneEmpty chosen]
      exact ⟨by simp, by simp, by simp⟩
  | case3 clauses noneEmpty lit chosen others searched ih =>
      cases found
      obtain ⟨c, clauseMem, literalMem⟩ := exists_mem_of_branch? chosen
      exact (ih (ne_zero_of_mem_given clausesNe) searched).cons
        (clausesNe c clauseMem lit literalMem) ⟨c, clauseMem, Or.inl literalMem⟩
  | case4 clauses noneEmpty lit chosen searched ih otherIh =>
      obtain ⟨others, otherSearched, rfl⟩ := Option.map_eq_some_iff.mp found
      obtain ⟨c, clauseMem, literalMem⟩ := exists_mem_of_branch? chosen
      have litNe := clausesNe c clauseMem lit literalMem
      refine (otherIh (ne_zero_of_mem_given clausesNe) otherSearched).cons
        (Int.neg_ne_zero.mpr litNe) ⟨c, clauseMem, Or.inr ?_⟩
      rwa [Int.neg_neg]

/-- Where the search finds nothing the clauses cannot be satisfied: the decided
literal or its opposite is true, and neither leaves clauses that can be
satisfied. -/
theorem not_satisfiable_of_search (clausesNe : ∀ c ∈ clauses, ∀ l ∈ c, l ≠ 0)
    (failed : search clauses = none) : ¬ Satisfiable clauses := by
  rintro ⟨s, satisfied⟩
  fun_induction search clauses with
  | case1 clauses empty =>
      obtain ⟨c, clauseMem, isEmpty⟩ := List.any_eq_true.mp empty
      obtain ⟨l, literalMem, -⟩ := satisfied c clauseMem
      rw [List.isEmpty_iff.mp isEmpty] at literalMem
      exact List.not_mem_nil literalMem
  | case2 clauses noneEmpty chosen => contradiction
  | case3 clauses noneEmpty lit chosen others searched ih => contradiction
  | case4 clauses noneEmpty lit chosen searched ih otherIh =>
      obtain ⟨c, clauseMem, literalMem⟩ := exists_mem_of_branch? chosen
      have litNe := clausesNe c clauseMem lit literalMem
      cases value : Literal.holds s lit with
      | true =>
          exact ih (ne_zero_of_mem_given clausesNe) searched
            (anyHolds_of_mem_given litNe value satisfied)
      | false =>
          have oppositeHolds : Literal.holds s (-lit) = true := by
            rw [Literal.holds_neg s litNe, value]
            rfl
          exact otherIh (ne_zero_of_mem_given clausesNe) (Option.map_eq_none_iff.mp failed)
            (anyHolds_of_mem_given (Int.neg_ne_zero.mpr litNe) oppositeHolds satisfied)

/-! ## The model of a solution -/

theorem natAbs_le_largestVariable {c : List Int} (clauseMem : c ∈ clauses)
    (literalMem : lit ∈ c) : lit.natAbs ≤ largestVariable clauses := by
  have occurs : lit.natAbs ∈ clauses.flatten.map Int.natAbs :=
    List.mem_map_of_mem (List.mem_flatten.mpr ⟨c, clauseMem, literalMem⟩)
  rw [largestVariable]
  cases largest : (clauses.flatten.map Int.natAbs).max? with
  | none =>
      rw [List.max?_eq_none_iff.mp largest] at occurs
      contradiction
  | some n => exact (List.max?_eq_some_iff.mp largest).2 _ occurs

/-- The greatest variable is at most a number when every literal is. -/
theorem largestVariable_le_iff {n : Nat} :
    largestVariable clauses ≤ n ↔ ∀ lits ∈ clauses, ∀ lit ∈ lits, lit.natAbs ≤ n := by
  constructor
  · intro covers lits clauseMem lit literalMem
    exact Nat.le_trans (natAbs_le_largestVariable clauseMem literalMem) covers
  · intro covered
    rw [largestVariable]
    cases largest : (clauses.flatten.map Int.natAbs).max? with
    | none => exact Nat.zero_le n
    | some v =>
        have occurs := (List.max?_eq_some_iff.mp largest).1
        obtain ⟨lit, literalMem, rfl⟩ := List.mem_map.mp occurs
        obtain ⟨lits, clauseMem, litMem⟩ := List.mem_flatten.mp literalMem
        exact covered lits clauseMem lit litMem

theorem mem_modelOf_iff {largest : Nat} :
    lit ∈ modelOf largest lits ↔
      ∃ v : Nat, 0 < v ∧ v ≤ largest ∧ lit = if (v : Int) ∈ lits then (v : Int) else -v := by
  rw [modelOf, List.mem_map]
  constructor
  · rintro ⟨v, variableMem, rfl⟩
    have range := List.mem_range'_1.mp variableMem
    exact ⟨v, by omega, by omega, by simp⟩
  · rintro ⟨v, positive, below, rfl⟩
    exact ⟨v, List.mem_range'_1.mpr (by omega), by simp⟩

variable {largest v : Nat}

theorem natAbs_le_of_mem_modelOf (literalMem : lit ∈ modelOf largest lits) :
    lit.natAbs ≤ largest := by
  obtain ⟨v, -, below, rfl⟩ := mem_modelOf_iff.mp literalMem
  split
  · omega
  · omega

theorem natCast_mem_modelOf_iff (positive : 0 < v) (below : v ≤ largest) :
    (v : Int) ∈ modelOf largest lits ↔ (v : Int) ∈ lits := by
  rw [mem_modelOf_iff]
  constructor
  · rintro ⟨w, otherPositive, -, same⟩
    split at same
    · rename_i found
      rwa [same]
    · omega
  · intro found
    exact ⟨v, positive, below, (if_pos found).symm⟩

theorem neg_natCast_mem_modelOf_iff (positive : 0 < v) (below : v ≤ largest) :
    -(v : Int) ∈ modelOf largest lits ↔ (v : Int) ∉ lits := by
  rw [mem_modelOf_iff]
  constructor
  · rintro ⟨w, otherPositive, -, same⟩
    split at same
    · omega
    · rename_i absent
      rwa [Int.neg_inj.mp same]
  · intro absent
    exact ⟨v, positive, below, (if_neg absent).symm⟩

/-- The model of a solution has its literals, and one for every other variable. -/
theorem Solution.isModel (solution : Solution clauses lits)
    (clausesNe : ∀ c ∈ clauses, ∀ l ∈ c, l ≠ 0) :
    IsModel clauses (modelOf (largestVariable clauses) lits) where
  in_range := by
    intro lit literalMem
    obtain ⟨v, positive, below, rfl⟩ := mem_modelOf_iff.mp literalMem
    split
    · omega
    · omega
  one_literal := by
    intro v positive below
    rw [natCast_mem_modelOf_iff positive below, neg_natCast_mem_modelOf_iff positive below,
      Decidable.not_not]
  satisfies := by
    intro c clauseMem
    obtain ⟨l, literalMem, found⟩ := solution.satisfies c clauseMem
    refine ⟨l, literalMem, ?_⟩
    have positive : 0 < l.natAbs := Int.natAbs_pos.mpr (clausesNe c clauseMem l literalMem)
    have below := natAbs_le_largestVariable clauseMem literalMem
    rcases Int.natAbs_eq l with same | opposite
    · rw [same, natCast_mem_modelOf_iff positive below, ← same]
      exact found
    · rw [opposite, neg_natCast_mem_modelOf_iff positive below]
      have absent := solution.consistent l found
      rwa [opposite, Int.neg_neg] at absent

/-- The search is a correct backend. -/
theorem solve_correct : Backend.Correct solve where
  model_of_satisfiable := by
    intro d satisfiable
    have clausesNe : ∀ c ∈ d.clauses, ∀ l ∈ c, l ≠ 0 := fun c clauseMem l literalMem =>
      (d.in_range c clauseMem l literalMem).1
    cases searched : search d.clauses with
    | none => exact absurd satisfiable (not_satisfiable_of_search clausesNe searched)
    | some lits =>
        refine ⟨_, ?_, (solution_of_search clausesNe searched).isModel clausesNe⟩
        rw [solve, searched, Option.map_some]
  none_of_unsatisfiable := by
    intro d unsatisfiable
    have clausesNe : ∀ c ∈ d.clauses, ∀ l ∈ c, l ≠ 0 := fun c clauseMem l literalMem =>
      (d.in_range c clauseMem l literalMem).1
    cases searched : search d.clauses with
    | none => rw [solve, searched, Option.map_none]
    | some lits =>
        exact absurd ((solution_of_search clausesNe searched).satisfiable clausesNe) unsatisfiable

end Solver

end Clausal
