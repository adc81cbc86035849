import Clausal.Proofs.Formula
import Clausal.Proofs.Problem.Representatives
import Clausal.Proofs.Problem.Resolved
import Clausal.Proofs.Sbox

/-!
# What a problem says after a run

Every command asks something of a valuation.  A command that succeeds adds what
it asks to the problem, as clauses or as equalities, and one that fails adds no
more than the pairs that it has recorded, most often none.  So the valuations that
satisfy the problem after a run are those that meet every command that succeeded
in it and make the recorded pairs equal, and the same is true of the resolved
clauses together with the entries of the equality map.
-/

namespace Clausal

open Equalities

/-! ## What a command asks -/

/-- What a command asks of a valuation. -/
def Command.Means (s : Valuation) : Command → Prop
  | .declareEqual x y => Literal.holds s x = Literal.holds s y
  | .declareEqualAll pairs => ∀ e ∈ pairs, Literal.holds s e.1 = Literal.holds s e.2
  | .appendClause lits => Literal.AnyHolds s lits
  | .appendClauses clauses => ∀ lits ∈ clauses, Literal.AnyHolds s lits
  | .assertEqual x y => Literal.holds s x = Literal.holds s y
  | .assertEqualClauses x y => Literal.holds s x = Literal.holds s y
  | .assertXor3 x y z =>
      ((Literal.holds s x).xor (Literal.holds s y)).xor (Literal.holds s z) = false
  | .assignInteger lits value =>
      (Bits.number (lits.map (Literal.holds s)) : Int) = value % Bits.span lits.length
  | .assertXorWithConstant xs ys constant =>
      List.zipWith Bool.xor (xs.map (Literal.holds s)) (ys.map (Literal.holds s)) =
        Bits.ofInt xs.length constant
  | .addImage box inputs outputs =>
      box.table[Bits.number (inputs.map (Literal.holds s))]? =
        some (Bits.number (outputs.map (Literal.holds s)) : Int)
  | _ => True

namespace Problem

variable {p after : Problem} {s : Valuation}

/-- A pair is equal where its literals differ by the bit. -/
theorem holds_xorPair_iff {x y : Int} {bit : Bool} {pair : Int × Int}
    (made : xorPair x y bit = .ok pair) :
    Literal.holds s pair.1 = Literal.holds s pair.2 ↔
      (Literal.holds s x).xor (Literal.holds s y) = bit := by
  obtain ⟨yNe, rfl⟩ := xorPair_eq_ok made
  cases bit with
  | true =>
      simp only [if_true, Literal.holds_neg s yNe]
      cases Literal.holds s x <;> cases Literal.holds s y <;> decide
  | false =>
      simp only [Bool.false_eq_true, if_false]
      cases Literal.holds s x <;> cases Literal.holds s y <;> decide

/-- The pairs made from two vectors are equal where the vectors differ by the
bits of the constant. -/
theorem forall_xorPairs_iff {xs ys : List Int} {constant : Int} {pairs : List (Int × Int)}
    (made : xorPairs xs ys constant = .ok pairs) :
    (∀ e ∈ pairs, Literal.holds s e.1 = Literal.holds s e.2) ↔
      (Command.assertXorWithConstant xs ys constant).Means s := by
  obtain ⟨sameLength, pairwise⟩ := mapM_of_xorPairs made
  have allDiffer := Outcome.forall_mem_of_mapM pairwise
    (P := fun e => Literal.holds s e.1 = Literal.holds s e.2)
    (Q := fun e => (Literal.holds s e.1.1).xor (Literal.holds s e.1.2) = e.2)
    fun _ _ _ result => holds_xorPair_iff result
  have bitsLength : (xs.zip ys).length = (Bits.ofInt xs.length constant).length := by
    rw [List.length_zip, Bits.length_ofInt, ← sameLength, Nat.min_self]
  have bitwise := Formula.forall_mem_zip_iff
    (fun e : Int × Int => (Literal.holds s e.1).xor (Literal.holds s e.2)) bitsLength
  rw [List.map_zip_eq_zipWith] at bitwise
  rw [Command.Means, List.zipWith_map]
  exact allDiffer.trans bitwise

/-- A command that succeeds asks, among other things, that its pairs are equal. -/
theorem forall_equated_of_means {c : Command} (executed : p.execute c = .ok after)
    (met : c.Means s) : ∀ e ∈ c.equated, Literal.holds s e.1 = Literal.holds s e.2 := by
  cases c with
  | declareEqual x y => exact List.forall_mem_singleton.mpr met
  | declareEqualAll pairs => exact met
  | assertEqual x y => exact List.forall_mem_singleton.mpr met
  | assertXorWithConstant xs ys constant =>
      obtain ⟨pairs, paired, -⟩ := execute_assertXorWithConstant_eq_ok_iff.mp executed
      have equal := (forall_xorPairs_iff paired).mpr met
      rwa [eq_of_xorPairs paired] at equal
  | _ => exact List.forall_mem_nil _

/-! ## Adding what a command asks -/

/-- A command that declares pairs and keeps the formula adds that the pairs are
equal. -/
theorem satisfiedBy_of_equated {c : Command} (forest : p.pool.equalities.Forest)
    (executed : p.execute c = .ok after) (sameFormula : after.formula = p.formula) :
    after.SatisfiedBy s ↔
      p.SatisfiedBy s ∧ ∀ e ∈ c.equated, Literal.holds s e.1 = Literal.holds s e.2 := by
  rw [SatisfiedBy, SatisfiedBy, sameFormula,
    forest.respectedBy_declareAll (declareAll_of_execute executed), and_right_comm]

/-- A command that gives the problem a formula with more clauses adds what these
say. -/
theorem satisfiedBy_of_adds {outcome : Except Error Formula} {condition : Valuation → Prop}
    (executed : p.withFormula outcome = .ok after)
    (adds : ∀ g, outcome = .ok g → p.formula.Adds g condition) :
    after.SatisfiedBy s ↔ p.SatisfiedBy s ∧ condition s := by
  obtain ⟨g, made, rfl⟩ := withFormula_eq_ok_iff.mp executed
  rw [SatisfiedBy, SatisfiedBy, (adds g made).holds_iff, and_assoc]

/-- A command that succeeds adds what it asks, and nothing else. -/
theorem satisfiedBy_execute_iff {c : Command} (forest : p.pool.equalities.Forest)
    (executed : p.execute c = .ok after) :
    after.SatisfiedBy s ↔ p.SatisfiedBy s ∧ c.Means s := by
  cases c with
  | declareFamily name dimensions =>
      rw [satisfiedBy_of_equated forest executed (formula_of_withPool executed)]
      simp [Command.equated, Command.Means]
  | declareGenerated dimensions =>
      rw [satisfiedBy_of_equated forest executed (formula_of_withPool executed)]
      simp [Command.equated, Command.Means]
  | declareEqual x y =>
      rw [satisfiedBy_of_equated forest executed (formula_of_withPool executed)]
      simp [Command.equated, Command.Means]
  | declareEqualAll pairs =>
      exact satisfiedBy_of_equated forest executed (formula_of_withPool executed)
  | decode raw =>
      rw [satisfiedBy_of_equated forest executed (formula_of_withPool executed)]
      simp [Command.equated, Command.Means]
  | readSolution text =>
      rw [satisfiedBy_of_equated forest executed (formula_of_withPool executed)]
      simp [Command.equated, Command.Means]
  | appendClause lits =>
      exact satisfiedBy_of_adds executed fun _ => Formula.adds_of_appendClause
  | appendClauses clauses =>
      exact satisfiedBy_of_adds executed fun _ => Formula.adds_of_appendClauses
  | assertEqual x y =>
      rw [execute_assertEqual] at executed
      rw [satisfiedBy_of_equated forest executed (formula_of_withPool executed)]
      simp [Command.equated, Command.Means]
  | assertEqualClauses x y =>
      exact satisfiedBy_of_adds executed fun _ => Formula.adds_of_assertEqualClauses
  | assertXor3 x y z =>
      exact satisfiedBy_of_adds executed fun _ => Formula.adds_of_assertXor3
  | assignInteger lits value =>
      exact satisfiedBy_of_adds executed fun _ => Formula.adds_of_assignInteger
  | assertXorWithConstant xs ys constant =>
      obtain ⟨pairs, paired, declared⟩ := execute_assertXorWithConstant_eq_ok_iff.mp executed
      rw [satisfiedBy_of_equated forest declared (formula_of_withPool declared),
        ← forall_xorPairs_iff paired]
      rfl
  | addImage box inputs outputs =>
      rw [execute_addImage] at executed
      apply satisfiedBy_of_adds executed
      intro g extended
      obtain ⟨clauses, made, rfl⟩ := Outcome.map_eq_ok_iff.mp extended
      exact Formula.adds_extend (Sbox.forall_holds_image_iff made)
  | solve backend =>
      rw [satisfiedBy_of_equated forest executed (formula_of_execute_solve executed)]
      simp [Command.equated, Command.Means]

/-- A command that fails adds that what it has recorded is equal. -/
theorem satisfiedBy_afterFailure_iff {c : Command} {e : Error}
    (forest : p.pool.equalities.Forest) (failed : p.execute c = .error e) :
    (p.afterFailure c).SatisfiedBy s ↔
      p.SatisfiedBy s ∧ ∀ e ∈ p.recordedBy c, Literal.holds s e.1 = Literal.holds s e.2 := by
  rw [SatisfiedBy, SatisfiedBy, formula_afterFailure,
    forest.respectedBy_declareAll (becomes_afterFailure failed).declareAll, and_right_comm]

/-! ## Along a run -/

/-- The valuations that satisfy a problem after a run are those that have satisfied
it before, meet every command that has succeeded and make the recorded pairs
equal. -/
theorem satisfiedBy_run_iff (forest : p.pool.equalities.Forest) (commands : List Command)
    (s : Valuation) :
    (p.run commands).SatisfiedBy s ↔ p.SatisfiedBy s ∧
      (∀ c ∈ p.succeeding commands, c.Means s) ∧
        ∀ e ∈ p.recorded commands, Literal.holds s e.1 = Literal.holds s e.2 := by
  induction commands generalizing p with
  | nil => simp [run, succeeding, recorded]
  | cons c rest ih =>
      have next := ih (forest.declareAll (p.becomes_perform c).declareAll)
      rw [run, List.foldl_cons]
      rw [recorded, List.forall_mem_append, succeeding]
      refine next.trans ?_
      rw [perform]
      cases executed : p.execute c with
      | error e =>
          dsimp only
          rw [satisfiedBy_afterFailure_iff forest executed]
          tauto
      | ok after =>
          dsimp only
          have implied := forall_equated_of_means (s := s) executed
          rw [satisfiedBy_execute_iff forest executed, recordedBy_of_execute executed,
            List.forall_mem_cons]
          tauto

/-- Who meets every command that has succeeded makes the accepted pairs equal. -/
theorem forall_accepted_of_means (commands : List Command)
    (met : ∀ c ∈ p.succeeding commands, c.Means s) :
    ∀ e ∈ p.accepted commands, Literal.holds s e.1 = Literal.holds s e.2 := by
  induction commands generalizing p with
  | nil => exact List.forall_mem_nil _
  | cons c rest ih =>
      rw [succeeding] at met
      rw [accepted, succeeding]
      cases executed : p.execute c with
      | error e =>
          rw [executed] at met
          exact ih met
      | ok after =>
          rw [executed] at met
          obtain ⟨here, later⟩ := List.forall_mem_cons.mp met
          rw [List.flatMap_cons, List.forall_mem_append]
          exact ⟨forall_equated_of_means executed here, ih later⟩

theorem satisfiedBy_fresh (settings : Settings) (s : Valuation) :
    (fresh settings).SatisfiedBy s := by
  simp [SatisfiedBy, fresh, RespectedBy, Formula.holds]

/-- After any run the clauses can be resolved.  A valuation gives equal values to
the two sides of every entry of the equality map and makes every resolved clause
true exactly when it meets every command that succeeded in the run and makes the
recorded pairs equal.  If all literals that are to be made equal can be written,
it does so exactly when it meets every command that succeeded. -/
theorem resolvedClauses_run_iff (settings : Settings) (commands : List Command) :
    ∃ clauses, ((fresh settings).run commands).resolvedClauses = .ok clauses ∧
      (∀ s : Valuation,
        ((∀ e ∈ ((fresh settings).run commands).pool.equalities.entries,
            Literal.holds s e.1 = Literal.holds s e.2) ∧
          ∀ lits ∈ clauses, ∃ lit ∈ lits, Literal.holds s lit = true) ↔
        (∀ c ∈ (fresh settings).succeeding commands, c.Means s) ∧
          ∀ e ∈ (fresh settings).recorded commands,
            Literal.holds s e.1 = Literal.holds s e.2) ∧
      ((∀ c ∈ commands, LegiblePairs c.equated) → ∀ s : Valuation,
        ((∀ e ∈ ((fresh settings).run commands).pool.equalities.entries,
            Literal.holds s e.1 = Literal.holds s e.2) ∧
          ∀ lits ∈ clauses, ∃ lit ∈ lits, Literal.holds s lit = true) ↔
        ∀ c ∈ (fresh settings).succeeding commands, c.Means s) := by
  have forest := (represents_run settings commands).forest
  have general : ∀ s : Valuation,
      ((fresh settings).run commands).pool.equalities.RespectedBy s ∧
          (∀ lits ∈ ((fresh settings).run commands).resolved, Literal.AnyHolds s lits) ↔
        (∀ c ∈ (fresh settings).succeeding commands, c.Means s) ∧
          ∀ e ∈ (fresh settings).recorded commands,
            Literal.holds s e.1 = Literal.holds s e.2 := by
    intro s
    rw [← satisfiedBy_iff_resolved forest, satisfiedBy_run_iff forest_empty,
      and_iff_right (satisfiedBy_fresh settings s)]
  refine ⟨_, resolvedClauses_eq forest, general, ?_⟩
  intro legible s
  refine (general s).trans (and_iff_left_of_imp fun met => ?_)
  rw [recorded_eq_accepted forest_empty legible]
  exact forall_accepted_of_means commands met

/-- Two clauses around an equality of their literals and a difference that is
refused. -/
theorem resolvedClauses_run_iff_refused :
    let commands : List Command :=
      [.appendClause [5, -2], .declareEqual 5 2, .assertXorWithConstant [2] [5] 1]
    ((fresh {}).run commands).resolvedClauses = .ok [[2, -2]] ∧
      ∀ s : Valuation,
        ((∀ e ∈ ((fresh {}).run commands).pool.equalities.entries,
            Literal.holds s e.1 = Literal.holds s e.2) ∧
          ∀ lits ∈ [[2, -2]], ∃ lit ∈ lits, Literal.holds s lit = true) ↔
        ∀ c ∈ (fresh {}).succeeding commands, c.Means s := by
  intro commands
  have legible : ∀ c ∈ commands, LegiblePairs c.equated :=
    legiblePairs_equated_of_short (by decide)
  obtain ⟨clauses, given, -, meaning⟩ := resolvedClauses_run_iff {} commands
  have resolved : ((fresh {}).run commands).resolvedClauses = .ok [[2, -2]] := by decide +kernel
  rw [resolved] at given
  cases given
  exact ⟨resolved, meaning legible⟩

/-- A declaration whose report cannot be written fails, and its literals have to
be equal all the same. -/
theorem not_resolvedClauses_means_succeeding :
    ¬ ∀ (commands : List Command) (s : Valuation),
      (∀ c ∈ (fresh {}).succeeding commands, c.Means s) →
        ∀ e ∈ ((fresh {}).run commands).pool.equalities.entries,
          Literal.holds s e.1 = Literal.holds s e.2 := by
  intro means
  let commands : List Command := [.declareEqual Decimal.overlong 1]
  have nothing : (fresh {}).succeeding commands = [] :=
    List.isEmpty_iff.mp (by decide +kernel)
  have equal := means commands (· = 1) (by simp [nothing]) (Decimal.overlong, 1) (by decide +kernel)
  exact absurd equal (by decide +kernel)

end Problem

end Clausal
