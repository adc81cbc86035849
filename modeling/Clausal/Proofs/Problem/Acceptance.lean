import Clausal.Proofs.Equalities.Acceptance
import Clausal.Proofs.Problem.Representatives

/-!
# Declaring pairs after a run

After any run the equalities represent the recorded pairs, so further pairs that
can be written are accepted exactly when some valuation meets them together with
those.  Pairs that the library refuses leave the whole problem as it was, whichever
of them is the first that cannot be linked.  Where it is the report of a pair that
cannot be written, the pairs up to this one stay linked.
-/

namespace Clausal

open Equalities

namespace Problem

/-- What a refusal of pairs leaves: the problem as it was, or the links of the
pairs in front of one with too long a number, and the link of this one too. -/
theorem perform_declareEqualAll_of_error {p : Problem} {pairs : List (Int × Int)} {e : Error}
    (forest : p.pool.equalities.Forest)
    (refused : (p.pool.declareEqualAll pairs).2 = .error e) :
    ∃ front x y back middle, pairs = front ++ (x, y) :: back ∧
      p.pool.equalities.declareAll front = .ok middle ∧
        (middle.declare x y = .error e ∧ p.perform (.declareEqualAll pairs) = (p, some e) ∨
          e = .numberTooLong ∧ ¬ (Decimal.Legible x ∧ Decimal.Legible y) ∧
            ∃ m, (m = middle ∨ middle.declare x y = .ok m) ∧
              p.perform (.declareEqualAll pairs) = (p.withEqualities m, some e)) := by
  obtain ⟨m, kept, left⟩ := p.pool.exists_fst_declareEqualAll pairs
  rw [Variables.snd_declareEqualAll] at refused
  have performed := p.perform_declareEqualAll pairs
  rw [left, refused] at performed
  obtain ⟨front, x, y, back, middle, split, made, last⟩ :=
    forest.exists_of_enterAll_eq_error refused
  refine ⟨front, x, y, back, middle, split, made, ?_⟩
  rcases last with ⟨own, declared⟩ | ⟨rfl, tooLong, entered⟩
  · rw [kept_of_isOwn refused own] at kept
    cases kept
    exact Or.inl ⟨declared, performed⟩
  · rw [kept_of_not_isOwn refused rfl] at kept
    refine Or.inr ⟨rfl, tooLong, m, ?_, performed⟩
    rcases entered with entered | entered
    · rw [entered, made] at kept
      cases kept
      exact Or.inl rfl
    · rw [entered, declareAll_append made, declareAll_singleton] at kept
      exact Or.inr kept

/-- After any run pairs whose literals can be written are accepted together exactly
when they do not name zero and some valuation meets them and all pairs recorded so
far.  Neither the outcome nor how literals are resolved after it depends on the
order of these pairs and of their sides.  Pairs that are refused have a first one
that cannot be linked, and the problem is the one before, without the links for
those in front of it; or they have one with too long a number, and the links for
those in front of it stay.  The recorded pairs are those of the commands that
succeeded if all literals that were to be made equal can be written. -/
theorem declareEqualAll_run_spec (settings : Settings) (commands : List Command)
    (pairs : List (Int × Int)) {p : Problem} (reached : (fresh settings).run commands = p) :
    (LegiblePairs pairs →
      ((p.pool.declareEqualAll pairs).2 = .ok () ↔
        (∀ e ∈ pairs, e.1 ≠ 0 ∧ e.2 ≠ 0) ∧ ∃ s : Valuation,
          ∀ e ∈ (fresh settings).recorded commands ++ pairs,
            Literal.holds s e.1 = Literal.holds s e.2) ∧
      ∀ others, Rearranges pairs others →
        ((p.pool.declareEqualAll pairs).2 = .ok () ↔ (p.pool.declareEqualAll others).2 = .ok ()) ∧
        ((p.pool.declareEqualAll pairs).2 = .ok () → ∀ lit,
          (p.pool.declareEqualAll others).1.resolve lit =
            (p.pool.declareEqualAll pairs).1.resolve lit)) ∧
    (∀ e, (p.pool.declareEqualAll pairs).2 = .error e →
      ∃ front x y back middle, pairs = front ++ (x, y) :: back ∧
        p.pool.equalities.declareAll front = .ok middle ∧
          (middle.declare x y = .error e ∧ p.perform (.declareEqualAll pairs) = (p, some e) ∨
            e = .numberTooLong ∧ ¬ (Decimal.Legible x ∧ Decimal.Legible y) ∧
              ∃ m, (m = middle ∨ middle.declare x y = .ok m) ∧
                p.perform (.declareEqualAll pairs) = (p.withEqualities m, some e))) ∧
    ((∀ c ∈ commands, LegiblePairs c.equated) →
      (fresh settings).recorded commands = (fresh settings).accepted commands) := by
  have represents := represents_run settings commands
  rw [reached] at represents
  refine ⟨fun legible => ⟨?acceptance, ?order⟩,
    fun e refused => perform_declareEqualAll_of_error represents.forest refused,
    recorded_eq_accepted forest_empty⟩
  case acceptance =>
    rw [Variables.snd_declareEqualAll]
    exact represents.snd_enterAll_eq_ok_iff legible
  case order =>
    intro others rearranges
    have same := represents.snd_enterAll_eq_ok_iff_of_rearranges legible rearranges
    rw [Variables.snd_declareEqualAll, Variables.snd_declareEqualAll]
    refine ⟨same, fun succeeded lit => ?_⟩
    obtain ⟨m, declared, left⟩ := Variables.exists_fst_declareEqualAll_of_ok succeeded
    obtain ⟨n, otherDeclared, otherLeft⟩ :=
      Variables.exists_fst_declareEqualAll_of_ok (same.mp succeeded)
    rw [left, otherLeft]
    exact represents.resolve_eq_resolve_of_rearranges rearranges declared otherDeclared lit

/-- Around an equality and a difference: pairs that close a chain with an odd
number of opposites are refused without a trace, and others are accepted in any
order because some valuation meets them. -/
theorem declareEqualAll_run_spec_chain :
    let commands : List Command := [.declareEqual 5 (-3), .assertXorWithConstant [4] [1] 1]
    let p := (fresh {}).run commands
    p.perform (.declareEqualAll [(3, 1), (5, 6), (6, 1)]) = (p, some (.oppositeLiterals 6 1)) ∧
      Rearranges [(3, 1), (6, -5)] [(-5, 6), (3, 1)] ∧
        (p.pool.declareEqualAll [(-5, 6), (3, 1)]).2 = .ok () := by
  intro commands p
  have refused : (p.pool.declareEqualAll [(3, 1), (5, 6), (6, 1)]).2 =
      .error (.oppositeLiterals 6 1) := by decide +kernel
  have rearranges : Rearranges [(3, 1), (6, -5)] [(-5, 6), (3, 1)] := by
    unfold Rearranges
    decide
  have short : LegiblePairs [(3, 1), (6, -5)] := legiblePairs_of_short (by decide)
  have recorded : (fresh {}).recorded commands = [(5, -3), (4, -1)] := by decide +kernel
  have met : ∀ e ∈ (fresh {}).recorded commands ++ [(3, 1), (6, -5)],
      Literal.holds (· ∈ [1, 3, 6]) e.1 = Literal.holds (· ∈ [1, 3, 6]) e.2 := by
    rw [recorded]
    decide
  obtain ⟨acceptance, order⟩ := (declareEqualAll_run_spec {} commands [(3, 1), (6, -5)] rfl).1 short
  have accepted := acceptance.mpr ⟨by decide, _, met⟩
  obtain ⟨front, x, y, back, middle, -, -, ⟨-, untouched⟩ | ⟨tooLong, -⟩⟩ :=
    (declareEqualAll_run_spec {} commands [(3, 1), (5, 6), (6, 1)] rfl).2.1 _ refused
  · exact ⟨untouched, rearranges, (order _ rearranges).1.mp accepted⟩
  · contradiction

/-- A declaration whose report cannot be written fails, and stays. -/
theorem not_declareEqualAll_restores :
    ¬ ∀ (pairs : List (Int × Int)) (e : Error),
      ((fresh {}).pool.declareEqualAll pairs).2 = .error e →
        ((fresh {}).pool.declareEqualAll pairs).1.equalities = (fresh {}).pool.equalities := by
  intro restored
  have untouched := restored [(Decimal.overlong, 1)] .numberTooLong (by decide +kernel)
  exact absurd untouched (by decide +kernel)

end Problem

end Clausal
