import Clausal.Proofs.Problem.Representatives

/-!
# Codes after a run

What every step of the variables keeps holds after any run.  So the variables are
well-formed then, the codes of a problem that can be reached number its
variables, and a code once given out stays that of its variable.
-/

namespace Clausal.Problem

variable {p : Problem}

/-- A property of the variables that every step keeps holds after a run if it
holds before. -/
theorem run_pool_induction {motive : Variables → Prop} (start : motive p.pool)
    (step : ∀ a pairs b, motive a → a.Becomes pairs b → motive b) (commands : List Command) :
    motive (p.run commands).pool := by
  induction commands generalizing p with
  | nil => exact start
  | cons c rest ih => exact ih (step _ _ _ start (p.becomes_perform c))

/-- A run keeps variables well-formed. -/
theorem wellFormed_pool_run (wellFormed : p.pool.WellFormed) (commands : List Command) :
    (p.run commands).pool.WellFormed :=
  run_pool_induction wellFormed (fun _ _ _ before becomes => becomes.wellFormed before) commands

/-- After any run the variables are well-formed. -/
theorem wellFormed_run (settings : Settings) (commands : List Command) :
    ((fresh settings).run commands).pool.WellFormed :=
  wellFormed_pool_run Variables.wellFormed_empty commands

/-- A property that every step of well-formed variables keeps holds after a run if
it holds before. -/
theorem wellFormed_run_induction {motive : Variables → Prop} (wellFormed : p.pool.WellFormed)
    (start : motive p.pool)
    (step : ∀ a pairs b, a.WellFormed → motive a → a.Becomes pairs b → motive b)
    (commands : List Command) : motive (p.run commands).pool := by
  have kept : (p.run commands).pool.WellFormed ∧ motive (p.run commands).pool := by
    apply run_pool_induction (motive := fun a => a.WellFormed ∧ motive a)
    · exact ⟨wellFormed, start⟩
    · rintro a pairs b ⟨before, reached⟩ becomes
      exact ⟨becomes.wellFormed before, step a pairs b before reached becomes⟩
  exact kept.2

/-- A run does not take variables away. -/
theorem size_le_run (p : Problem) (commands : List Command) :
    p.pool.size ≤ (p.run commands).pool.size :=
  run_pool_induction (motive := fun a => p.pool.size ≤ a.size) (Nat.le_refl _)
    (fun _ _ _ grown becomes => Nat.le_trans grown becomes.size_le) commands

/-- Valuations that respect the equalities after a run respected those before
it. -/
theorem respectedBy_of_run (wellFormed : p.pool.WellFormed) (commands : List Command)
    {s : Valuation} (respected : (p.run commands).pool.equalities.RespectedBy s) :
    p.pool.equalities.RespectedBy s :=
  wellFormed_run_induction
    (motive := fun a => a.equalities.RespectedBy s → p.pool.equalities.RespectedBy s)
    wellFormed id
    (fun _ _ _ before earlier becomes later => earlier (becomes.respectedBy before.forest later))
    commands respected

/-- A run keeps the families that there are. -/
theorem families_prefix_run (p : Problem) (commands : List Command) :
    p.pool.families <+: (p.run commands).pool.families :=
  run_pool_induction (motive := fun a => p.pool.families <+: a.families) List.prefix_rfl
    (fun _ _ _ grown becomes => grown.trans becomes.families_prefix) commands

/-- After any run the variables, each given by the name of a family and
coordinates within its dimensions, are numbered from one without gaps and
without a number twice.  The codes of a family are the numbers right after those
of the families declared before it, in the lexicographic order of the
coordinates.  After every longer run a variable still has its code. -/
theorem codeOf_run_spec (settings : Settings) (commands : List Command) {p : Problem}
    (reached : (fresh settings).run commands = p) :
    Set.BijOn (fun v => p.pool.codeOf v.1 v.2)
        {v : Text × List Int | p.pool.HasVariable v.1 v.2}
        (Except.ok '' {code : Int | 1 ≤ code ∧ code ≤ p.pool.size}) ∧
      (∀ name coordinates others code otherCode,
        p.pool.codeOf name coordinates = .ok code → p.pool.codeOf name others = .ok otherCode →
          (code < otherCode ↔ coordinates < others)) ∧
      (∀ (i : Nat) (f : Family), p.pool.families[i]? = some f →
        {code | ∃ coordinates, p.pool.codeOf f.name coordinates = .ok code} =
          {code : Int | Family.totalSize (p.pool.families.take i) < code ∧
            code ≤ Family.totalSize (p.pool.families.take i) + f.size}) ∧
      ∀ more name coordinates code, p.pool.codeOf name coordinates = .ok code →
        ((fresh settings).run (commands ++ more)).pool.codeOf name coordinates = .ok code := by
  have wellFormed := wellFormed_run settings commands
  rw [reached] at wellFormed
  refine ⟨wellFormed.codeOf_bijOn, ?order, ?blocks, ?stable⟩
  case order =>
    intro name coordinates others code otherCode coded otherCoded
    exact Variables.codeOf_lt_codeOf_iff coded otherCoded
  case blocks =>
    intro i f found
    exact wellFormed.codes_eq_block found
  case stable =>
    intro more name coordinates code coded
    rw [run_append, reached]
    exact Variables.codeOf_of_families_prefix (families_prefix_run p more) coded

/-- Two refused declarations, one of which uses up a generated name: the family
after them begins right after the first one, and stays there. -/
theorem codeOf_run_spec_refused :
    let commands : List Command :=
      [.declareFamily "key" (.ofInts [2, 3]), .declareFamily "key" (.ofInts [4]),
        .declareGenerated (.ofInts [5, 0]), .decode [1, -6], .declareEqual 9 (-1),
        .declareGenerated (.ofInts [2])]
    Set.BijOn (fun v => ((fresh {}).run commands).pool.codeOf v.1 v.2)
        {v : Text × List Int | ((fresh {}).run commands).pool.HasVariable v.1 v.2}
        (Except.ok '' {code : Int | 1 ≤ code ∧ code ≤ ((fresh {}).run commands).pool.size}) ∧
      ((fresh {}).run commands).pool.size = 8 ∧
      ∀ more, ((fresh {}).run (commands ++ more)).pool.codeOf "__anon__2" [0] = .ok 7 :=
  ⟨(codeOf_run_spec {} _ rfl).1, by decide +kernel, fun more =>
    (codeOf_run_spec {} _ rfl).2.2.2 more _ _ _ (by decide +kernel)⟩

end Clausal.Problem
