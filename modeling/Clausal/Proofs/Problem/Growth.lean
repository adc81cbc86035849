import Clausal.Proofs.Equalities.Growth
import Clausal.Proofs.Problem.Codes

/-!
# How the equalities of a problem grow

Whatever commands are carried out, the equalities of a problem grow by links
alone, so what they hold at one moment they hold ever after.  How many entries
there are is known from the recorded pairs: two for each of them that joined
classes which those before it did not relate.
-/

namespace Clausal.Problem

open Equalities

/-- After a run there are two entries for each recorded pair that joined classes. -/
theorem counts_run (settings : Settings) (commands : List Command) :
    ((fresh settings).run commands).pool.equalities.Counts
      ((fresh settings).recorded commands) := by
  have along := equalities_run_induction (p := fresh settings) (motive := Counts)
    (fun _ _ _ _ _ counts declared => counts.declare declared) Counts.empty commands
  exact along

/-- A run grows the equalities by links. -/
theorem growsTo_run {p : Problem} (wellFormed : p.pool.WellFormed) (commands : List Command) :
    p.pool.equalities.GrowsTo (p.run commands).pool.equalities := by
  apply wellFormed_run_induction (motive := fun a => p.pool.equalities.GrowsTo a.equalities)
    wellFormed
  · exact .refl
  · intro a pairs b before grows becomes
    exact grows.trans (before.forest.growsTo_declareAll becomes.declareAll)

/-- After any run opposite literals lead to opposite ones or both lead nowhere, and
what a literal leads to is not zero and of smaller magnitude.  A declaration then
fails and changes nothing, or succeeds and changes nothing because the two literals
are equal by the recorded pairs.  Otherwise these do not relate the literals, and
it adds the entries of one root and of its opposite, to the other root and to its
opposite, and succeeds if they can be reported.  Every longer run adds entries in
this way only and keeps those that there are.  No literal has two entries, and
there are twice as many as recorded pairs that joined two classes.  The recorded
pairs are those of the commands that succeeded, if all literals that are to be made
equal can be written. -/
theorem equalities_run_spec (settings : Settings) (commands : List Command) {p : Problem}
    (reached : (fresh settings).run commands = p) :
    (∀ key, p.pool.equalities.find? (-key) =
      (p.pool.equalities.find? key).map fun target => -target) ∧
    (∀ key target, p.pool.equalities.find? key = some target →
      target ≠ 0 ∧ target.natAbs < key.natAbs) ∧
    (∀ x y,
      (∃ e, p.pool.declareEqual x y = (p.pool, .error e)) ∨
      Follows ((fresh settings).recorded commands) x y ∧
        p.pool.declareEqual x y = (p.pool, .ok ()) ∨
      Unrelated ((fresh settings).recorded commands) x y ∧
        ∃ l m, p.pool.equalities.Joins x y l ∧ p.pool.equalities.Adds l m ∧
          p.pool.declareEqual x y =
            ({ p.pool with equalities := m }, Error.writing [x, y, l.source, l.target])) ∧
    (∀ others, p.pool.equalities.GrowsTo (p.run others).pool.equalities ∧
      ∀ key target, p.pool.equalities.find? key = some target →
        (p.run others).pool.equalities.find? key = some target) ∧
    (p.pool.equalities.entries.map Prod.fst).Nodup ∧
    p.pool.equalities.size = 2 * (joining ((fresh settings).recorded commands)).ncard ∧
    ((∀ c ∈ commands, LegiblePairs c.equated) →
      (fresh settings).recorded commands = (fresh settings).accepted commands) := by
  have counts := counts_run settings commands
  have wellFormed := wellFormed_run settings commands
  rw [reached] at counts wellFormed
  have forest := counts.forest
  refine ⟨forest.odd, fun _ _ => @forest.descends _ _, ?declaration, ?growth,
    counts.keys_nodup, counts.size_eq, recorded_eq_accepted forest_empty⟩
  case declaration =>
    intro x y
    rw [Variables.declareEqual]
    rcases counts.enter_cases x y with
      ⟨e, refused⟩ | ⟨follows, unchanged⟩ | ⟨unrelated, l, joins, adds, entered⟩
    · rw [refused]
      exact Or.inl ⟨e, rfl⟩
    · rw [unchanged]
      exact Or.inr (Or.inl ⟨follows, rfl⟩)
    · rw [entered]
      exact Or.inr (Or.inr ⟨unrelated, l, _, joins, adds, rfl⟩)
  case growth =>
    intro others
    have grows := growsTo_run wellFormed others
    exact ⟨grows, fun _ _ => grows.find?_of_some⟩

/-- An equality and a difference that join classes, around pairs that are refused
and before a pair that follows, and a further literal that has joined nothing. -/
theorem equalities_run_spec_joined :
    let commands : List Command :=
      [.declareEqual 5 (-3), .declareEqualAll [(3, 1), (1, -1)],
        .assertXorWithConstant [3] [2] 1, .declareEqual 2 5]
    let p := (fresh {}).run commands
    (joining ((fresh {}).accepted commands)).ncard = 2 ∧
      (∀ others, (p.run others).pool.equalities.find? 5 = some (-3)) ∧
      Unrelated ((fresh {}).accepted commands) 7 5 ∧
        (p.pool.declareEqual 7 5).2 = .ok () := by
  intro commands p
  have reached : (fresh {}).run commands = p := rfl
  have legible : ∀ c ∈ commands, LegiblePairs c.equated :=
    legiblePairs_equated_of_short (by decide)
  obtain ⟨-, -, declaration, growth, -, counted, same⟩ := equalities_run_spec {} commands reached
  rw [same legible] at declaration counted
  have size : p.pool.equalities.size = 4 := by decide +kernel
  have succeeded : (p.pool.declareEqual 7 5).2 = .ok () := by decide +kernel
  have changed : (p.pool.declareEqual 7 5).1 ≠ p.pool := by decide +kernel
  refine ⟨by omega, fun others => (growth others).2 5 (-3) (by decide +kernel), ?_, succeeded⟩
  rcases declaration 7 5 with ⟨e, unchanged⟩ | ⟨-, unchanged⟩ | ⟨unrelated, -⟩
  · rw [unchanged] at changed
    exact absurd rfl changed
  · rw [unchanged] at changed
    exact absurd rfl changed
  · exact unrelated

/-- A declaration whose report cannot be written adds two entries, and fails. -/
theorem not_size_counts_accepted :
    ¬ ∀ commands : List Command, ((fresh {}).run commands).pool.equalities.size =
      2 * (joining ((fresh {}).accepted commands)).ncard := by
  intro counted
  have twice := counted [.declareEqual Decimal.overlong 1]
  have nothing : (fresh {}).accepted [.declareEqual Decimal.overlong 1] = [] := by decide +kernel
  rw [nothing, joining_nil, Set.ncard_empty] at twice
  exact absurd twice (by decide +kernel)

end Clausal.Problem
