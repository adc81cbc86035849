import Mathlib.Logic.ExistsUnique
import Clausal.Proofs.Template.Naive

/-!
# Rows that differ at one position

Two rows over the same inputs can be merged exactly when they have the same output
and their patterns differ at one position and nowhere else.  The merged row has
zero at this position, so it does not matter which of the two comes first.  Over
bits that cover the output all three rows are true or false, and the merged one is
true when both others are.
-/

namespace Clausal.Template

/-! ## Patterns -/

/-- Two patterns differ at a position and nowhere else. -/
def DifferOnlyAt (p q : List Int) (k : Nat) : Prop :=
  p[k]? ≠ q[k]? ∧ ∀ i, i ≠ k → p[i]? = q[i]?

section

variable {p q merged : List Int} {a b : Int} {k : Nat}

theorem exists_differOnlyAt_iff :
    (∃ k, DifferOnlyAt p q k) ↔ ∃! k : Nat, p[k]? ≠ q[k]? := by
  apply exists_congr
  intro k
  apply and_congr_right
  intro _
  change (∀ i, ¬ i = k → p[i]? = q[i]?) ↔ ∀ i, ¬ p[i]? = q[i]? → i = k
  exact forall_congr' fun i => Decidable.not_imp_comm

theorem DifferOnlyAt.symm (differ : DifferOnlyAt p q k) : DifferOnlyAt q p k :=
  ⟨differ.1.symm, fun i elsewhere => (differ.2 i elsewhere).symm⟩

theorem differOnlyAt_zero_iff : DifferOnlyAt (a :: p) (b :: q) 0 ↔ a ≠ b ∧ p = q := by
  constructor
  · rintro ⟨different, same⟩
    refine ⟨fun sameSign => different (congrArg some sameSign), ?_⟩
    exact List.ext_getElem? fun i => same (i + 1) (Nat.succ_ne_zero i)
  · rintro ⟨different, rfl⟩
    refine ⟨fun sameSign => different (Option.some.inj sameSign), ?_⟩
    intro i elsewhere
    cases i with
    | zero => exact absurd rfl elsewhere
    | succ i => rfl

theorem differOnlyAt_succ_iff :
    DifferOnlyAt (a :: p) (b :: q) (k + 1) ↔ a = b ∧ DifferOnlyAt p q k := by
  constructor
  · rintro ⟨different, same⟩
    refine ⟨Option.some.inj (same 0 (Nat.succ_ne_zero k).symm), different, ?_⟩
    exact fun i elsewhere => same (i + 1) (mt Nat.succ.inj elsewhere)
  · rintro ⟨rfl, different, same⟩
    refine ⟨different, ?_⟩
    intro i elsewhere
    cases i with
    | zero => rfl
    | succ i => exact same i (mt (congrArg Nat.succ) elsewhere)

/-- Patterns are the same once the position where they differ is overwritten. -/
theorem DifferOnlyAt.set_eq (differ : DifferOnlyAt p q k) (sameLength : p.length = q.length)
    (sign : Int) : p.set k sign = q.set k sign := by
  apply List.ext_getElem?
  intro i
  rw [List.getElem?_set, List.getElem?_set, sameLength]
  split
  · rfl
  · rename_i elsewhere
    exact differ.2 i (Ne.symm elsewhere)

/-- Patterns merge when they differ at one position, which is then set to zero. -/
theorem mergePattern_eq_some_iff (sameLength : p.length = q.length) :
    mergePattern p q = some merged ↔ ∃ k, DifferOnlyAt p q k ∧ merged = p.set k 0 := by
  induction p generalizing q merged with
  | nil =>
      cases List.length_eq_zero_iff.mp sameLength.symm
      simp [mergePattern, DifferOnlyAt]
  | cons a p ih =>
      cases q with
      | nil => simp at sameLength
      | cons b q =>
          have restLength : p.length = q.length := by simpa using sameLength
          simp only [mergePattern, ← Nat.or_exists_add_one (p := fun k => DifferOnlyAt _ _ k ∧ _),
            differOnlyAt_zero_iff, differOnlyAt_succ_iff, agree_iff restLength]
          by_cases sameSign : a = b
          · subst sameSign
            rw [if_pos rfl, Option.map_eq_some_iff]
            constructor
            · rintro ⟨rest, found, rfl⟩
              obtain ⟨k, differ, rfl⟩ := (ih restLength).mp found
              exact Or.inr ⟨k, ⟨rfl, differ⟩, rfl⟩
            · rintro (⟨⟨different, -⟩, -⟩ | ⟨k, ⟨-, differ⟩, rfl⟩)
              · exact absurd rfl different
              · exact ⟨_, (ih restLength).mpr ⟨k, differ, rfl⟩, rfl⟩
          · rw [if_neg sameSign]
            by_cases sameRest : p = q
            · simp [sameSign, sameRest, eq_comm]
            · simp [sameSign, sameRest]

end

/-! ## Rows -/

section

variable {r s merged : Row} {width : Nat}

/-- Rows merge when they have the same output and differ at one position, which is
then set to zero. -/
theorem merge_eq_some_iff_differ (signed : r.Signed width) (otherSigned : s.Signed width) :
    merge r s = some merged ↔ r.output = s.output ∧
      ∃ k, DifferOnlyAt r.pattern s.pattern k ∧ merged = ⟨r.pattern.set k 0, r.output⟩ := by
  have sameLength := signed.length_pattern.trans otherSigned.length_pattern.symm
  rw [merge_eq_some_iff, mergePattern_eq_some_iff sameLength]
  apply and_congr_right
  intro _
  obtain ⟨pattern, output⟩ := merged
  simp only [Row.mk.injEq]
  constructor
  · rintro ⟨rfl, k, differ, rfl⟩
    exact ⟨k, differ, rfl, rfl⟩
  · rintro ⟨k, differ, rfl, rfl⟩
    exact ⟨rfl, k, differ, rfl⟩

theorem isSome_merge_iff (signed : r.Signed width) (otherSigned : s.Signed width) :
    (merge r s).isSome = true ↔
      r.output = s.output ∧ ∃! k : Nat, r.pattern[k]? ≠ s.pattern[k]? := by
  rw [Option.isSome_iff_exists, ← exists_differOnlyAt_iff]
  simp only [merge_eq_some_iff_differ signed otherSigned]
  constructor
  · rintro ⟨merged, sameOutput, k, differ, -⟩
    exact ⟨sameOutput, k, differ⟩
  · rintro ⟨sameOutput, k, differ⟩
    exact ⟨_, sameOutput, k, differ, rfl⟩

/-- What two rows merge into they merge into in the other order as well. -/
theorem merge_swap (signed : r.Signed width) (otherSigned : s.Signed width)
    (found : merge r s = some merged) : merge s r = some merged := by
  have sameLength := signed.length_pattern.trans otherSigned.length_pattern.symm
  obtain ⟨sameOutput, k, differ, rfl⟩ := (merge_eq_some_iff_differ signed otherSigned).mp found
  apply (merge_eq_some_iff_differ otherSigned signed).mpr
  refine ⟨sameOutput.symm, k, differ.symm, ?_⟩
  rw [differ.set_eq sameLength, sameOutput]

theorem merge_comm (signed : r.Signed width) (otherSigned : s.Signed width) :
    merge r s = merge s r := by
  apply Option.ext
  intro merged
  exact ⟨merge_swap signed otherSigned, merge_swap otherSigned signed⟩

/-- Over outputs that cover the rows a merged row is true when both rows are, and
false otherwise. -/
theorem holds_merge_eq (signed : r.Signed width) (otherSigned : s.Signed width)
    (found : merge r s = some merged) {outs : List Bool} (outsNe : outs ≠ [])
    (covered : r.output.natAbs ≤ outs.length) (ins : List Bool) :
    ∃ b c, r.holds ins outs = .ok b ∧ s.holds ins outs = .ok c ∧
      merged.holds ins outs = .ok (b && c) := by
  obtain ⟨sameOutput, outputEq, -⟩ := merge_eq_some_iff.mp found
  obtain ⟨b, first⟩ := r.exists_holds_eq outsNe covered ins
  obtain ⟨c, second⟩ := s.exists_holds_eq outsNe (sameOutput ▸ covered) ins
  obtain ⟨d, whole⟩ := merged.exists_holds_eq outsNe (outputEq ▸ covered) ins
  have together := holds_merge_iff signed otherSigned found ins outs
  rw [Row.Holds, Row.Holds, Row.Holds, first, second, whole] at together
  simp only [Except.ok.injEq] at together
  have both : d = (b && c) := by
    rw [Bool.eq_iff_iff, Bool.and_eq_true]
    exact together
  exact ⟨b, c, first, second, both ▸ whole⟩

/-- Two rows over the same inputs merge exactly when they have the same output and
differ at one position, and in either order into the same row.  This is the one
with zero at the position, and over bits that cover the output it is true exactly
when both rows are. -/
theorem merge_pair_spec (signed : r.Signed width) (otherSigned : s.Signed width) :
    ((merge r s).isSome = true ↔
      r.output = s.output ∧ ∃! k : Nat, r.pattern[k]? ≠ s.pattern[k]?) ∧
    merge r s = merge s r ∧
    ∀ merged, merge r s = some merged →
      (∃ k, DifferOnlyAt r.pattern s.pattern k ∧ merged = ⟨r.pattern.set k 0, r.output⟩) ∧
      ∀ ins outs : List Bool, outs ≠ [] → r.output.natAbs ≤ outs.length →
        ∃ b c, r.holds ins outs = .ok b ∧ s.holds ins outs = .ok c ∧
          merged.holds ins outs = .ok (b && c) := by
  refine ⟨isSome_merge_iff signed otherSigned, merge_comm signed otherSigned, ?_⟩
  intro merged found
  refine ⟨((merge_eq_some_iff_differ signed otherSigned).mp found).2, ?_⟩
  intro ins outs outsNe covered
  exact holds_merge_eq signed otherSigned found outsNe covered ins

/-- A row that subsumes the other one, which has a sign more at the last
position. -/
theorem merge_pair_spec_subsumed :
    let r : Row := ⟨[1, -1, 0], -2⟩
    let s : Row := ⟨[1, -1, 1], -2⟩
    r.Signed 3 ∧ s.Signed 3 ∧ merge s r = some r ∧ merge r s = merge s r ∧
      ∃ b c, r.holds [false, true, true] [false, true] = .ok b ∧
        s.holds [false, true, true] [false, true] = .ok c ∧
          r.holds [false, true, true] [false, true] = .ok (b && c) := by
  intro r s
  have signed : r.Signed 3 := by decide
  have otherSigned : s.Signed 3 := by decide
  have found : merge r s = some r := by decide
  obtain ⟨-, swapped, merged⟩ := merge_pair_spec signed otherSigned
  exact ⟨signed, otherSigned, swapped.symm.trans found, swapped,
    (merged r found).2 _ _ (by decide) (by decide)⟩

end

end Clausal.Template
