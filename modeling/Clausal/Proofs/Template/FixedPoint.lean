import Clausal.Proofs.Template.Levels
import Clausal.Proofs.Template.Positions

/-!
# Where repeated passes end

A pass that merges nothing keeps the rows in their order, and then no two of them
can be merged.  So the rows do not change any more, and passes that were stopped
before and are taken up again end with the same rows.

A pass that merges something leaves fewer rows, and at least one.  So there are
no more passes than rows, unless there is no row at all.  Merging only sets signs
to zero.
-/

namespace Clausal.Template

variable {rows : List Row}

/-! ## A pass that merges nothing -/

/-- A pass that merges nothing leaves the rows as they were. -/
theorem pass_of_merges_eq_zero (final : (pass rows).merges = 0) : pass rows = ⟨[], rows⟩ := by
  have noMerged : (pass rows).merged = [] := List.length_eq_zero_iff.mp final
  have noMerge : mergesOf rows = [] :=
    List.length_eq_zero_iff.mp ((length_mergesOf rows).trans final)
  have count := length_rows_pass_add_card rows
  rw [noMerge, Pass.rows, noMerged] at count
  have kept : (pass rows).kept = rows := (kept_sublist rows).eq_of_length count
  calc pass rows = ⟨(pass rows).merged, (pass rows).kept⟩ := rfl
    _ = ⟨[], rows⟩ := by rw [noMerged, kept]

theorem rows_pass_of_merges_eq_zero (final : (pass rows).merges = 0) : (pass rows).rows = rows := by
  rw [pass_of_merges_eq_zero final, Pass.rows, List.nil_append]

/-- If a pass merges nothing, no row can be merged with a later one. -/
theorem pairwise_of_merges_eq_zero (final : (pass rows).merges = 0) :
    rows.Pairwise fun r s => merge r s = none := by
  have kept := pairwise_kept_pass rows
  rwa [pass_of_merges_eq_zero final] at kept

/-- A pass that merges something leaves some row. -/
theorem rows_pass_ne_nil (merging : (pass rows).merges ≠ 0) : (pass rows).rows ≠ [] := by
  intro empty
  exact merging (List.length_eq_zero_iff.mpr (List.append_eq_nil_iff.mp empty).1)

/-! ## The rows that passes end with -/

theorem afterPasses_add (count more : Nat) (rows : List Row) :
    afterPasses (count + more) rows = afterPasses more (afterPasses count rows) := by
  induction more with
  | zero => rfl
  | succ more ih => rw [← Nat.add_assoc, afterPasses_succ, afterPasses_succ, ih]

theorem afterPasses_of_merges_eq_zero (final : (pass rows).merges = 0) (count : Nat) :
    afterPasses count rows = rows := by
  induction count with
  | zero => rfl
  | succ count ih => rw [afterPasses_succ, ih, rows_pass_of_merges_eq_zero final]

/-- Rows that a pass does not change are the same, after however many passes they
are reached. -/
theorem afterPasses_eq_of_merges_eq_zero {count other : Nat}
    (final : (pass (afterPasses count rows)).merges = 0)
    (otherFinal : (pass (afterPasses other rows)).merges = 0) :
    afterPasses count rows = afterPasses other rows := by
  rcases Nat.le_total count other with le | le
  · obtain ⟨more, rfl⟩ := Nat.exists_eq_add_of_le le
    rw [afterPasses_add, afterPasses_of_merges_eq_zero final]
  · obtain ⟨more, rfl⟩ := Nat.exists_eq_add_of_le le
    rw [afterPasses_add, afterPasses_of_merges_eq_zero otherFinal]

/-- Passes without a limit end with rows in which nothing can be merged. -/
theorem merges_repeatPasses (done : Nat) (rows : List Row) :
    (pass (repeatPasses none done rows).rows).merges = 0 := by
  induction done, rows using repeatPasses.induct none with
  | case1 done rows allowed p merging ih =>
      rw [repeatPasses_of_merging allowed merging]
      exact ih
  | case2 done rows allowed p noMerge =>
      have final : (pass rows).merges = 0 := Decidable.not_not.mp noMerge
      rw [repeatPasses_of_final allowed final, rows_pass_of_merges_eq_zero final, final]
  | case3 done rows spent => exact absurd rfl spent

/-- Up to the limit there are as many passes as without one. -/
theorem passes_repeatPasses_eq_min (most : Int) (done others : Nat) (rows : List Row) :
    (repeatPasses (some most) done rows).passes =
      min (most - done).toNat (repeatPasses none others rows).passes := by
  induction done, rows using repeatPasses.induct (some most) generalizing others with
  | case1 done rows allowed p merging ih =>
      have below : (done : Int) < most := of_decide_eq_true allowed
      have later : (repeatPasses (some most) (done + 1) (pass rows).rows).passes =
          min (most - (done + 1 : Nat)).toNat
            (repeatPasses none (others + 1) (pass rows).rows).passes := ih (others + 1)
      rw [repeatPasses_of_merging allowed merging, repeatPasses_of_merging rfl merging]
      simp only [Reduction.passes, List.length_cons] at later ⊢
      omega
  | case2 done rows allowed p noMerge =>
      have below : (done : Int) < most := of_decide_eq_true allowed
      have final : (pass rows).merges = 0 := Decidable.not_not.mp noMerge
      rw [repeatPasses_of_final allowed final, repeatPasses_of_final rfl final]
      simp only [Reduction.passes, List.length_singleton]
      omega
  | case3 done rows spent =>
      have reached : ¬ (done : Int) < most := fun below => spent (decide_eq_true below)
      rw [repeatPasses_of_spent spent]
      simp only [Reduction.passes, List.length_nil]
      omega

namespace Reducer

theorem merges_reduce_greedy (rows : List Row) :
    (pass ((greedy none).reduce rows).rows).merges = 0 :=
  merges_repeatPasses 0 rows

/-- Taking up the passes after some number of them ends with the same rows. -/
theorem reduce_greedy_afterPasses (count : Nat) (rows : List Row) :
    ((greedy none).reduce (afterPasses count rows)).rows = ((greedy none).reduce rows).rows := by
  -- Both are rows after some number of passes that one more does not change.
  have final := merges_reduce_greedy (afterPasses count rows)
  have direct := merges_reduce_greedy rows
  rw [reduce, rows_repeatPasses] at direct ⊢
  rw [reduce, rows_repeatPasses, ← afterPasses_add] at final ⊢
  exact afterPasses_eq_of_merges_eq_zero final direct

/-- Passes without a limit end with rows that a pass does not change and in which
no row can be merged with a later one, and reducing these once more changes
nothing.  A limited number of passes is the whole number of them or as many as
are allowed, and the passes after them end with the same rows. -/
theorem reduce_greedy_stable (rows : List Row) :
    let final := (greedy none).reduce rows
    (pass final.rows).merges = 0 ∧ (pass final.rows).rows = final.rows ∧
      mergesOf final.rows = [] ∧
      (final.rows.Pairwise fun r s => merge r s = none) ∧
      (∀ k : Nat,
        let limited := (greedy (some k)).reduce rows
        ((greedy none).reduce limited.rows).rows = final.rows ∧
          limited.passes = min k final.passes) ∧
      ((greedy none).reduce final.rows).rows = final.rows := by
  intro final
  have noMerge : (pass final.rows).merges = 0 := merges_reduce_greedy rows
  refine ⟨noMerge, rows_pass_of_merges_eq_zero noMerge, ?loops, pairwise_of_merges_eq_zero noMerge,
    ?limited, ?again⟩
  case loops => exact List.length_eq_zero_iff.mp ((length_mergesOf final.rows).trans noMerge)
  case limited =>
    intro k limited
    constructor
    · have reached : limited.rows = afterPasses limited.passes rows :=
        rows_repeatPasses (some k) 0 rows
      rw [reached]
      exact reduce_greedy_afterPasses limited.passes rows
    · exact passes_repeatPasses_eq_min k 0 0 rows
  case again =>
    have reached : final.rows = afterPasses final.passes rows := rows_repeatPasses none 0 rows
    calc ((greedy none).reduce final.rows).rows
        = ((greedy none).reduce (afterPasses final.passes rows)).rows := by rw [reached]
      _ = final.rows := reduce_greedy_afterPasses final.passes rows

end Reducer

/-! ## How many passes there are -/

/-- Each pass but the last one leaves fewer rows, and at least one. -/
theorem passes_repeatPasses_le_length (limit : Option Int) (done : Nat) (rows : List Row) :
    (repeatPasses limit done rows).passes ≤ max 1 rows.length := by
  induction done, rows using repeatPasses.induct limit with
  | case1 done rows allowed p merging ih =>
      have later : (repeatPasses limit (done + 1) (pass rows).rows).passes ≤
          max 1 (pass rows).rows.length := ih
      have fewer := length_rows_pass_lt merging
      have someRow := List.length_pos_iff.mpr (rows_pass_ne_nil merging)
      rw [repeatPasses_of_merging allowed merging]
      simp only [Reduction.passes, List.length_cons] at later ⊢
      omega
  | case2 done rows allowed p noMerge =>
      rw [repeatPasses_of_final allowed (Decidable.not_not.mp noMerge)]
      exact Nat.le_max_left 1 rows.length
  | case3 done rows spent =>
      rw [repeatPasses_of_spent spent]
      exact Nat.zero_le _

/-! ## What rows become -/

/-- A pattern with some positions set to zero. -/
inductive Zeroed : List Int → List Int → Prop
  | nil : Zeroed [] []
  | same (a : Int) {p q : List Int} : Zeroed p q → Zeroed (a :: p) (a :: q)
  | zero (a : Int) {p q : List Int} : Zeroed p q → Zeroed (0 :: p) (a :: q)

namespace Zeroed

variable {p q r : List Int}

theorem refl (p : List Int) : Zeroed p p := by
  induction p with
  | nil => exact .nil
  | cons a p ih => exact .same a ih

theorem trans (first : Zeroed p q) (second : Zeroed q r) : Zeroed p r := by
  induction second generalizing p with
  | nil => exact first
  | same a _ ih =>
      cases first with
      | same _ rest => exact .same a (ih rest)
      | zero _ rest => exact .zero a (ih rest)
  | zero a _ ih =>
      cases first with
      | same _ rest => exact .zero a (ih rest)
      | zero _ rest => exact .zero a (ih rest)

theorem signsWithin (zeroed : Zeroed p q) : SignsWithin p q := by
  induction zeroed with
  | nil => exact fun _ _ found _ => found
  | same a _ ih => exact ih.cons a
  | zero a _ ih =>
      intro k sign found signNe
      cases k with
      | zero => exact absurd (Option.some.inj found).symm signNe
      | succ k => exact ih k sign found signNe

theorem countP_le (zeroed : Zeroed p q) : p.countP (· ≠ 0) ≤ q.countP (· ≠ 0) := by
  induction zeroed with
  | nil => exact Nat.le_refl _
  | same a _ ih =>
      rw [List.countP_cons, List.countP_cons]
      exact Nat.add_le_add_right ih _
  | zero a _ ih =>
      rw [List.countP_cons, List.countP_cons]
      exact Nat.add_le_add ih (Nat.zero_le _)

end Zeroed

/-- Merging sets a position of the first pattern to zero. -/
theorem zeroed_mergePattern {p q merged : List Int} (found : mergePattern p q = some merged) :
    Zeroed merged p := by
  induction p generalizing q merged with
  | nil => simp [mergePattern] at found
  | cons a p ih =>
      cases q with
      | nil => simp [mergePattern] at found
      | cons b q =>
          rw [mergePattern] at found
          split at found
          · obtain ⟨rest, restFound, rfl⟩ := Option.map_eq_some_iff.mp found
            exact .same a (ih restFound)
          · split at found
            · cases found
              exact .zero a (.refl p)
            · contradiction

namespace Row

/-- A row that is another one with some positions set to zero. -/
structure ZeroedFrom (r o : Row) : Prop where
  output_eq : r.output = o.output
  pattern : Zeroed r.pattern o.pattern

namespace ZeroedFrom

variable {r s o : Row}

theorem refl (r : Row) : r.ZeroedFrom r :=
  ⟨rfl, .refl r.pattern⟩

theorem merge {merged : Row} (zeroed : r.ZeroedFrom o) (found : Template.merge r s = some merged) :
    merged.ZeroedFrom o := by
  obtain ⟨-, outputEq, patternFound⟩ := merge_eq_some_iff.mp found
  exact ⟨outputEq.trans zeroed.output_eq, (zeroed_mergePattern patternFound).trans zeroed.pattern⟩

theorem subsumes (zeroed : r.ZeroedFrom o) : r.Subsumes o :=
  ⟨zeroed.output_eq, zeroed.pattern.signsWithin⟩

theorem literalCount_le (zeroed : r.ZeroedFrom o) : r.literalCount ≤ o.literalCount :=
  Nat.succ_le_succ zeroed.pattern.countP_le

end ZeroedFrom

end Row

/-- Every reduced row is some row with positions set to zero. -/
theorem Reducer.exists_zeroedFrom (reducer : Reducer) (rows : List Row) :
    ∀ r ∈ (reducer.reduce rows).rows, ∃ o ∈ rows, r.ZeroedFrom o := by
  refine reducer.forall_mem_reduce (P := fun r => ∃ o ∈ rows, r.ZeroedFrom o) ?merged ?given
  case merged =>
    rintro r s row ⟨o, rowMem, zeroed⟩ - found
    exact ⟨o, rowMem, zeroed.merge found⟩
  case given => exact fun r rowMem => ⟨r, rowMem, .refl r⟩

/-- Passes without a limit are no more than there are rows, or one.  A pass leaves
as many rows fewer as come first in one of its merges, so fewer if it merges
anything, and then at least one.  Every reduced row is some row with positions
set to zero, and has no literal that this one has not. -/
theorem Reducer.passes_reduce_greedy_le (rows : List Row) :
    ((greedy none).reduce rows).passes ≤ max 1 rows.length ∧
    (∀ others : List Row,
      passByPosition others = pass others ∧
      (pass others).rows.length + (leading (mergesOf others)).card = others.length ∧
      ((pass others).merges ≠ 0 →
        (pass others).rows ≠ [] ∧ (pass others).rows.length < others.length)) ∧
    ∀ limit, ∀ r ∈ ((greedy limit).reduce rows).rows,
      ∃ o ∈ rows, r.ZeroedFrom o ∧ r.Subsumes o ∧ r.literalCount ≤ o.literalCount := by
  refine ⟨passes_repeatPasses_le_length none 0 rows, ?onePass, ?rows⟩
  case onePass =>
    intro others
    exact ⟨passByPosition_eq others, length_rows_pass_add_card others,
      fun merging => ⟨rows_pass_ne_nil merging, length_rows_pass_lt merging⟩⟩
  case rows =>
    intro limit r rowMem
    obtain ⟨o, before, zeroed⟩ := (greedy limit).exists_zeroedFrom rows r rowMem
    exact ⟨o, before, zeroed, zeroed.subsumes, zeroed.literalCount_le⟩

/-- The first of three rows merges with both others, so two rows are left. -/
theorem Reducer.passes_reduce_greedy_le_partners :
    let rows : List Row := [⟨[1, 1], 1⟩, ⟨[1, -1], 1⟩, ⟨[-1, 1], 1⟩]
    let row : Row := ⟨[0, 1], 1⟩
    (pass rows).merges ≠ 0 ∧ leading (mergesOf rows) = {0} ∧
      (pass rows).rows.length + 1 = 3 ∧ (pass rows).rows.length < 3 ∧
      row ∈ ((greedy (some 1)).reduce rows).rows ∧ (∃ o ∈ rows, row.ZeroedFrom o) ∧
      ((greedy none).reduce rows).passes ≤ 3 := by
  intro rows row
  have merging : (pass rows).merges ≠ 0 := by decide +kernel
  have first : leading (mergesOf rows) = {0} := by decide
  have rowMem : row ∈ ((greedy (some 1)).reduce rows).rows := by decide +kernel
  obtain ⟨bound, onePass, zeroed⟩ := Reducer.passes_reduce_greedy_le rows
  obtain ⟨-, count, fewer⟩ := onePass rows
  obtain ⟨o, before, fromRow, -⟩ := zeroed (some 1) row rowMem
  rw [first] at count
  exact ⟨merging, first, count, (fewer merging).2, rowMem, ⟨o, before, fromRow⟩, bound⟩

end Clausal.Template
