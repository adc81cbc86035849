import Clausal.Proofs.Template.Naive

/-!
# Reductions as repeated passes

A reduction goes through the rows again and again, and what it leaves are the
rows after as many passes as it reports.  It stops at the first pass that
merges nothing.

Whatever the rows are, a reduction keeps their meaning: over bits that cover
them every row is true or false, before and after, and the rows that are left
are all true exactly when the given ones were.
-/

namespace Clausal.Template

/-! ## The passes of a reduction -/

/-- The rows after a number of passes. -/
def afterPasses : Nat → List Row → List Row
  | 0, rows => rows
  | count + 1, rows => afterPasses count (pass rows).rows

/-- The report of the pass over some rows. -/
def passReport (rows : List Row) : PassReport :=
  ⟨rows.length, (pass rows).rows.length, (pass rows).merges⟩

section

variable {limit : Option Int} {done : Nat} {rows : List Row}

theorem repeatPasses_of_merging (allowed : allows limit done = true)
    (merging : (pass rows).merges ≠ 0) :
    repeatPasses limit done rows =
      ⟨(repeatPasses limit (done + 1) (pass rows).rows).rows,
        passReport rows :: (repeatPasses limit (done + 1) (pass rows).rows).reports⟩ := by
  rw [repeatPasses, if_pos allowed, dif_pos merging]
  rfl

theorem repeatPasses_of_final (allowed : allows limit done = true)
    (final : (pass rows).merges = 0) :
    repeatPasses limit done rows = ⟨(pass rows).rows, [passReport rows]⟩ := by
  rw [repeatPasses, if_pos allowed, dif_neg (not_not_intro final)]
  rfl

theorem repeatPasses_of_spent (spent : ¬ allows limit done = true) :
    repeatPasses limit done rows = ⟨rows, []⟩ := by
  rw [repeatPasses, if_neg spent]

end

/-- One more pass at the end is one over the rows after the others. -/
theorem afterPasses_succ (count : Nat) (rows : List Row) :
    afterPasses (count + 1) rows = (pass (afterPasses count rows)).rows := by
  induction count generalizing rows with
  | zero => rfl
  | succ count ih =>
      rw [afterPasses, ih]
      rfl

/-- What every pass keeps holds after any number of them. -/
theorem afterPasses_induction {P : Nat → List Row → Prop} {rows : List Row} (start : P 0 rows)
    (step : ∀ count others, P count others → P (count + 1) (pass others).rows) (count : Nat) :
    P count (afterPasses count rows) := by
  induction count with
  | zero => exact start
  | succ count ih =>
      rw [afterPasses_succ]
      exact step count _ ih

/-- Repeated passes leave the rows after as many passes as they report. -/
theorem rows_repeatPasses (limit : Option Int) (done : Nat) (rows : List Row) :
    (repeatPasses limit done rows).rows =
      afterPasses (repeatPasses limit done rows).passes rows := by
  induction done, rows using repeatPasses.induct limit with
  | case1 done rows allowed p merging ih =>
      rw [repeatPasses_of_merging allowed merging]
      exact ih
  | case2 done rows allowed p final =>
      rw [repeatPasses_of_final allowed (Decidable.not_not.mp final)]
      rfl
  | case3 done rows spent =>
      rw [repeatPasses_of_spent spent]
      rfl

/-- The reports of repeated passes are those of the passes one after the
other. -/
theorem reports_repeatPasses (limit : Option Int) (done : Nat) (rows : List Row) :
    (repeatPasses limit done rows).reports =
      (List.range (repeatPasses limit done rows).passes).map fun count =>
        passReport (afterPasses count rows) := by
  induction done, rows using repeatPasses.induct limit with
  | case1 done rows allowed p merging ih =>
      rw [repeatPasses_of_merging allowed merging]
      simp only [Reduction.passes, List.length_cons, List.range_succ_eq_map, List.map_cons,
        List.map_map] at ih ⊢
      exact congrArg _ ih
  | case2 done rows allowed p final =>
      rw [repeatPasses_of_final allowed (Decidable.not_not.mp final)]
      rfl
  | case3 done rows spent =>
      rw [repeatPasses_of_spent spent]
      rfl

/-- Passes end at the latest with the first one that merges nothing. -/
theorem passes_repeatPasses_le (limit : Option Int) (done : Nat) (rows : List Row) :
    ∀ count, (pass (afterPasses count rows)).merges = 0 →
      (repeatPasses limit done rows).passes ≤ count + 1 := by
  induction done, rows using repeatPasses.induct limit with
  | case1 done rows allowed p merging ih =>
      intro count final
      rw [repeatPasses_of_merging allowed merging]
      cases count with
      | zero => exact absurd final merging
      | succ count => exact Nat.succ_le_succ (ih count final)
  | case2 done rows allowed p noMerge =>
      intro count _
      rw [repeatPasses_of_final allowed (Decidable.not_not.mp noMerge)]
      exact Nat.le_add_left 1 count
  | case3 done rows spent =>
      intro count _
      rw [repeatPasses_of_spent spent]
      exact Nat.zero_le _

/-! ## What a reduction keeps -/

/-- What every pass keeps is kept by every reducer. -/
theorem Reducer.reduce_induction {P : List Row → Prop}
    (step : ∀ rows, P rows → P (pass rows).rows) (reducer : Reducer) {rows : List Row}
    (start : P rows) : P (reducer.reduce rows).rows := by
  cases reducer with
  | identity => exact start
  | greedy limit =>
      rw [Reducer.reduce, rows_repeatPasses]
      exact afterPasses_induction (P := fun _ => P) start (fun _ => step) _

/-- What merging keeps holds of all rows of a reduction. -/
theorem Reducer.forall_mem_reduce {P : Row → Prop}
    (kept : ∀ r s merged, P r → P s → merge r s = some merged → P merged)
    (reducer : Reducer) {rows : List Row} (all : ∀ r ∈ rows, P r) :
    ∀ r ∈ (reducer.reduce rows).rows, P r :=
  reducer.reduce_induction (P := fun others => ∀ r ∈ others, P r)
    (fun _ => forall_mem_pass kept) all

/-- A reduction keeps what the rows say together. -/
theorem Reducer.forall_holds_reduce_iff (reducer : Reducer) {width : Nat} {rows : List Row}
    (signed : ∀ r ∈ rows, r.Signed width) (inputs outputs : List Bool) :
    (∀ r ∈ (reducer.reduce rows).rows, r.Holds inputs outputs) ↔
      ∀ r ∈ rows, r.Holds inputs outputs := by
  have kept := reducer.reduce_induction
    (P := fun others => (∀ r ∈ others, r.Signed width) ∧
      ((∀ r ∈ others, r.Holds inputs outputs) ↔ ∀ r ∈ rows, r.Holds inputs outputs))
    (fun others ⟨othersSigned, same⟩ =>
      ⟨signed_pass othersSigned,
        (forall_holds_pass_iff othersSigned inputs outputs).trans same⟩)
    ⟨signed, Iff.rfl⟩
  exact kept.2

/-- A row that fits is true or false over the outputs. -/
theorem Row.Fits.exists_holds_eq {width : Nat} {r : Row} {outs : List Bool}
    (fits : r.Fits width outs.length) (ins : List Bool) : ∃ b, r.holds ins outs = .ok b := by
  obtain ⟨out, outMem, -⟩ := fits.exists_getElem?_eq
  exact Row.exists_holds_eq (List.ne_nil_of_mem outMem) fits.output_le ins

/-- Any rows over the same inputs and their reduction, with or without a limit
on the passes, are true or false over bits that cover them, and all rows of the
reduction are true exactly when all the given ones are. -/
theorem Reducer.holds_reduce_greedy_iff (limit : Option Int) {width : Nat} {rows : List Row}
    {ins outs : List Bool} (fits : ∀ r ∈ rows, r.Fits width outs.length) :
    (∀ r ∈ rows, ∃ b, r.holds ins outs = .ok b) ∧
    (∀ r ∈ ((Reducer.greedy limit).reduce rows).rows, ∃ b, r.holds ins outs = .ok b) ∧
    ((∀ r ∈ ((Reducer.greedy limit).reduce rows).rows, r.holds ins outs = .ok true) ↔
      ∀ r ∈ rows, r.holds ins outs = .ok true) := by
  have reducedFits := (Reducer.greedy limit).forall_mem_reduce
    (fun _ _ _ first _ found => Row.Fits.merge first found) fits
  refine ⟨fun r rowMem => (fits r rowMem).exists_holds_eq ins,
    fun r rowMem => (reducedFits r rowMem).exists_holds_eq ins, ?_⟩
  exact (Reducer.greedy limit).forall_holds_reduce_iff
    (fun r rowMem => (fits r rowMem).toSigned) ins outs

/-- A row that occurs twice, one with a position that does not matter and one
for another output, reduced by at most two passes. -/
theorem Reducer.holds_reduce_greedy_iff_twice :
    let rows : List Row := [⟨[1, -1], 1⟩, ⟨[0, -1], 1⟩, ⟨[1, -1], 1⟩, ⟨[1, 1], 1⟩, ⟨[1, 1], -2⟩]
    (∀ r ∈ rows, r.Fits 2 2) ∧
      ((∀ r ∈ ((Reducer.greedy (some 2)).reduce rows).rows,
        r.holds [false, true] [false, true] = .ok true) ↔
          ∀ r ∈ rows, r.holds [false, true] [false, true] = .ok true) := by
  intro rows
  have fits : ∀ r ∈ rows, r.Fits 2 2 := by decide
  exact ⟨fits, (Reducer.holds_reduce_greedy_iff (some 2) fits).2.2⟩

end Clausal.Template
