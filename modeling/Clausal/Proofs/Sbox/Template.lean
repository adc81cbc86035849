import Clausal.Proofs.Sbox
import Clausal.Proofs.Template.Levels

/-!
# Templates of compiled tables

The rows of a table are irredundant and every position in them matters.  Every
pass keeps the first and raises the second by one, so no row of a reduced
template subsumes another one, and a reduction without a limit ends after at
most one pass more than there are inputs.
-/

namespace Clausal.Sbox

open Template

variable {inputs outputs : Nat} {table : List Int}

/-- The reduction that a compiled box holds is that of the rows of its table. -/
theorem reduction_of_compile {reducer : Reducer} {box : Sbox}
    (compiled : compile inputs outputs table reducer = .ok box) :
    box.reduction = reducer.reduce (naive inputs outputs table) := by
  obtain ⟨rfl, rfl, rfl, rfl⟩ := fields_of_compile compiled
  exact box.reduction_eq

/-- No row of the template of a table subsumes a row at another position,
whatever the number of passes was.  In particular no row occurs twice. -/
theorem not_subsumes_template_compile (tableLength : table.length = Bits.span inputs)
    (tableRange : ∀ y ∈ table, 0 ≤ y ∧ y < Bits.span outputs) (limit : Option Int) :
    ∃ box, compile inputs outputs table (.greedy limit) = .ok box ∧
      (∀ (i j : Nat) (r s : Row), box.template[i]? = some r → box.template[j]? = some s →
        i ≠ j → ¬ r.Subsumes s) ∧
      box.template.Nodup := by
  obtain ⟨box, compiled, -⟩ := exists_compile_eq tableLength tableRange (.greedy limit)
  have irredundant : Irredundant box.template := by
    rw [template, reduction_of_compile compiled]
    exact (irredundant_naive (Nat.le_of_eq tableLength)).reduce
      (fun r rowMem => (fits_of_mem_naive rowMem).toSigned) _
  exact ⟨box, compiled, fun _ _ _ _ => irredundant.not_subsumes_of_ne, irredundant.nodup⟩

/-- After one of two passes over the rows of a table in which every second entry
is the same. -/
theorem not_subsumes_template_compile_alternating :
    ∃ box, compile 2 1 [1, 0, 1, 0] (.greedy (some 1)) = .ok box ∧
      (∀ (i j : Nat) (r s : Row), box.template[i]? = some r → box.template[j]? = some s →
        i ≠ j → ¬ r.Subsumes s) ∧
      box.template.Nodup :=
  not_subsumes_template_compile rfl (by decide) (some 1)

/-- The passes over the rows of a table, one after the other until one merges
nothing.  The pass number `count + 1` merges pairs of rows in each of which
exactly `count` positions do not matter, into rows in which one more does not,
and there are at most `inputs + 1` passes. -/
theorem dontCares_passes_compile (tableLength : table.length = Bits.span inputs)
    (tableRange : ∀ y ∈ table, 0 ≤ y ∧ y < Bits.span outputs) :
    ∃ box, compile inputs outputs table (.greedy none) = .ok box ∧
      box.template = afterPasses box.passes (naive inputs outputs table) ∧
      box.reduction.reports = ((List.range box.passes).map fun count =>
        passReport (afterPasses count (naive inputs outputs table))) ∧
      (∀ count, let rows := afterPasses count (naive inputs outputs table)
        (mergedPairs rows).map (fun e => merge e.1 e.2) = (pass rows).merged.map some ∧
          (∀ e ∈ mergedPairs rows, e.1.dontCares = count ∧ e.2.dontCares = count) ∧
            ∀ r ∈ (pass rows).merged, r.dontCares = count + 1) ∧
      box.passes ≤ inputs + 1 := by
  obtain ⟨box, compiled, -⟩ := exists_compile_eq tableLength tableRange (.greedy none)
  have reduction : box.reduction = repeatPasses none 0 (naive inputs outputs table) :=
    reduction_of_compile compiled
  have level : ∀ count, Level inputs count (afterPasses count (naive inputs outputs table)) :=
    level_afterPasses_naive (Nat.le_of_eq tableLength)
  refine ⟨box, compiled, ?template, ?reports, ?levels, ?bound⟩
  case template =>
    rw [template, passes, reduction]
    exact rows_repeatPasses none 0 _
  case reports =>
    rw [passes, reduction]
    exact reports_repeatPasses none 0 _
  case levels =>
    intro count
    exact ⟨map_merge_mergedPairs _, (level count).dontCares_mergedPairs,
      (level count).dontCares_merged⟩
  case bound =>
    rw [passes, reduction]
    exact passes_repeatPasses_le none 0 _ inputs (level inputs).merges_eq_zero

/-- Three inputs with one entry that is not zero.  The first row merges with its
three neighbours, and the rows that this leaves cannot be merged any more. -/
theorem dontCares_passes_compile_single :
    let table : List Int := [0, 0, 0, 0, 0, 0, 0, 1]
    table.length = Bits.span 3 ∧ (∀ y ∈ table, 0 ≤ y ∧ y < Bits.span 1) ∧
      ∃ box, compile 3 1 table (.greedy none) = .ok box ∧ box.passes ≤ 3 + 1 ∧
        ∀ count, ∀ r ∈ (pass (afterPasses count (naive 3 1 table))).merged,
          r.dontCares = count + 1 := by
  intro table
  have tableLength : table.length = Bits.span 3 := rfl
  have tableRange : ∀ y ∈ table, 0 ≤ y ∧ y < Bits.span 1 := by decide
  obtain ⟨box, compiled, -, -, levels, bound⟩ := dontCares_passes_compile tableLength tableRange
  exact ⟨tableLength, tableRange, box, compiled, bound, fun count => (levels count).2.2⟩

end Clausal.Sbox
