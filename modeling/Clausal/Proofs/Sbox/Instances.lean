import Mathlib.Data.List.Forall2
import Clausal.Proofs.Sbox

/-!
# Instances of templates

A box holds what compiling its table gives.  Each row of its template has a sign or
zero for each input and names one of the outputs.  So over any literals there is
one clause for each row, in the order of the rows, and each clause is the instance
of the row at its place.
-/

namespace Clausal

/-- The results of some operations go with the members that they are for. -/
theorem Outcome.forall₂_of_mapM {ε α β : Type} {f : α → Except ε β} {R : α → β → Prop}
    {xs : List α} {ys : List β} (made : xs.mapM f = .ok ys)
    (results : ∀ x ∈ xs, ∀ y, f x = .ok y → R x y) : List.Forall₂ R xs ys := by
  have outcomes : List.Forall₂ (fun x y => f x = .ok y) xs ys := by
    have placed := mapM_eq_ok_iff.mp made
    rw [← List.forall₂_eq_eq_eq, List.forall₂_map_left_iff, List.forall₂_map_right_iff] at placed
    exact placed
  have members := (List.forall₂_and_left _ _).mpr ⟨results, outcomes⟩
  exact members.imp fun x y together => together.1 y together.2

namespace Sbox

open Template

/-! ## What a box holds -/

/-- Boxes are the same when they were made from the same. -/
theorem eq_of_fields {box other : Sbox} (inputs : other.inputs = box.inputs)
    (outputs : other.outputs = box.outputs) (table : other.table = box.table)
    (reducer : other.reducer = box.reducer) : other = box := by
  obtain ⟨_, _, _, _, _, _, _, reductionEq⟩ := box
  obtain ⟨_, _, _, _, _, _, _, otherReductionEq⟩ := other
  cases inputs
  cases outputs
  cases table
  cases reducer
  cases reductionEq
  cases otherReductionEq
  rfl

/-- A box is what compiling its table gives. -/
theorem compile_self (box : Sbox) :
    compile box.inputs box.outputs box.table box.reducer = .ok box := by
  obtain ⟨other, compiled, -⟩ := exists_compile_eq box.length_table box.table_range box.reducer
  obtain ⟨inputs, outputs, table, reducer⟩ := fields_of_compile compiled
  rw [compiled, eq_of_fields inputs outputs table reducer]

theorem eq_of_checkOutputs {inputs outputs passed : Nat} {table : List Int}
    (checked : checkOutputs inputs outputs table = .ok passed) : passed = outputs := by
  rw [checkOutputs] at checked
  split at checked
  · exact Bits.eq_of_checkWidth checked
  · exact (Except.ok.inj checked).symm

/-- A box made from entries that have not been checked has the widths that it was
given. -/
theorem widths_of_compileFrom {inputs outputs : Int} {entries : Value} {reducer : Reducer}
    {box : Sbox} (compiled : compileFrom inputs outputs entries reducer = .ok box) :
    (box.inputs : Int) = inputs ∧ (box.outputs : Int) = outputs := by
  rw [compileFrom] at compiled
  split at compiled
  · contradiction
  · rename_i nonnegative
    split at compiled
    · contradiction
    · obtain ⟨table, -, rest⟩ := Outcome.bind_eq_ok_iff.mp compiled
      obtain ⟨width, checked, rest⟩ := Outcome.bind_eq_ok_iff.mp rest
      obtain ⟨otherWidth, otherChecked, made⟩ := Outcome.bind_eq_ok_iff.mp rest
      obtain ⟨inputsEq, outputsEq, -⟩ := fields_of_compile made
      rw [inputsEq, outputsEq, eq_of_checkOutputs otherChecked, Bits.eq_of_checkWidth checked]
      omega

/-! ## The clauses of a box -/

/-- A box is what compiling its table gives, for the widths that were asked for.
Every row of its template has a sign or zero for each input and names one of the
outputs.  Over any literals as inputs and outputs there are clauses, one for each
row in the order of the rows: the clause at a place has as many literals as the row
at this place, none of them zero, and is true or false as the row is of the values
of the literals. -/
theorem image_instances_spec (box : Sbox) :
    compile box.inputs box.outputs box.table box.reducer = .ok box ∧
    (∀ inputs outputs entries reducer, compileFrom inputs outputs entries reducer = .ok box →
      (box.inputs : Int) = inputs ∧ (box.outputs : Int) = outputs) ∧
    (∀ r ∈ box.template, r.pattern.length = box.inputs ∧ (∀ sign ∈ r.pattern, IsSign sign) ∧
      1 ≤ r.output.natAbs ∧ r.output.natAbs ≤ box.outputs) ∧
    ∀ ins outs : List Int, ins.length = box.inputs → outs.length = box.outputs →
      (∀ lit ∈ ins, lit ≠ 0) → (∀ lit ∈ outs, lit ≠ 0) →
        ∃ clauses, box.image ins outs = .ok clauses ∧
          List.Forall₂ (IsInstance ins outs) box.template clauses := by
  refine ⟨box.compile_self, fun _ _ _ _ => widths_of_compileFrom, ?rows, ?clauses⟩
  case rows =>
    intro r rowMem
    have fits := fits_of_mem_template rowMem
    exact ⟨fits.length_pattern, fits.signs, Int.natAbs_pos.mpr fits.output_ne, fits.output_le⟩
  case clauses =>
    intro ins outs insLength outsLength insNe outsNe
    obtain ⟨clauses, imaged, made, instances⟩ :=
      box.exists_image_eq_mapM insLength outsLength insNe outsNe
    exact ⟨clauses, imaged, Outcome.forall₂_of_mapM made instances⟩

/-- A literal and its opposite as inputs, for a table whose reduced rows leave out
one of them. -/
theorem image_instances_spec_opposites :
    ∃ box clauses, compile 2 1 [0, 0, 1, 1] (.greedy none) = .ok box ∧
      box.template = [⟨[1, 0], -1⟩, ⟨[-1, 0], 1⟩] ∧
      box.image [4, -4] [-7] = .ok clauses ∧
      List.Forall₂ (IsInstance [4, -4] [-7]) box.template clauses := by
  have range : ∀ y : Int, y ∈ [0, 0, 1, 1] → 0 ≤ y ∧ y < Bits.span 1 := by decide
  obtain ⟨box, compiled, inputs, outputs, -⟩ :=
    @exists_compile_eq 2 1 [0, 0, 1, 1] rfl range (.greedy none)
  obtain ⟨-, -, -, instances⟩ := image_instances_spec box
  obtain ⟨clauses, imaged, eachRow⟩ :=
    instances [4, -4] [-7] inputs.symm outputs.symm (by decide) (by decide)
  refine ⟨box, clauses, compiled, ?_, imaged, eachRow⟩
  obtain ⟨-, -, table, reducer⟩ := fields_of_compile compiled
  rw [template, box.reduction_eq, inputs, outputs, table, reducer]
  decide +kernel

end Sbox

end Clausal
