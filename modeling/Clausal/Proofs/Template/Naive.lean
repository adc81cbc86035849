import Clausal.Proofs.Bits
import Clausal.Proofs.Template.Merge

/-!
# What the rows of a table say

The pattern made from an input is false of that input only.  So the rows for an
entry say that the input is a different one or the outputs spell the entry, and
all rows of a table together say that the outputs spell the entry at the number
that the inputs spell.
-/

namespace Clausal.Template

/-! ## Patterns of inputs -/

/-- A pattern is false of the bits that it was made from and of no others. -/
theorem anyInput_map_sign (bits inputs : List Bool) (sameLength : bits.length = inputs.length) :
    anyInput (bits.map fun bit => if bit then (-1 : Int) else 1) inputs = true ↔
      inputs ≠ bits := by
  induction bits generalizing inputs with
  | nil =>
      cases List.length_eq_zero_iff.mp sameLength.symm
      simp
  | cons bit bits ih =>
      cases inputs with
      | nil => simp at sameLength
      | cons input inputs =>
          have restLength : bits.length = inputs.length := by simpa using sameLength
          rw [List.map_cons, anyInput_cons, Bool.or_eq_true, ih inputs restLength]
          cases bit <;> cases input <;> simp

namespace Row

/-- A row whose output is one of `outputs` output bits. -/
structure Fits (inputs outputs : Nat) (r : Row) : Prop extends r.Signed inputs where
  output_ne : r.output ≠ 0
  output_le : r.output.natAbs ≤ outputs

instance (inputs outputs : Nat) (r : Row) : Decidable (r.Fits inputs outputs) :=
  decidable_of_iff (r.Signed inputs ∧ r.output ≠ 0 ∧ r.output.natAbs ≤ outputs)
    ⟨fun ⟨signed, ne, le⟩ => ⟨signed, ne, le⟩, fun fits => ⟨fits.1, fits.2, fits.3⟩⟩

theorem Fits.merge {inputs outputs : Nat} {r s merged : Row} (fits : r.Fits inputs outputs)
    (found : Template.merge r s = some merged) : merged.Fits inputs outputs where
  toSigned := fits.toSigned.merge found
  output_ne := by
    rw [(merge_eq_some_iff.mp found).2.1]
    exact fits.output_ne
  output_le := by
    rw [(merge_eq_some_iff.mp found).2.1]
    exact fits.output_le

/-- A row that fits names one of the outputs. -/
theorem Fits.exists_getElem?_eq {α : Type} {inputs : Nat} {r : Row} {outputs : List α}
    (fits : r.Fits inputs outputs.length) :
    ∃ out ∈ outputs, outputs[r.output.natAbs - 1]? = some out := by
  have below : r.output.natAbs - 1 < outputs.length :=
    Nat.sub_one_lt_of_le (Int.natAbs_pos.mpr fits.output_ne) fits.output_le
  exact ⟨_, List.getElem_mem below, List.getElem?_eq_getElem below⟩

/-- The output that a row names by its magnitude. -/
theorem outputOf_eq {α : Type} {output : Int} {outputs : List α} {a : α} (outputNe : output ≠ 0)
    (found : outputs[output.natAbs - 1]? = some a) : outputOf output outputs = .ok a := by
  have position : (output.natAbs : Int) - 1 = ((output.natAbs - 1 : Nat) : Int) := by omega
  rw [outputOf, position]
  exact Position.item_natCast found

/-- Outputs that cover a row have the one that it names; zero names the last
one. -/
theorem exists_outputOf_eq {α : Type} {output : Int} {outputs : List α}
    (outputsNe : outputs ≠ []) (covered : output.natAbs ≤ outputs.length) :
    ∃ a, outputOf output outputs = .ok a := by
  have someOutput := List.length_pos_iff.mpr outputsNe
  by_cases outputZero : output = 0
  · subst outputZero
    exact ⟨_, Position.item_negSucc someOutput⟩
  · have below : output.natAbs - 1 < outputs.length := by omega
    exact ⟨_, outputOf_eq outputZero (List.getElem?_eq_getElem below)⟩

/-- Over output bits that cover it every row is true or false. -/
theorem exists_holds_eq {r : Row} {outs : List Bool} (outsNe : outs ≠ [])
    (covered : r.output.natAbs ≤ outs.length) (ins : List Bool) :
    ∃ b, r.holds ins outs = .ok b := by
  obtain ⟨bit, found⟩ := exists_outputOf_eq outsNe covered
  rw [holds, found]
  split
  · exact ⟨true, rfl⟩
  · exact ⟨_, rfl⟩

/-- The output literal of a row is true when the bit that it names has its
sign. -/
theorem outputHolds_iff {output : Int} {outputs : List Bool} {bit : Bool}
    (outputNe : output ≠ 0) (found : outputs[output.natAbs - 1]? = some bit) :
    OutputHolds output outputs ↔ bit = decide (0 < output) := by
  rw [OutputHolds, outputOf_eq outputNe found]
  by_cases positive : 0 < output <;> cases bit <;> simp [Except.map, positive]

end Row

/-! ## The rows of an entry -/

variable {inputs outputs : Nat}

/-- The row that states one output bit of an entry. -/
def rowFor (inputs : Nat) (x : Nat) (bit : Bool) (k : Nat) : Row :=
  ⟨patternOf inputs x, if bit then (k + 1 : Int) else -(k + 1 : Int)⟩

/-- A row for the bit at position `k` names this output bit. -/
theorem natAbs_output_rowFor (inputs x : Nat) (bit : Bool) (k : Nat) :
    (rowFor inputs x bit k).output.natAbs = k + 1 := by
  cases bit with
  | true => exact Int.natAbs_natCast (k + 1)
  | false => exact (Int.natAbs_neg _).trans (Int.natAbs_natCast (k + 1))

theorem output_rowFor_ne_zero (inputs x : Nat) (bit : Bool) (k : Nat) :
    (rowFor inputs x bit k).output ≠ 0 := by
  apply Int.natAbs_pos.mp
  rw [natAbs_output_rowFor]
  exact Nat.succ_pos k

/-- The sign of the output of a row is the bit that the row is for. -/
theorem output_rowFor_pos (inputs x : Nat) (bit : Bool) (k : Nat) :
    decide (0 < (rowFor inputs x bit k).output) = bit := by
  cases bit with
  | true => exact decide_eq_true (Int.natCast_succ_pos k)
  | false =>
      have negative : -((k : Int) + 1) ≤ 0 := Int.neg_nonpos_of_nonneg (by omega)
      exact decide_eq_false (Int.not_lt.mpr negative)

theorem mem_rowsOf_iff {x : Nat} {y : Int} {r : Row} :
    r ∈ rowsOf inputs outputs x y ↔
      ∃ k bit, (Bits.ofInt outputs y)[k]? = some bit ∧ r = rowFor inputs x bit k := by
  rw [rowsOf, List.mem_map]
  constructor
  · rintro ⟨⟨bit, k⟩, pairMem, rfl⟩
    exact ⟨k, bit, List.mem_zipIdx_iff_getElem?.mp pairMem, rfl⟩
  · rintro ⟨k, bit, found, rfl⟩
    exact ⟨(bit, k), List.mem_zipIdx_iff_getElem?.mpr found, rfl⟩

theorem isSign_of_mem_patternOf {x : Nat} {sign : Int} (signMem : sign ∈ patternOf inputs x) :
    IsSign sign := by
  rcases List.mem_map.mp signMem with ⟨bit, -, rfl⟩
  cases bit
  · exact Or.inr (Or.inr rfl)
  · exact Or.inl rfl

theorem fits_of_mem_rowsOf {x : Nat} {y : Int} {r : Row}
    (rowMem : r ∈ rowsOf inputs outputs x y) : r.Fits inputs outputs := by
  rcases mem_rowsOf_iff.mp rowMem with ⟨k, bit, found, rfl⟩
  have below : k < outputs := by
    have indexed := (List.getElem?_eq_some_iff.mp found).1
    rwa [Bits.length_ofInt] at indexed
  refine ⟨⟨?_, fun _ => isSign_of_mem_patternOf⟩, output_rowFor_ne_zero inputs x bit k, ?_⟩
  · simp [rowFor, patternOf]
  · rw [natAbs_output_rowFor]
    exact below

/-- A row for an output bit says that the input is a different one or the output
bit is the one of the entry. -/
theorem holds_rowFor_iff {x k : Nat} {bit : Bool} {ins outs : List Bool}
    (insLength : ins.length = inputs) (below : k < outs.length) :
    (rowFor inputs x bit k).Holds ins outs ↔
      (ins = Bits.ofInt inputs x → outs[k]? = some bit) := by
  have patternHolds : anyInput (patternOf inputs x) ins = true ↔ ins ≠ Bits.ofInt inputs x := by
    apply anyInput_map_sign
    rw [Bits.length_ofInt, insLength]
  have position : (rowFor inputs x bit k).output.natAbs - 1 = k := by
    rw [natAbs_output_rowFor, Nat.add_sub_cancel]
  have found : outs[(rowFor inputs x bit k).output.natAbs - 1]? = some outs[k] := by
    rw [position, List.getElem?_eq_getElem below]
  rw [Row.holds_iff, Row.outputHolds_iff (output_rowFor_ne_zero inputs x bit k) found,
    output_rowFor_pos, List.getElem?_eq_getElem below, Option.some.injEq]
  exact (or_congr_left patternHolds).trans Decidable.imp_iff_not_or.symm

/-- The rows of an entry say that the input is a different one or the outputs
spell the entry. -/
theorem forall_holds_rowsOf_iff {x : Nat} {y : Int} {ins outs : List Bool}
    (insLength : ins.length = inputs) (outsLength : outs.length = outputs) :
    (∀ r ∈ rowsOf inputs outputs x y, r.Holds ins outs) ↔
      (ins = Bits.ofInt inputs x → outs = Bits.ofInt outputs y) := by
  constructor
  · intro all spelled
    apply List.ext_getElem?
    intro k
    by_cases below : k < outputs
    · have entryBelow : k < (Bits.ofInt outputs y).length := by rwa [Bits.length_ofInt]
      have entryBit : (Bits.ofInt outputs y)[k]? = some (Bits.ofInt outputs y)[k] :=
        List.getElem?_eq_getElem entryBelow
      have rowHolds := all _ (mem_rowsOf_iff.mpr ⟨k, _, entryBit, rfl⟩)
      rw [entryBit]
      exact (holds_rowFor_iff insLength (by omega)).mp rowHolds spelled
    · rw [List.getElem?_eq_none (by omega), List.getElem?_eq_none]
      rw [Bits.length_ofInt]
      omega
  · rintro entry r rowMem
    rcases mem_rowsOf_iff.mp rowMem with ⟨k, bit, found, rfl⟩
    have below := (List.getElem?_eq_some_iff.mp found).1
    rw [Bits.length_ofInt] at below
    apply (holds_rowFor_iff insLength (by omega)).mpr
    intro spelled
    rw [entry spelled]
    exact found

/-! ## The rows of a table -/

theorem mem_naive_iff {table : List Int} {r : Row} :
    r ∈ naive inputs outputs table ↔
      ∃ (x : Nat) (y : Int), table[x]? = some y ∧ r ∈ rowsOf inputs outputs x y := by
  rw [naive, List.mem_flatMap]
  constructor
  · rintro ⟨⟨y, x⟩, pairMem, rowMem⟩
    exact ⟨x, y, List.mem_zipIdx_iff_getElem?.mp pairMem, rowMem⟩
  · rintro ⟨x, y, found, rowMem⟩
    exact ⟨(y, x), List.mem_zipIdx_iff_getElem?.mpr found, rowMem⟩

theorem fits_of_mem_naive {table : List Int} {r : Row}
    (rowMem : r ∈ naive inputs outputs table) : r.Fits inputs outputs := by
  rcases mem_naive_iff.mp rowMem with ⟨x, y, -, entryMem⟩
  exact fits_of_mem_rowsOf entryMem

/-- The rows of a table say that the outputs spell the entry at the number that
the inputs spell. -/
theorem forall_holds_naive_iff {table : List Int} (tableLength : table.length = Bits.span inputs)
    (tableRange : ∀ y ∈ table, 0 ≤ y ∧ y < Bits.span outputs) {ins outs : List Bool}
    (insLength : ins.length = inputs) (outsLength : outs.length = outputs) :
    (∀ r ∈ naive inputs outputs table, r.Holds ins outs) ↔
      table[Bits.number ins]? = some (Bits.number outs : Int) := by
  have entries : (∀ r ∈ naive inputs outputs table, r.Holds ins outs) ↔
      ∀ (x : Nat) (y : Int), table[x]? = some y →
        ins = Bits.ofInt inputs x → outs = Bits.ofInt outputs y := by
    simp only [← forall_holds_rowsOf_iff insLength outsLength, mem_naive_iff]
    constructor
    · exact fun all x y found r rowMem => all r ⟨x, y, found, rowMem⟩
    · rintro all r ⟨x, y, found, rowMem⟩
      exact all x y found r rowMem
  rw [entries]
  constructor
  · intro all
    have below : Bits.number ins < table.length := by
      rw [tableLength, ← insLength]
      exact Bits.number_lt ins
    have found : table[Bits.number ins]? = some table[Bits.number ins] :=
      List.getElem?_eq_getElem below
    have spelled : ins = Bits.ofInt inputs (Bits.number ins) := by
      rw [← insLength, Bits.ofInt_number]
    have range := tableRange _ (List.getElem_mem below)
    have outsSpelled := all _ _ found spelled
    rw [found, outsSpelled, Bits.number_ofInt, Int.emod_eq_of_lt range.1 range.2]
  · intro found x y entry spelled
    have below := (List.getElem?_eq_some_iff.mp entry).1
    have number : (Bits.number ins : Int) = x := by
      rw [spelled, Bits.number_ofInt]
      apply Int.emod_eq_of_lt <;> omega
    rw [Int.ofNat_inj.mp number, entry, Option.some.injEq] at found
    rw [found, ← outsLength, Bits.ofInt_number]

end Clausal.Template
