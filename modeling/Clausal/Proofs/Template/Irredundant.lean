import Clausal.Proofs.Template.Reduction

/-!
# Rows that are not redundant

A row asks for its output at the inputs that make none of its input literals
true.  A row that merging made asks for it where one of its two rows did, so it
covers the inputs of both.

Some rows are irredundant when each of them covers an input that no other one
covers.  A pass keeps this.  A row that it merges with an earlier one goes into
one merged row only and leaves its input to that row, and a row that it does
not merge keeps its own.  Among irredundant rows none is subsumed by another.
-/

namespace Clausal.Template

/-! ## Signs and the inputs that a row covers -/

/-- No input literal of a pattern is true when none is at any position. -/
theorem anyInput_eq_false_iff {pattern : List Int} {ins : List Bool} :
    anyInput pattern ins = false ↔
      ∀ (k : Nat) (sign : Int) (bit : Bool), pattern[k]? = some sign → ins[k]? = some bit →
        Row.signHolds sign bit = false := by
  rw [anyInput, List.any_eq_false]
  constructor
  · intro noInput k sign bit signFound bitFound
    apply Bool.eq_false_iff.mpr
    apply noInput (sign, bit)
    exact List.mem_iff_getElem?.mpr ⟨k, List.getElem?_zip_eq_some.mpr ⟨signFound, bitFound⟩⟩
  · rintro noInput ⟨sign, bit⟩ pairMem
    obtain ⟨k, found⟩ := List.mem_iff_getElem?.mp pairMem
    obtain ⟨signFound, bitFound⟩ := List.getElem?_zip_eq_some.mp found
    exact Bool.eq_false_iff.mp (noInput k sign bit signFound bitFound)

/-- Every sign of a pattern stands in another one at the same position. -/
def SignsWithin (p q : List Int) : Prop :=
  ∀ (k : Nat) (sign : Int), p[k]? = some sign → sign ≠ 0 → q[k]? = some sign

theorem SignsWithin.cons {p q : List Int} (within : SignsWithin p q) (a : Int) :
    SignsWithin (a :: p) (a :: q) := by
  intro k sign found signNe
  cases k with
  | zero => exact found
  | succ k => exact within k sign found signNe

/-- A first position that does not matter adds no sign. -/
theorem signsWithin_zero_cons (b : Int) (p : List Int) : SignsWithin (0 :: p) (b :: p) := by
  intro k sign found signNe
  cases k with
  | zero => exact absurd (Option.some.inj found).symm signNe
  | succ k => exact found

namespace Row

/-- Whether a row asks for an output at an input. -/
def covers (output : Int) (ins : List Bool) (r : Row) : Bool :=
  r.output = output && !anyInput r.pattern ins

theorem covers_iff {output : Int} {ins : List Bool} {r : Row} :
    r.covers output ins = true ↔ r.output = output ∧ anyInput r.pattern ins = false := by
  simp [covers]

/-- A merged row covers what its two rows cover. -/
theorem covers_merge {width : Nat} {r s merged : Row} (signed : r.Signed width)
    (otherSigned : s.Signed width) (found : merge r s = some merged) (output : Int)
    (ins : List Bool) :
    merged.covers output ins = (r.covers output ins || s.covers output ins) := by
  obtain ⟨sameOutput, outputEq, patternFound⟩ := merge_eq_some_iff.mp found
  have sameLength := signed.length_pattern.trans otherSigned.length_pattern.symm
  rw [covers, covers, covers, outputEq, ← sameOutput,
    anyInput_mergePattern patternFound sameLength signed.signs otherSigned.signs,
    Bool.not_and, Bool.and_or_distrib_left]

/-- A row subsumes another one when all its literals occur in it. -/
def Subsumes (r s : Row) : Prop :=
  r.output = s.output ∧ SignsWithin r.pattern s.pattern

theorem Subsumes.refl (r : Row) : r.Subsumes r :=
  ⟨rfl, fun _ _ found _ => found⟩

/-- A row covers what the rows cover that it subsumes. -/
theorem Subsumes.covers {r s : Row} (subsumes : r.Subsumes s) {output : Int} {ins : List Bool}
    (covered : s.covers output ins = true) : r.covers output ins = true := by
  obtain ⟨outputEq, noInput⟩ := covers_iff.mp covered
  apply covers_iff.mpr
  refine ⟨subsumes.1.trans outputEq, anyInput_eq_false_iff.mpr ?_⟩
  intro k sign bit signFound bitFound
  by_cases signZero : sign = 0
  · rw [signZero, signHolds_zero]
  · have otherFound := subsumes.2 k sign signFound signZero
    exact anyInput_eq_false_iff.mp noInput k sign bit otherFound bitFound

end Row

/-! ## How many rows cover an input -/

section

variable {width : Nat} {r : Row} {rows rest : List Row} {output : Int} {ins : List Bool}

/-- Of the rows after a pass those are counted that merged, those after the pass
over the rows that were left, and the first one if it is still there. -/
theorem Pass.countP_rows_after (p : Row → Bool) (r : Row) (merged : List Row) (later : Pass) :
    (Pass.after r merged later).rows.countP p =
      merged.countP p + later.rows.countP p + if merged.isEmpty && p r then 1 else 0 := by
  cases merged with
  | nil =>
      simp only [Pass.after, Pass.rows, List.isEmpty_nil, if_true, List.nil_append,
        List.countP_append, List.countP_cons, List.countP_nil, Bool.true_and]
      omega
  | cons first others =>
      simp only [Pass.after, Pass.rows, List.isEmpty_cons, Bool.false_eq_true, if_false,
        List.countP_append, Bool.false_and]
      omega

/-- Where a row covers nothing its merges cover as much as the rows that it
merges with, and the others are left. -/
theorem countP_filterMap_merge_add_unmerged (signed : r.Signed width)
    (restSigned : ∀ s ∈ rest, s.Signed width) (uncovered : r.covers output ins = false) :
    (rest.filterMap (merge r)).countP (Row.covers output ins) +
      (unmerged r rest).countP (Row.covers output ins) =
        rest.countP (Row.covers output ins) := by
  induction rest with
  | nil => rfl
  | cons s rest ih =>
      obtain ⟨headSigned, tailSigned⟩ := List.forall_mem_cons.mp restSigned
      have others := ih tailSigned
      simp only [unmerged] at others ⊢
      cases found : merge r s with
      | none =>
          simp only [List.filterMap_cons, List.filter_cons, found, Option.isNone_none, if_true,
            List.countP_cons, ← others]
          omega
      | some merged =>
          have same := Row.covers_merge signed headSigned found output ins
          rw [uncovered, Bool.false_or] at same
          simp only [List.filterMap_cons, List.filter_cons, found, Option.isNone_some,
            Bool.false_eq_true, if_false, List.countP_cons, same, ← others]
          omega

/-- What no row covers is not covered after a pass. -/
theorem countP_covers_pass_eq_zero (signed : ∀ r ∈ rows, r.Signed width)
    (uncovered : rows.countP (Row.covers output ins) = 0) :
    (pass rows).rows.countP (Row.covers output ins) = 0 := by
  rw [List.countP_eq_zero] at uncovered ⊢
  have kept := forall_mem_pass
    (P := fun r => r.Signed width ∧ r.covers output ins = false)
    (fun r s merged first second found => ⟨first.1.merge found, by
      rw [Row.covers_merge first.1 second.1 found, first.2, second.2, Bool.or_false]⟩)
    (fun r rowMem => ⟨signed r rowMem, Bool.eq_false_iff.mpr (uncovered r rowMem)⟩)
  exact fun r rowMem => Bool.eq_false_iff.mp (kept r rowMem).2

/-- Where the first row covers nothing, a pass over some rows covers as much as
its merges and the pass over the rows that are left. -/
theorem countP_covers_pass_cons (uncovered : r.covers output ins = false) :
    (pass (r :: rest)).rows.countP (Row.covers output ins) =
      (rest.filterMap (merge r)).countP (Row.covers output ins) +
        (pass (unmerged r rest)).rows.countP (Row.covers output ins) := by
  rw [pass, Pass.countP_rows_after, uncovered, Bool.and_false, if_neg Bool.false_ne_true,
    Nat.add_zero]

/-- What a later row alone covers the first one does not cover. -/
theorem covers_eq_false_of_countP_cons {s : Row} (sMem : s ∈ rest)
    (covered : s.covers output ins = true)
    (alone : (r :: rest).countP (Row.covers output ins) = 1) :
    r.covers output ins = false ∧ rest.countP (Row.covers output ins) = 1 := by
  have counted : 0 < rest.countP (Row.covers output ins) :=
    List.countP_pos_iff.mpr ⟨s, sMem, covered⟩
  rw [List.countP_cons] at alone
  cases first : r.covers output ins with
  | true =>
      rw [first, if_pos rfl] at alone
      omega
  | false =>
      rw [first, if_neg Bool.false_ne_true] at alone
      exact ⟨rfl, alone⟩

/-- Every row after a pass takes over from some row before it: what this row
alone covered is now covered by the other one alone. -/
theorem exists_mem_of_mem_pass (signed : ∀ r ∈ rows, r.Signed width) {row : Row}
    (rowMem : row ∈ (pass rows).rows) :
    ∃ r ∈ rows, ∀ output ins, r.covers output ins = true →
      rows.countP (Row.covers output ins) = 1 →
        row.covers output ins = true ∧ (pass rows).rows.countP (Row.covers output ins) = 1 := by
  induction rows using pass.induct with
  | case1 =>
      rw [pass] at rowMem
      contradiction
  | case2 r rest ih =>
      obtain ⟨firstSigned, restSigned⟩ := List.forall_mem_cons.mp signed
      have leftSigned : ∀ s ∈ unmerged r rest, s.Signed width :=
        fun s left => restSigned s (List.mem_filter.mp left).1
      rw [pass] at rowMem
      rcases Pass.mem_rows_after.mp rowMem with mergedMem | ⟨noMerge, rfl⟩ | laterMem
      · -- A merged row takes over from the later one of its two rows.
        obtain ⟨s, sMem, found⟩ := List.mem_filterMap.mp mergedMem
        refine ⟨s, List.mem_cons_of_mem r sMem, ?_⟩
        intro output ins covered alone
        obtain ⟨uncovered, restAlone⟩ := covers_eq_false_of_countP_cons sMem covered alone
        have rowCovers : row.covers output ins = true := by
          rw [Row.covers_merge firstSigned (restSigned s sMem) found, covered, Bool.or_true]
        have counted : 0 < (rest.filterMap (merge r)).countP (Row.covers output ins) :=
          List.countP_pos_iff.mpr ⟨row, mergedMem, rowCovers⟩
        have parts := countP_filterMap_merge_add_unmerged firstSigned restSigned uncovered
        have later : (pass (unmerged r rest)).rows.countP (Row.covers output ins) = 0 :=
          countP_covers_pass_eq_zero leftSigned (by omega)
        rw [countP_covers_pass_cons uncovered, later]
        exact ⟨rowCovers, by omega⟩
      · -- A row that merges with no other takes over from itself.
        refine ⟨row, List.mem_cons_self, ?_⟩
        intro output ins covered alone
        rw [List.countP_cons, covered, if_pos rfl] at alone
        have restUncovered : rest.countP (Row.covers output ins) = 0 := by omega
        have leftUncovered : (unmerged row rest).countP (Row.covers output ins) = 0 := by
          rw [List.countP_eq_zero] at restUncovered ⊢
          exact fun s left => restUncovered s (List.mem_filter.mp left).1
        have later := countP_covers_pass_eq_zero leftSigned leftUncovered
        rw [pass, Pass.countP_rows_after, noMerge, covered, later]
        exact ⟨rfl, rfl⟩
      · obtain ⟨s, left, takesOver⟩ := ih leftSigned laterMem
        have sMem := (List.mem_filter.mp left).1
        refine ⟨s, List.mem_cons_of_mem r sMem, ?_⟩
        intro output ins covered alone
        obtain ⟨uncovered, restAlone⟩ := covers_eq_false_of_countP_cons sMem covered alone
        have counted : 0 < (unmerged r rest).countP (Row.covers output ins) :=
          List.countP_pos_iff.mpr ⟨s, left, covered⟩
        have parts := countP_filterMap_merge_add_unmerged firstSigned restSigned uncovered
        obtain ⟨rowCovers, later⟩ := takesOver output ins covered (by omega)
        rw [countP_covers_pass_cons uncovered, later]
        exact ⟨rowCovers, by omega⟩

end

/-! ## Irredundant rows -/

/-- Each of some rows covers an input that no other one covers. -/
def Irredundant (rows : List Row) : Prop :=
  ∀ r ∈ rows, ∃ output ins,
    r.covers output ins = true ∧ rows.countP (Row.covers output ins) = 1

namespace Irredundant

variable {width : Nat} {rows : List Row}

/-- A pass keeps rows irredundant. -/
theorem pass (irredundant : Irredundant rows) (signed : ∀ r ∈ rows, r.Signed width) :
    Irredundant (pass rows).rows := by
  intro row rowMem
  obtain ⟨r, before, takesOver⟩ := exists_mem_of_mem_pass signed rowMem
  obtain ⟨output, ins, covered, alone⟩ := irredundant r before
  exact ⟨output, ins, takesOver output ins covered alone⟩

/-- Among irredundant rows none subsumes another one. -/
theorem pairwise_not_subsumes (irredundant : Irredundant rows) :
    rows.Pairwise fun r s => ¬ r.Subsumes s ∧ ¬ s.Subsumes r := by
  apply List.pairwise_iff_forall_sublist.mpr
  intro r s sublist
  have apart : ∀ output ins, rows.countP (Row.covers output ins) = 1 →
      ¬ (r.covers output ins = true ∧ s.covers output ins = true) := by
    rintro output ins alone ⟨first, second⟩
    have counted := sublist.countP_le (p := Row.covers output ins)
    rw [alone, List.countP_cons, List.countP_cons, first, second] at counted
    simp at counted
  constructor
  · intro subsumes
    obtain ⟨output, ins, covered, alone⟩ := irredundant s (sublist.subset (by simp))
    exact apart output ins alone ⟨subsumes.covers covered, covered⟩
  · intro subsumes
    obtain ⟨output, ins, covered, alone⟩ := irredundant r (sublist.subset (by simp))
    exact apart output ins alone ⟨covered, subsumes.covers covered⟩

theorem not_subsumes_of_ne (irredundant : Irredundant rows) {i j : Nat} {r s : Row}
    (found : rows[i]? = some r) (otherFound : rows[j]? = some s) (different : i ≠ j) :
    ¬ r.Subsumes s := by
  obtain ⟨below, rfl⟩ := List.getElem?_eq_some_iff.mp found
  obtain ⟨otherBelow, rfl⟩ := List.getElem?_eq_some_iff.mp otherFound
  have apart := List.pairwise_iff_getElem.mp irredundant.pairwise_not_subsumes
  rcases Nat.lt_or_gt_of_ne different with before | behind
  · exact (apart i j below otherBelow before).1
  · exact (apart j i otherBelow below behind).2

/-- Irredundant rows are all different. -/
theorem nodup (irredundant : Irredundant rows) : rows.Nodup := by
  apply irredundant.pairwise_not_subsumes.imp
  rintro r s ⟨notSubsumes, -⟩ rfl
  exact notSubsumes (.refl r)

/-- A reduction keeps rows irredundant. -/
theorem reduce (irredundant : Irredundant rows) (signed : ∀ r ∈ rows, r.Signed width)
    (reducer : Reducer) : Irredundant (reducer.reduce rows).rows := by
  have kept := reducer.reduce_induction
    (P := fun others => (∀ r ∈ others, r.Signed width) ∧ Irredundant others)
    (fun others ⟨othersSigned, othersIrredundant⟩ =>
      ⟨signed_pass othersSigned, othersIrredundant.pass othersSigned⟩)
    ⟨signed, irredundant⟩
  exact kept.2

end Irredundant

/-! ## The rows of a table -/

variable {inputs outputs : Nat}

/-- A row for an input and an output bit covers this input only. -/
theorem covers_rowFor_iff {x k : Nat} {bit : Bool} {output : Int} {ins : List Bool}
    (insLength : ins.length = inputs) :
    (rowFor inputs x bit k).covers output ins = true ↔
      (rowFor inputs x bit k).output = output ∧ ins = Bits.ofInt inputs x := by
  have sameLength : (Bits.ofInt inputs x).length = ins.length := by
    rw [Bits.length_ofInt, insLength]
  rw [Row.covers_iff, ← Bool.not_eq_true]
  exact and_congr_right' ((not_congr (anyInput_map_sign _ ins sameLength)).trans Decidable.not_not)

/-- Rows that are the same are for the same input bits. -/
theorem ofInt_eq_of_rowFor_eq {x x' k k' : Nat} {bit bit' : Bool}
    (same : rowFor inputs x bit k = rowFor inputs x' bit' k') :
    Bits.ofInt inputs x = Bits.ofInt inputs x' := by
  have covered : (rowFor inputs x' bit' k').covers (rowFor inputs x bit k).output
      (Bits.ofInt inputs x) = true := by
    rw [← same]
    exact (covers_rowFor_iff (Bits.length_ofInt _ _)).mpr ⟨rfl, rfl⟩
  exact ((covers_rowFor_iff (Bits.length_ofInt _ _)).mp covered).2

/-- The positions that come with the members of a list increase. -/
theorem pairwise_zipIdx {α : Type} (members : List α) :
    members.zipIdx.Pairwise fun a b => a.2 < b.2 := by
  have increasing := List.pairwise_lt_range' (s := 0) (n := members.length) 1
  rw [← List.zipIdx_map_snd, List.pairwise_map] at increasing
  exact increasing

/-- The rows for an entry name different output bits. -/
theorem nodup_rowsOf (x : Nat) (y : Int) : (rowsOf inputs outputs x y).Nodup := by
  apply List.pairwise_map.mpr
  apply (pairwise_zipIdx _).imp
  intro a b below same
  have named := natAbs_output_rowFor inputs x a.1 a.2
  have sameRow : rowFor inputs x a.1 a.2 = rowFor inputs x b.1 b.2 := same
  rw [sameRow, natAbs_output_rowFor] at named
  omega

/-- The rows of a table that is not too long are all different. -/
theorem nodup_naive {table : List Int} (tableLength : table.length ≤ Bits.span inputs) :
    (naive inputs outputs table).Nodup := by
  apply List.pairwise_flatMap.mpr
  constructor
  · rintro ⟨y, x⟩ _
    exact nodup_rowsOf x y
  · apply (pairwise_zipIdx table).imp_of_mem
    rintro ⟨y, x⟩ ⟨y', x'⟩ - lastMem below r rowMem s otherMem rfl
    obtain ⟨k, bit, -, rowEq⟩ := mem_rowsOf_iff.mp rowMem
    obtain ⟨k', bit', -, otherEq⟩ := mem_rowsOf_iff.mp otherMem
    have sameBits := ofInt_eq_of_rowFor_eq (rowEq.symm.trans otherEq)
    have inTable := (List.mem_zipIdx lastMem).2.1
    have same := Bits.ofInt_natCast_inj (by omega) (by omega) sameBits
    exact absurd same (Nat.ne_of_lt below)

/-- The rows of a table are irredundant. -/
theorem irredundant_naive {table : List Int} (tableLength : table.length ≤ Bits.span inputs) :
    Irredundant (naive inputs outputs table) := by
  intro r rowMem
  have different : (naive inputs outputs table).Nodup := nodup_naive tableLength
  have once : (naive inputs outputs table).count r = 1 := by
    rw [different.count, if_pos rowMem]
  obtain ⟨x, y, -, entryMem⟩ := mem_naive_iff.mp rowMem
  obtain ⟨k, bit, -, rfl⟩ := mem_rowsOf_iff.mp entryMem
  have insLength := Bits.length_ofInt inputs x
  refine ⟨_, Bits.ofInt inputs x, (covers_rowFor_iff insLength).mpr ⟨rfl, rfl⟩, ?_⟩
  rw [← once, List.count]
  apply List.countP_congr
  intro s otherMem
  obtain ⟨x', y', -, otherEntryMem⟩ := mem_naive_iff.mp otherMem
  obtain ⟨k', bit', -, rfl⟩ := mem_rowsOf_iff.mp otherEntryMem
  rw [covers_rowFor_iff insLength, beq_iff_eq]
  constructor
  · rintro ⟨sameOutput, sameBits⟩
    have samePattern : patternOf inputs x' = patternOf inputs x := by
      rw [patternOf, patternOf, sameBits]
    exact (Row.mk.injEq _ _ _ _).mpr ⟨samePattern, sameOutput⟩
  · intro same
    exact ⟨congrArg Row.output same, ofInt_eq_of_rowFor_eq same.symm⟩

end Clausal.Template
