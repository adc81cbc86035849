import Clausal.Template.Merge

/-!
# What rows say, and how merging keeps it

The clause of a row is true of some bits when one of its input literals is or
its output literal is.  Two rows that can be merged have the same output and
differ in one sign, so the merged row says what the two say together.  A pass
therefore keeps what all rows say together.
-/

namespace Clausal.Template

/-! ## Signs and the meaning of rows -/

/-- The signs that an input bit can have in a row. -/
def IsSign (sign : Int) : Prop :=
  sign = -1 ∨ sign = 0 ∨ sign = 1

instance (sign : Int) : Decidable (IsSign sign) :=
  inferInstanceAs (Decidable (sign = -1 ∨ sign = 0 ∨ sign = 1))

/-- Whether some input literal of a pattern is true. -/
def anyInput (pattern : List Int) (inputs : List Bool) : Bool :=
  (pattern.zip inputs).any fun (sign, bit) => Row.signHolds sign bit

@[simp]
theorem anyInput_nil_left (inputs : List Bool) : anyInput [] inputs = false :=
  rfl

@[simp]
theorem anyInput_nil_right (pattern : List Int) : anyInput pattern [] = false := by
  simp [anyInput]

@[simp]
theorem anyInput_cons (sign : Int) (pattern : List Int) (bit : Bool) (inputs : List Bool) :
    anyInput (sign :: pattern) (bit :: inputs) =
      (Row.signHolds sign bit || anyInput pattern inputs) :=
  rfl

namespace Row

@[simp]
theorem signHolds_zero (bit : Bool) : signHolds 0 bit = false := by
  simp [signHolds]

@[simp]
theorem signHolds_one (bit : Bool) : signHolds 1 bit = bit := by
  simp [signHolds]

@[simp]
theorem signHolds_neg_one (bit : Bool) : signHolds (-1) bit = !bit := by
  simp [signHolds]

/-- A bit does not agree with two different signs. -/
theorem signHolds_and_signHolds {sign other : Int} (bit : Bool) (isSign : IsSign sign)
    (otherSign : IsSign other) (different : sign ≠ other) :
    (signHolds sign bit && signHolds other bit) = false := by
  rcases isSign with rfl | rfl | rfl <;> rcases otherSign with rfl | rfl | rfl <;>
    simp at different ⊢

/-- The clause of a row is true of some input and output bits. -/
def Holds (r : Row) (inputs outputs : List Bool) : Prop :=
  r.holds inputs outputs = .ok true

/-- The output literal of a row is true of some output bits. -/
def OutputHolds (output : Int) (outputs : List Bool) : Prop :=
  (outputOf output outputs).map (fun bit => if 0 < output then bit else !bit) = .ok true

theorem holds_iff {r : Row} {inputs outputs : List Bool} :
    r.Holds inputs outputs ↔
      anyInput r.pattern inputs = true ∨ OutputHolds r.output outputs := by
  rw [Holds, holds]
  change (if anyInput r.pattern inputs = true then _ else _) = _ ↔ _
  cases anyInput r.pattern inputs with
  | true => simp
  | false =>
      simp only [Bool.false_eq_true, if_false, false_or]
      rfl

/-- A row over `width` input bits whose pattern consists of signs. -/
structure Signed (width : Nat) (r : Row) : Prop where
  length_pattern : r.pattern.length = width
  signs : ∀ sign ∈ r.pattern, IsSign sign

instance (width : Nat) (r : Row) : Decidable (r.Signed width) :=
  decidable_of_iff (r.pattern.length = width ∧ ∀ sign ∈ r.pattern, IsSign sign)
    ⟨fun ⟨length, signs⟩ => ⟨length, signs⟩, fun signed => ⟨signed.1, signed.2⟩⟩

end Row

/-! ## Two rows -/

/-- Patterns of one length that agree are the same. -/
theorem agree_iff {p q : List Int} (sameLength : p.length = q.length) :
    agree p q = true ↔ p = q := by
  induction p generalizing q with
  | nil =>
      cases List.length_eq_zero_iff.mp sameLength.symm
      simp [agree]
  | cons a p ih =>
      cases q with
      | nil => simp at sameLength
      | cons b q =>
          have restLength : p.length = q.length := by simpa using sameLength
          have rest := ih restLength
          rw [agree] at rest ⊢
          rw [List.zip_cons_cons, List.all_cons, Bool.and_eq_true, rest]
          simp

/-- A merged pattern is as long as the patterns and consists of signs. -/
theorem signs_mergePattern {p q merged : List Int} (found : mergePattern p q = some merged)
    (signs : ∀ sign ∈ p, IsSign sign) :
    merged.length = p.length ∧ ∀ sign ∈ merged, IsSign sign := by
  induction p generalizing q merged with
  | nil => simp [mergePattern] at found
  | cons a p ih =>
      cases q with
      | nil => simp [mergePattern] at found
      | cons b q =>
          have headSign := signs a List.mem_cons_self
          have restSigns : ∀ sign ∈ p, IsSign sign :=
            fun sign later => signs sign (List.mem_cons_of_mem a later)
          rw [mergePattern] at found
          split at found
          · rcases Option.map_eq_some_iff.mp found with ⟨rest, restFound, rfl⟩
            have restResult := ih restFound restSigns
            constructor
            · rw [List.length_cons, List.length_cons, restResult.1]
            · exact List.forall_mem_cons.mpr ⟨headSign, restResult.2⟩
          · split at found
            · cases found
              constructor
              · rfl
              · exact List.forall_mem_cons.mpr ⟨Or.inr (Or.inl rfl), restSigns⟩
            · contradiction

/-- The literals of a merged pattern are those of both patterns together. -/
theorem anyInput_mergePattern {p q merged : List Int} (found : mergePattern p q = some merged)
    (sameLength : p.length = q.length) (signs : ∀ sign ∈ p, IsSign sign)
    (otherSigns : ∀ sign ∈ q, IsSign sign) (inputs : List Bool) :
    anyInput merged inputs = (anyInput p inputs && anyInput q inputs) := by
  induction p generalizing q merged inputs with
  | nil => simp [mergePattern] at found
  | cons a p ih =>
      cases q with
      | nil => simp [mergePattern] at found
      | cons b q =>
          have restLength : p.length = q.length := by simpa using sameLength
          have headSign := signs a List.mem_cons_self
          have otherHeadSign := otherSigns b List.mem_cons_self
          cases inputs with
          | nil => simp
          | cons bit inputs =>
              rw [mergePattern] at found
              split at found
              · rename_i sameSign
                subst sameSign
                rcases Option.map_eq_some_iff.mp found with ⟨rest, restFound, rfl⟩
                have restResult := ih restFound restLength
                  (fun sign later => signs sign (List.mem_cons_of_mem a later))
                  (fun sign later => otherSigns sign (List.mem_cons_of_mem a later)) inputs
                rw [anyInput_cons, anyInput_cons, anyInput_cons, restResult,
                  Bool.or_and_distrib_left]
              · rename_i different
                split at found
                · rename_i restAgrees
                  cases found
                  cases (agree_iff restLength).mp restAgrees
                  have apart := Row.signHolds_and_signHolds bit headSign otherHeadSign different
                  rw [anyInput_cons, anyInput_cons, anyInput_cons, Row.signHolds_zero,
                    Bool.false_or, ← Bool.or_and_distrib_right, apart, Bool.false_or]
                · contradiction

section Merge

variable {r s merged : Row} {width : Nat}

theorem merge_eq_some_iff :
    merge r s = some merged ↔
      r.output = s.output ∧ merged.output = r.output ∧
        mergePattern r.pattern s.pattern = some merged.pattern := by
  rw [merge]
  split
  · rename_i sameOutput
    rw [Option.map_eq_some_iff]
    constructor
    · rintro ⟨pattern, found, rfl⟩
      exact ⟨sameOutput, rfl, found⟩
    · rintro ⟨-, outputEq, found⟩
      exact ⟨merged.pattern, found, by rw [← outputEq]⟩
  · rename_i different
    simp [different]

/-- Merging keeps rows over the same inputs. -/
theorem Row.Signed.merge (signed : r.Signed width) (found : merge r s = some merged) :
    merged.Signed width := by
  have result := signs_mergePattern (merge_eq_some_iff.mp found).2.2 signed.signs
  exact ⟨result.1.trans signed.length_pattern, result.2⟩

/-- A merged row says what the two rows say together. -/
theorem holds_merge_iff (signed : r.Signed width) (otherSigned : s.Signed width)
    (found : merge r s = some merged) (inputs outputs : List Bool) :
    merged.Holds inputs outputs ↔ r.Holds inputs outputs ∧ s.Holds inputs outputs := by
  rcases merge_eq_some_iff.mp found with ⟨sameOutput, outputEq, patternFound⟩
  have sameLength := signed.length_pattern.trans otherSigned.length_pattern.symm
  rw [Row.holds_iff, Row.holds_iff, Row.holds_iff, outputEq, ← sameOutput,
    anyInput_mergePattern patternFound sameLength signed.signs otherSigned.signs,
    Bool.and_eq_true, and_or_right]

end Merge

/-! ## One pass -/

/-- The rows after a pass: the merged ones, the first one if it merged with no
other, and those after the pass over the rows that were left. -/
theorem Pass.mem_rows_after {r row : Row} {merged : List Row} {later : Pass} :
    row ∈ (Pass.after r merged later).rows ↔
      row ∈ merged ∨ merged = [] ∧ row = r ∨ row ∈ later.rows := by
  cases merged with
  | nil => simp [Pass.after, Pass.rows, or_left_comm]
  | cons first rest => simp [Pass.after, Pass.rows, or_assoc]

/-- What merging keeps holds of all rows after a pass. -/
theorem forall_mem_pass {P : Row → Prop}
    (kept : ∀ r s merged, P r → P s → merge r s = some merged → P merged)
    {rows : List Row} (all : ∀ r ∈ rows, P r) : ∀ r ∈ (pass rows).rows, P r := by
  induction rows using pass.induct with
  | case1 =>
      rw [pass]
      exact all
  | case2 r rest ih =>
      have first := all r List.mem_cons_self
      have others : ∀ s ∈ rest, P s := fun s later => all s (List.mem_cons_of_mem r later)
      intro row rowMem
      rw [pass, Pass.mem_rows_after] at rowMem
      rcases rowMem with mergedMem | ⟨-, rfl⟩ | laterMem
      · rcases List.mem_filterMap.mp mergedMem with ⟨s, sMem, found⟩
        exact kept r s row first (others s sMem) found
      · exact first
      · exact ih (fun s left => others s (List.mem_filter.mp left).1) row laterMem

/-- Where a merged row says what its two rows say, the rows after a pass say
what the first row says, what the rows that it merged with say, and what the
later ones say. -/
theorem Pass.forall_mem_rows_after_iff {H : Row → Prop} {r : Row} {rest : List Row}
    {later : Pass}
    (joint : ∀ s ∈ rest, ∀ merged, merge r s = some merged → (H merged ↔ H r ∧ H s)) :
    (∀ row ∈ (Pass.after r (rest.filterMap (merge r)) later).rows, H row) ↔
      H r ∧ (∀ s ∈ rest, merge r s ≠ none → H s) ∧ ∀ row ∈ later.rows, H row := by
  simp only [Pass.mem_rows_after]
  constructor
  · intro all
    have partners : ∀ s ∈ rest, ∀ merged, merge r s = some merged → H r ∧ H s := by
      intro s sMem merged found
      apply (joint s sMem merged found).mp
      exact all merged (Or.inl (List.mem_filterMap.mpr ⟨s, sMem, found⟩))
    refine ⟨?_, ?_, fun row laterMem => all row (Or.inr (Or.inr laterMem))⟩
    · -- The first row is still there, or some merged row says it.
      cases mergedRows : rest.filterMap (merge r) with
      | nil => exact all r (Or.inr (Or.inl ⟨mergedRows, rfl⟩))
      | cons merged others =>
          have mergedMem : merged ∈ rest.filterMap (merge r) := by simp [mergedRows]
          rcases List.mem_filterMap.mp mergedMem with ⟨s, sMem, found⟩
          exact (partners s sMem merged found).1
    · intro s sMem merges
      rcases Option.ne_none_iff_exists'.mp merges with ⟨merged, found⟩
      exact (partners s sMem merged found).2
  · rintro ⟨first, partners, others⟩ row (mergedMem | ⟨-, rfl⟩ | laterMem)
    · rcases List.mem_filterMap.mp mergedMem with ⟨s, sMem, found⟩
      exact (joint s sMem row found).mpr ⟨first, partners s sMem (by simp [found])⟩
    · exact first
    · exact others row laterMem

/-- Some rows are those that a row merges with and those that it leaves. -/
theorem forall_mem_unmerged_iff {H : Row → Prop} {r : Row} {rest : List Row} :
    (∀ s ∈ rest, H s) ↔
      (∀ s ∈ rest, merge r s ≠ none → H s) ∧ ∀ s ∈ unmerged r rest, H s := by
  simp only [unmerged, List.mem_filter, Option.isNone_iff_eq_none]
  constructor
  · exact fun all => ⟨fun s sMem _ => all s sMem, fun s left => all s left.1⟩
  · rintro ⟨partners, left⟩ s sMem
    by_cases apart : merge r s = none
    · exact left s ⟨sMem, apart⟩
    · exact partners s sMem apart

variable {width : Nat}

/-- A pass keeps rows over the same inputs. -/
theorem signed_pass {rows : List Row} (signed : ∀ r ∈ rows, r.Signed width) :
    ∀ r ∈ (pass rows).rows, r.Signed width :=
  forall_mem_pass (fun _ _ _ first _ found => first.merge found) signed

/-- A pass keeps what the rows say together. -/
theorem forall_holds_pass_iff {rows : List Row} (signed : ∀ r ∈ rows, r.Signed width)
    (inputs outputs : List Bool) :
    (∀ r ∈ (pass rows).rows, r.Holds inputs outputs) ↔ ∀ r ∈ rows, r.Holds inputs outputs := by
  induction rows using pass.induct with
  | case1 =>
      rw [pass]
      exact Iff.rfl
  | case2 r rest ih =>
      have firstSigned := signed r List.mem_cons_self
      have restSigned : ∀ s ∈ rest, s.Signed width :=
        fun s later => signed s (List.mem_cons_of_mem r later)
      have left := ih fun s sMem => restSigned s (List.mem_filter.mp sMem).1
      rw [pass, Pass.forall_mem_rows_after_iff, left, ← forall_mem_unmerged_iff,
        List.forall_mem_cons]
      intro s sMem merged found
      exact holds_merge_iff firstSigned (restSigned s sMem) found inputs outputs

end Clausal.Template
