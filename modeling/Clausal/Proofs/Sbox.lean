import Clausal.Proofs.Clause
import Clausal.Proofs.Template.Reduction
import Clausal.Sbox

/-!
# The clauses of a substitution box

The clause of a row over some literals says of the literals what the row says
of their values.  Since a reduction keeps what the rows of a table say
together, the clauses of a box say that the outputs are the image of the inputs
by its table, whatever the literals are and however the rows were reduced.
-/

namespace Clausal.Sbox

open Template

/-! ## The clause of a row -/

theorem signed?_ne_zero {lit sign signed : Int} (litNe : lit ≠ 0)
    (found : signed? lit sign = some signed) : signed ≠ 0 := by
  rw [signed?] at found
  split at found
  · contradiction
  · rename_i signNe
    cases found
    exact Int.mul_ne_zero litNe signNe

/-- A literal with a sign is true when the sign and its value make it so. -/
theorem any_signed? {lit sign : Int} (litNe : lit ≠ 0) (isSign : IsSign sign) (s : Valuation) :
    (signed? lit sign).any (Literal.holds s) = Row.signHolds sign (Literal.holds s lit) := by
  rcases isSign with rfl | rfl | rfl
  · simp [signed?, Literal.holds_neg s litNe]
  · simp [signed?]
  · simp [signed?]

/-- The literals of the inputs that a pattern asks for. -/
def inputLiterals (pattern ins : List Int) : List Int :=
  (ins.zip pattern).filterMap fun (lit, sign) => signed? lit sign

theorem inputLiterals_cons (sign : Int) (pattern : List Int) (lit : Int) (ins : List Int) :
    inputLiterals (sign :: pattern) (lit :: ins) =
      (signed? lit sign).toList ++ inputLiterals pattern ins := by
  cases found : signed? lit sign <;> simp [inputLiterals, found]

theorem inputLiterals_ne_zero {pattern ins : List Int} (insNe : ∀ lit ∈ ins, lit ≠ 0) :
    ∀ lit ∈ inputLiterals pattern ins, lit ≠ 0 := by
  intro signed signedMem
  obtain ⟨⟨lit, sign⟩, pairMem, found⟩ := List.mem_filterMap.mp signedMem
  exact signed?_ne_zero (insNe lit (List.of_mem_zip pairMem).1) found

theorem natAbs_of_signed? {lit sign signed : Int} (isSign : IsSign sign)
    (found : signed? lit sign = some signed) : signed.natAbs = lit.natAbs := by
  rcases isSign with rfl | rfl | rfl
  · cases found
    simp
  · cases found
  · cases found
    simp

/-- The literals of the inputs are on the variables of the inputs. -/
theorem natAbs_inputLiterals_le {pattern ins : List Int} (signs : ∀ sign ∈ pattern, IsSign sign)
    {n : Nat} (insLe : ∀ lit ∈ ins, lit.natAbs ≤ n) :
    ∀ lit ∈ inputLiterals pattern ins, lit.natAbs ≤ n := by
  intro signed signedMem
  obtain ⟨⟨lit, sign⟩, pairMem, found⟩ := List.mem_filterMap.mp signedMem
  have members := List.of_mem_zip pairMem
  rw [natAbs_of_signed? (signs sign members.2) found]
  exact insLe lit members.1

theorem any_inputLiterals {pattern ins : List Int} (signs : ∀ sign ∈ pattern, IsSign sign)
    (insNe : ∀ lit ∈ ins, lit ≠ 0) (s : Valuation) :
    (inputLiterals pattern ins).any (Literal.holds s) =
      anyInput pattern (ins.map (Literal.holds s)) := by
  induction ins generalizing pattern with
  | nil => simp [inputLiterals]
  | cons lit ins ih =>
      cases pattern with
      | nil => simp [inputLiterals]
      | cons sign pattern =>
          have rest := ih (fun other later => signs other (List.mem_cons_of_mem sign later))
            (fun other later => insNe other (List.mem_cons_of_mem lit later))
          have head := any_signed? (insNe lit List.mem_cons_self)
            (signs sign List.mem_cons_self) s
          rw [inputLiterals_cons, List.any_append, List.map_cons, anyInput_cons, rest, ← head]
          cases signed? lit sign <;> simp

/-- There is one literal for each sign that is not zero. -/
theorem length_inputLiterals {pattern ins : List Int} (sameLength : ins.length = pattern.length) :
    (inputLiterals pattern ins).length = pattern.countP (· ≠ 0) := by
  induction ins generalizing pattern with
  | nil =>
      cases List.length_eq_zero_iff.mp sameLength.symm
      rfl
  | cons lit ins ih =>
      cases pattern with
      | nil => simp at sameLength
      | cons sign pattern =>
          rw [inputLiterals_cons, List.length_append, List.countP_cons,
            ih (by simpa using sameLength)]
          by_cases signZero : sign = 0
          · simp [signed?, signZero]
          · simp [signed?, signZero, Nat.add_comm]

/-- The literal of an output with the sign that a row gives it. -/
def outputLiteral (output lit : Int) : Int :=
  if 0 < output then lit else -lit

theorem outputLiteral_ne_zero {output lit : Int} (litNe : lit ≠ 0) :
    outputLiteral output lit ≠ 0 := by
  rw [outputLiteral]
  split
  · exact litNe
  · exact Int.neg_ne_zero.mpr litNe

theorem natAbs_outputLiteral (output lit : Int) :
    (outputLiteral output lit).natAbs = lit.natAbs := by
  rw [outputLiteral]
  split
  · rfl
  · exact Int.natAbs_neg lit

/-- An output with a sign is true when its value is the one that the sign asks
for. -/
theorem holds_outputLiteral_iff {output lit : Int} (litNe : lit ≠ 0) (s : Valuation) :
    Literal.holds s (outputLiteral output lit) = true ↔
      Literal.holds s lit = decide (0 < output) := by
  rw [outputLiteral]
  by_cases positive : 0 < output
  · simp [positive]
  · simp [positive, Literal.holds_neg s litNe]

section

variable {r : Row} {ins outs : List Int} {out : Int} {c : Clause}

/-- The clause of a row has the literals of its inputs and then that of its
output. -/
theorem clauseOf_eq (outputNe : r.output ≠ 0) (found : outs[r.output.natAbs - 1]? = some out)
    (literals : c.literals = inputLiterals r.pattern ins ++ [outputLiteral r.output out]) :
    clauseOf r ins outs = .ok c := by
  rw [clauseOf, Row.outputOf_eq outputNe found]
  exact Clause.ofLiterals_eq_ok_iff.mpr literals

/-- The literals of a row say of some literals what the row says of their
values. -/
theorem holds_iff_row_holds {inputs : Nat} (signed : r.Signed inputs) (outputNe : r.output ≠ 0)
    (found : outs[r.output.natAbs - 1]? = some out) (insNe : ∀ lit ∈ ins, lit ≠ 0)
    (outNe : out ≠ 0)
    (literals : c.literals = inputLiterals r.pattern ins ++ [outputLiteral r.output out])
    (s : Valuation) :
    c.holds s = true ↔ r.Holds (ins.map (Literal.holds s)) (outs.map (Literal.holds s)) := by
  have valueFound : (outs.map (Literal.holds s))[r.output.natAbs - 1]? =
      some (Literal.holds s out) := by
    rw [List.getElem?_map, found, Option.map_some]
  rw [Row.holds_iff, Row.outputHolds_iff outputNe valueFound, ← holds_outputLiteral_iff outNe,
    ← any_inputLiterals signed.signs insNe, Clause.holds, literals, List.any_append,
    Bool.or_eq_true, List.any_cons, List.any_nil, Bool.or_false]

/-- A clause is the instance of a row over some literals.  It has as many literals
as the row, none of them zero, and says of them what the row says of their
values. -/
structure IsInstance (ins outs : List Int) (r : Row) (c : Clause) : Prop where
  length_eq : c.length = r.literalCount
  ne_zero : ∀ lit ∈ c.literals, lit ≠ 0
  holds_eq : ∀ s : Valuation,
    r.holds (ins.map (Literal.holds s)) (outs.map (Literal.holds s)) = .ok (c.holds s)

theorem IsInstance.holds_iff (isInstance : IsInstance ins outs r c) (s : Valuation) :
    c.holds s = true ↔ r.Holds (ins.map (Literal.holds s)) (outs.map (Literal.holds s)) := by
  rw [Row.Holds, isInstance.holds_eq s, Except.ok.injEq]

/-- The clause of a row that fits exists and is an instance of the row. -/
theorem exists_clauseOf_eq (fits : r.Fits ins.length outs.length) (insNe : ∀ lit ∈ ins, lit ≠ 0)
    (outsNe : ∀ lit ∈ outs, lit ≠ 0) :
    ∃ c, clauseOf r ins outs = .ok c ∧ IsInstance ins outs r c := by
  have outputNe := fits.output_ne
  obtain ⟨out, outMem, found⟩ := fits.exists_getElem?_eq
  have outNe := outsNe out outMem
  have literalsNe : ∀ lit ∈ inputLiterals r.pattern ins ++ [outputLiteral r.output out], lit ≠ 0 :=
    List.forall_mem_append.mpr ⟨inputLiterals_ne_zero insNe,
      List.forall_mem_singleton.mpr (outputLiteral_ne_zero outNe)⟩
  refine ⟨⟨_, literalsNe⟩, clauseOf_eq outputNe found rfl, ?length, literalsNe, ?holds⟩
  case length =>
    rw [Clause.length, List.length_append, length_inputLiterals fits.length_pattern.symm]
    rfl
  case holds =>
    intro s
    have valuesFit : r.Fits ins.length (outs.map (Literal.holds s)).length := by
      rwa [List.length_map]
    obtain ⟨b, evaluated⟩ := valuesFit.exists_holds_eq (ins.map (Literal.holds s))
    have meaning := holds_iff_row_holds fits.toSigned outputNe found insNe outNe
      (c := ⟨_, literalsNe⟩) rfl s
    rw [Row.Holds, evaluated, Except.ok.injEq, ← Bool.eq_iff_iff] at meaning
    rw [evaluated, meaning]

end

/-! ## The clauses of a box -/

/-- Every row of a template is over the bits of the box. -/
theorem fits_of_mem_template {box : Sbox} {r : Row} (rowMem : r ∈ box.template) :
    r.Fits box.inputs box.outputs := by
  rw [template, box.reduction_eq] at rowMem
  exact box.reducer.forall_mem_reduce (fun _ _ _ fits _ found => fits.merge found)
    (fun _ => fits_of_mem_naive) r rowMem

/-- The rows of a template say that the outputs spell the entry at the number
that the inputs spell. -/
theorem forall_holds_template_iff (box : Sbox) {ins outs : List Bool}
    (insLength : ins.length = box.inputs) (outsLength : outs.length = box.outputs) :
    (∀ r ∈ box.template, r.Holds ins outs) ↔
      box.table[Bits.number ins]? = some (Bits.number outs : Int) := by
  rw [template, box.reduction_eq,
    box.reducer.forall_holds_reduce_iff (fun r rowMem => (fits_of_mem_naive rowMem).toSigned)]
  exact forall_holds_naive_iff box.length_table box.table_range insLength outsLength

/-- The clauses of a box over any literals exist, and they are the instances of its
rows. -/
theorem exists_image_eq_mapM (box : Sbox) {ins outs : List Int}
    (insLength : ins.length = box.inputs) (outsLength : outs.length = box.outputs)
    (insNe : ∀ lit ∈ ins, lit ≠ 0) (outsNe : ∀ lit ∈ outs, lit ≠ 0) :
    ∃ clauses, box.image ins outs = .ok clauses ∧
      (box.template.mapM fun r => clauseOf r ins outs) = .ok clauses ∧
      ∀ r ∈ box.template, ∀ c, clauseOf r ins outs = .ok c → IsInstance ins outs r c := by
  have rowClause : ∀ r ∈ box.template, ∃ c, clauseOf r ins outs = .ok c ∧
      IsInstance ins outs r c := by
    intro r rowMem
    have fits := fits_of_mem_template rowMem
    rw [← insLength, ← outsLength] at fits
    exact exists_clauseOf_eq fits insNe outsNe
  obtain ⟨clauses, made⟩ := Outcome.exists_mapM_eq_ok fun r rowMem =>
    (rowClause r rowMem).imp fun _ made => made.1
  refine ⟨clauses, ?_, made, ?_⟩
  · rw [image, if_neg (not_not_intro insLength), if_neg (not_not_intro outsLength),
      Literal.mapM_require_eq_ok_iff.mpr ⟨insNe, rfl⟩,
      Literal.mapM_require_eq_ok_iff.mpr ⟨outsNe, rfl⟩]
    exact made
  · intro r rowMem c result
    obtain ⟨d, other, isInstance⟩ := rowClause r rowMem
    cases result.symm.trans other
    exact isInstance

/-- The clauses of a box are on the variables of its inputs and outputs. -/
theorem natAbs_le_of_image (box : Sbox) {ins outs : List Int} (insLength : ins.length = box.inputs)
    (outsLength : outs.length = box.outputs) (insNe : ∀ lit ∈ ins, lit ≠ 0)
    (outsNe : ∀ lit ∈ outs, lit ≠ 0) {n : Nat} (insLe : ∀ lit ∈ ins, lit.natAbs ≤ n)
    (outsLe : ∀ lit ∈ outs, lit.natAbs ≤ n) {clauses : List Clause}
    (imaged : box.image ins outs = .ok clauses) :
    ∀ c ∈ clauses, ∀ lit ∈ c.literals, lit.natAbs ≤ n := by
  obtain ⟨others, otherImaged, made, -⟩ :=
    box.exists_image_eq_mapM insLength outsLength insNe outsNe
  cases imaged.symm.trans otherImaged
  refine Outcome.forall_mem_results made ?_
  intro r rowMem c result
  have fits := fits_of_mem_template rowMem
  rw [← insLength, ← outsLength] at fits
  obtain ⟨out, outMem, found⟩ := fits.exists_getElem?_eq
  rw [clauseOf, Row.outputOf_eq fits.output_ne found] at result
  have literals : c.literals = inputLiterals r.pattern ins ++ [outputLiteral r.output out] :=
    Clause.ofLiterals_eq_ok_iff.mp result
  rw [literals, List.forall_mem_append, List.forall_mem_singleton, natAbs_outputLiteral]
  exact ⟨natAbs_inputLiterals_le fits.signs insLe, outsLe out outMem⟩

/-- The clauses of a box over any literals say that the outputs are the image of
the inputs. -/
theorem exists_image_eq (box : Sbox) {ins outs : List Int} (insLength : ins.length = box.inputs)
    (outsLength : outs.length = box.outputs) (insNe : ∀ lit ∈ ins, lit ≠ 0)
    (outsNe : ∀ lit ∈ outs, lit ≠ 0) :
    ∃ clauses, box.image ins outs = .ok clauses ∧ ∀ s, (∀ c ∈ clauses, c.holds s = true) ↔
      box.table[Bits.number (ins.map (Literal.holds s))]? =
        some (Bits.number (outs.map (Literal.holds s)) : Int) := by
  obtain ⟨clauses, imaged, made, instances⟩ :=
    box.exists_image_eq_mapM insLength outsLength insNe outsNe
  refine ⟨clauses, imaged, ?_⟩
  intro s
  rw [← forall_holds_template_iff box (by simpa) (by simpa)]
  apply Outcome.forall_mem_of_mapM made
  exact fun r rowMem c result => (instances r rowMem c result).holds_iff s

/-- Where a box gives clauses, they say that the outputs are the image of the
inputs. -/
theorem forall_holds_image_iff {box : Sbox} {ins outs : List Int} {clauses : List Clause}
    (made : box.image ins outs = .ok clauses) (s : Valuation) :
    (∀ c ∈ clauses, c.holds s = true) ↔
      box.table[Bits.number (ins.map (Literal.holds s))]? =
        some (Bits.number (outs.map (Literal.holds s)) : Int) := by
  have image := made
  unfold Sbox.image at image
  split at image
  · contradiction
  · rename_i insLength
    split at image
    · contradiction
    · rename_i outsLength
      obtain ⟨checkedIns, insRequired, rest⟩ := Outcome.bind_eq_ok_iff.mp image
      obtain ⟨checkedOuts, outsRequired, -⟩ := Outcome.bind_eq_ok_iff.mp rest
      rcases box.exists_image_eq (Decidable.of_not_not insLength)
        (Decidable.of_not_not outsLength) (Literal.mapM_require_eq_ok_iff.mp insRequired).1
        (Literal.mapM_require_eq_ok_iff.mp outsRequired).1 with ⟨others, otherMade, meaning⟩
      cases made.symm.trans otherMade
      exact meaning s

/-- Every input of a box has an entry, which its outputs can spell. -/
theorem exists_entry_eq (box : Sbox) {x : Nat} (fits : x < Bits.span box.inputs) :
    ∃ y : Nat, box.table[x]? = some (y : Int) ∧ y < Bits.span box.outputs := by
  rw [← box.length_table] at fits
  have range := box.table_range _ (List.getElem_mem fits)
  refine ⟨box.table[x].toNat, ?_, by omega⟩
  rw [List.getElem?_eq_getElem fits, Int.toNat_of_nonneg range.1]

/-! ## Compiling a table -/

/-- A table whose entries fit in the outputs has no entry that does not. -/
theorem misfit?_eq_none {outputs : Nat} {table : List Int}
    (tableRange : ∀ y ∈ table, 0 ≤ y ∧ y < Bits.span outputs) : misfit? outputs table = none := by
  rw [misfit?, List.find?_eq_none]
  rintro ⟨y, x⟩ pairMem
  have range := tableRange y (List.mem_of_getElem? (List.mem_zipIdx_iff_getElem?.mp pairMem))
  have fits : Bits.fits outputs y.toNat = true := by
    rw [Bits.fits_iff]
    omega
  have nonnegative : ¬ y < 0 := by omega
  simp [fits, nonnegative]

/-- A table of the right length whose entries fit is compiled to a box with this
table. -/
theorem exists_compile_eq {inputs outputs : Nat} {table : List Int}
    (tableLength : table.length = Bits.span inputs)
    (tableRange : ∀ y ∈ table, 0 ≤ y ∧ y < Bits.span outputs) (reducer : Reducer) :
    ∃ box, compile inputs outputs table reducer = .ok box ∧
      box.inputs = inputs ∧ box.outputs = outputs ∧ box.table = table := by
  rw [compile, dif_pos (Bits.isSpan_iff.mpr tableLength)]
  split
  · rename_i misfit
    rw [misfit?_eq_none tableRange] at misfit
    contradiction
  · exact ⟨_, rfl, rfl, rfl, rfl⟩

/-- A compiled box has the widths, the table and the reducer that it was given. -/
theorem fields_of_compile {inputs outputs : Nat} {table : List Int} {reducer : Reducer} {box : Sbox}
    (compiled : compile inputs outputs table reducer = .ok box) :
    box.inputs = inputs ∧ box.outputs = outputs ∧ box.table = table ∧ box.reducer = reducer := by
  rw [compile] at compiled
  split at compiled
  · split at compiled
    · contradiction
    · cases compiled
      exact ⟨rfl, rfl, rfl, rfl⟩
  · contradiction

/-- A valuation makes the clauses of a compiled table over some literals true
exactly when the outputs spell the entry at the number that the inputs spell.
This is so for every reduction of the rows, and the literals may be opposites
of variables and occur several times. -/
theorem holds_image_compile_iff {inputs outputs : Nat} {table : List Int}
    (tableLength : table.length = Bits.span inputs)
    (tableRange : ∀ y ∈ table, 0 ≤ y ∧ y < Bits.span outputs) (reducer : Reducer)
    {ins outs : List Int} (insLength : ins.length = inputs) (outsLength : outs.length = outputs)
    (insNe : ∀ lit ∈ ins, lit ≠ 0) (outsNe : ∀ lit ∈ outs, lit ≠ 0) :
    ∃ box clauses, compile inputs outputs table reducer = .ok box ∧
      box.image ins outs = .ok clauses ∧ ∀ s : Valuation, (∀ c ∈ clauses, c.holds s = true) ↔
        table[Bits.number (ins.map (Literal.holds s))]? =
          some (Bits.number (outs.map (Literal.holds s)) : Int) := by
  obtain ⟨box, compiled, rfl, rfl, rfl⟩ := exists_compile_eq tableLength tableRange reducer
  obtain ⟨clauses, made, meaning⟩ := box.exists_image_eq insLength outsLength insNe outsNe
  exact ⟨box, clauses, compiled, made, meaning⟩

/-- The image of a literal and its opposite, with the output given twice: the
box says that the outputs are the entry at one of the two inputs that differ. -/
theorem holds_image_compile_iff_opposites :
    ∃ box clauses, compile 2 2 [1, 0, 3, 2] (.greedy none) = .ok box ∧
      box.image [4, -4] [-7, -7] = .ok clauses ∧
        ∀ s : Valuation, (∀ c ∈ clauses, c.holds s = true) ↔
          [1, 0, 3, 2][Bits.number ([4, -4].map (Literal.holds s))]? =
            some (Bits.number ([-7, -7].map (Literal.holds s)) : Int) :=
  holds_image_compile_iff rfl (by decide) (.greedy none) rfl rfl (by decide) (by decide)

end Clausal.Sbox
