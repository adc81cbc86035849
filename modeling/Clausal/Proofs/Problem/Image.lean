import Clausal.Proofs.Problem.Codes
import Clausal.Proofs.Problem.Meaning
import Clausal.Proofs.Problem.Solving
import Clausal.Proofs.Variables.Pack
import Clausal.Proofs.Variables.Vector

/-!
# Solving for the image of a table

A problem that only says that one vector is the image of another one by a table
has as many solutions as the table has entries.  So with the inputs fixed a
solver finds the entry and nothing else, and with the outputs fixed it finds an
input of this entry, if there is one.
-/

namespace Clausal

/-! ## Valuations and bits -/

namespace Literal

/-- The valuation that gives each of some variables the bit at its place. -/
def spelling (lits : List Int) (bits : List Bool) : Valuation := fun v =>
  bits[lits.idxOf (v : Int)]?.getD false

/-- Different variables can have any values. -/
theorem map_holds_spelling {lits : List Int} {bits : List Bool}
    (positive : ∀ lit ∈ lits, 0 < lit) (different : lits.Nodup)
    (sameLength : lits.length = bits.length) :
    lits.map (holds (spelling lits bits)) = bits := by
  apply List.ext_getElem
  · rw [List.length_map, sameLength]
  intro i below bitBelow
  rw [List.length_map] at below
  have isPositive := positive _ (List.getElem_mem below)
  rw [List.getElem_map, holds, if_pos isPositive, spelling,
    Int.natAbs_of_nonneg (Int.le_of_lt isPositive), different.idxOf_getElem i below,
    List.getElem?_eq_getElem bitBelow, Option.getD_some]

/-- Two vectors without a common variable can spell any two numbers. -/
theorem exists_number_eq {ins outs : List Int} (positive : ∀ lit ∈ ins ++ outs, 0 < lit)
    (different : (ins ++ outs).Nodup) {x y : Nat} (inFits : x < Bits.span ins.length)
    (outFits : y < Bits.span outs.length) :
    ∃ s : Valuation, Bits.number (ins.map (holds s)) = x ∧
      Bits.number (outs.map (holds s)) = y := by
  have sameLength : (ins ++ outs).length =
      (Bits.ofInt ins.length x ++ Bits.ofInt outs.length y).length := by simp
  have spelled := map_holds_spelling positive different sameLength
  rw [List.map_append] at spelled
  obtain ⟨inBits, outBits⟩ := List.append_inj spelled (by simp)
  refine ⟨spelling (ins ++ outs) (Bits.ofInt ins.length x ++ Bits.ofInt outs.length y), ?_, ?_⟩
  · rw [inBits, Bits.number_ofInt_of_lt inFits]
  · rw [outBits, Bits.number_ofInt_of_lt outFits]

/-- The literals of the clause that some literals do not have the given values
all at once. -/
def excluding (lits : List Int) (values : List Bool) : List Int :=
  List.zipWith (fun lit value => if value then -lit else lit) lits values

theorem excluding_ne_zero {lits : List Int} (litsNe : ∀ lit ∈ lits, lit ≠ 0)
    (values : List Bool) : ∀ lit ∈ excluding lits values, lit ≠ 0 := by
  intro excluded literalMem
  rw [excluding] at literalMem
  obtain ⟨i, below, rfl⟩ := List.getElem_of_mem literalMem
  rw [List.getElem_zipWith]
  split
  · exact Int.neg_ne_zero.mpr (litsNe _ (List.getElem_mem _))
  · exact litsNe _ (List.getElem_mem _)

/-- The clause that excludes some values is on the variables of the literals. -/
theorem excluding_le {lits : List Int} {n : Nat} (litsLe : ∀ lit ∈ lits, lit.natAbs ≤ n)
    (values : List Bool) : ∀ lit ∈ excluding lits values, lit.natAbs ≤ n := by
  intro excluded literalMem
  rw [excluding] at literalMem
  obtain ⟨i, below, rfl⟩ := List.getElem_of_mem literalMem
  rw [List.getElem_zipWith]
  have litLe := litsLe _ (List.getElem_mem (by simp at below; omega : i < lits.length))
  split
  · rwa [Int.natAbs_neg]
  · exact litLe

/-- The clause that excludes the values of some literals is false where they have
these values. -/
theorem not_anyHolds_excluding {lits : List Int} (litsNe : ∀ lit ∈ lits, lit ≠ 0)
    (s : Valuation) : ¬ AnyHolds s (excluding lits (lits.map (holds s))) := by
  rw [excluding, List.zipWith_map_right, List.zipWith_self]
  rintro ⟨excluded, literalMem, isTrue⟩
  obtain ⟨lit, original, rfl⟩ := List.mem_map.mp literalMem
  cases value : holds s lit <;> simp [value, holds_neg s (litsNe lit original)] at isTrue

end Literal

namespace Problem

variable {p middle after : Problem} {s : Valuation}

/-! ## Commands that succeed -/

theorem run_singleton_of_execute {c : Command} (executed : p.execute c = .ok after) :
    p.run [c] = after ∧ p.succeeding [c] = [c] := by
  simp [run, perform, succeeding, executed]

theorem run_pair_of_execute {c d : Command} (first : p.execute c = .ok middle)
    (second : middle.execute d = .ok after) :
    p.run [c, d] = after ∧ p.succeeding [c, d] = [c, d] := by
  simp [run, perform, succeeding, first, second]

/-- The literals of a formula on declared variables can be written if an array can
have a place for each variable. -/
theorem legible_of_within (bounded : p.pool.size < Word.signedBound)
    (within : p.formula.Within p.pool.size) :
    ∀ c ∈ p.formula.clauses, ∀ lit ∈ c.literals, Decimal.Legible lit :=
  fun c clauseMem lit literalMem =>
    Decimal.legible_of_natAbs_le (within c clauseMem lit literalMem) bounded

/-- Values that every valuation that satisfies a problem gives to some declared
literals can be excluded, and then a correct backend says that the problem cannot
be satisfied. -/
theorem exists_solve_eq_of_excluding (forest : p.pool.equalities.Forest)
    (families : p.pool.families ≠ []) (bounded : p.pool.size < Word.signedBound)
    (within : p.formula.Within p.pool.size) {backend : Backend} (correct : backend.Correct)
    {lits : List Int} (declared : ∀ lit ∈ lits, lit ≠ 0 ∧ lit.natAbs ≤ p.pool.size)
    (determined : ∀ other, p.SatisfiedBy other →
      lits.map (Literal.holds other) = lits.map (Literal.holds s)) :
    let excluded := [.appendClause (Literal.excluding lits (lits.map (Literal.holds s)))]
    p.succeeding excluded = excluded ∧ (¬ ∃ other, (p.run excluded).SatisfiedBy other) ∧
      ∃ answer, (p.run excluded).solve backend = .ok answer ∧ answer.isSatisfiable = false := by
  intro excluded
  have excludedNe := Literal.excluding_ne_zero (fun lit literalMem => (declared lit literalMem).1)
    (lits.map (Literal.holds s))
  have excludedLe := Literal.excluding_le (fun lit literalMem => (declared lit literalMem).2)
    (lits.map (Literal.holds s))
  obtain ⟨g, added⟩ := p.formula.exists_appendClause_eq excludedNe
  have executed : p.execute (.appendClause _) = .ok { p with formula := g } :=
    withFormula_eq_ok_iff.mpr ⟨g, added, rfl⟩
  obtain ⟨reached, succeeds⟩ := run_singleton_of_execute executed
  have unsatisfiable : ¬ ∃ other, (p.run excluded).SatisfiedBy other := by
    rintro ⟨other, satisfied⟩
    rw [reached, satisfiedBy_execute_iff forest executed, Command.Means] at satisfied
    obtain ⟨before, someHolds⟩ := satisfied
    rw [← determined other before] at someHolds
    exact Literal.not_anyHolds_excluding (fun lit literalMem => (declared lit literalMem).1)
      other someHolds
  have legible := legible_of_within (p := p.run excluded) (by rwa [reached])
    (by rw [reached]; exact within.appendClause excludedLe added)
  have pool : (p.run excluded).pool = p.pool := by rw [reached]
  rw [← pool] at forest families bounded
  obtain ⟨answer, solved, decided, -⟩ :=
    exists_solve_eq_shows forest families bounded legible correct
  exact ⟨succeeds, unsatisfiable, answer, solved,
    Bool.eq_false_iff.mpr (mt decided.mp unsatisfiable)⟩

/-! ## One vector as the image of another one -/

/-- A box fits between two vectors of different variables, of at most thirty-two
bits each, in a problem that says nothing yet. -/
structure Connects (p : Problem) (box : Sbox) (ins outs : List Int) : Prop where
  forest : p.pool.equalities.Forest
  families_ne : p.pool.families ≠ []
  bounded : p.pool.size < Word.signedBound
  within : p.formula.Within p.pool.size
  satisfied : ∀ s, p.SatisfiedBy s
  declared : ∀ lit ∈ ins ++ outs, 0 < lit ∧ lit.natAbs ≤ p.pool.size
  different : (ins ++ outs).Nodup
  length_ins : ins.length = box.inputs
  length_outs : outs.length = box.outputs
  ins_le : ins.length ≤ 32
  outs_le : outs.length ≤ 32

namespace Connects

variable {box : Sbox} {ins outs : List Int} (connects : p.Connects box ins outs)

include connects

theorem ins_declared : ∀ lit ∈ ins, lit ≠ 0 ∧ lit.natAbs ≤ p.pool.size := by
  intro lit literalMem
  have declared := connects.declared lit (List.mem_append_left outs literalMem)
  exact ⟨Int.ne_of_gt declared.1, declared.2⟩

theorem outs_declared : ∀ lit ∈ outs, lit ≠ 0 ∧ lit.natAbs ≤ p.pool.size := by
  intro lit literalMem
  have declared := connects.declared lit (List.mem_append_right ins literalMem)
  exact ⟨Int.ne_of_gt declared.1, declared.2⟩

/-- The box between its vectors and a number for one of them can be added, on
declared variables, and they say all that the problem says then. -/
theorem exists_run_eq {lits : List Int} (side : lits = ins ∨ lits = outs) {n : Nat}
    (fits : n < Bits.span lits.length) :
    ∃ f, p.run [.addImage box ins outs, .assignInteger lits n] = { p with formula := f } ∧
      p.succeeding [.addImage box ins outs, .assignInteger lits n] =
        [.addImage box ins outs, .assignInteger lits n] ∧
      f.Within p.pool.size ∧
      ∀ s, ({ p with formula := f } : Problem).SatisfiedBy s ↔
        box.table[Bits.number (ins.map (Literal.holds s))]? =
            some (Bits.number (outs.map (Literal.holds s)) : Int) ∧
          Bits.number (lits.map (Literal.holds s)) = n := by
  obtain ⟨insNe, insLe⟩ := forall₂_and.mp connects.ins_declared
  obtain ⟨outsNe, outsLe⟩ := forall₂_and.mp connects.outs_declared
  obtain ⟨litsNe, litsLe⟩ : (∀ lit ∈ lits, lit ≠ 0) ∧ ∀ lit ∈ lits, lit.natAbs ≤ p.pool.size := by
    rcases side with rfl | rfl
    · exact ⟨insNe, insLe⟩
    · exact ⟨outsNe, outsLe⟩
  have litsFit : lits.length ≤ 32 := by
    rcases side with rfl | rfl
    · exact connects.ins_le
    · exact connects.outs_le
  obtain ⟨clauses, made, -⟩ := box.exists_image_eq connects.length_ins connects.length_outs
    insNe outsNe
  have imageWithin := connects.within.extend
    (box.natAbs_le_of_image connects.length_ins connects.length_outs insNe outsNe insLe outsLe made)
  obtain ⟨f, fWithin, first⟩ : ∃ f : Formula, f.Within p.pool.size ∧
      p.execute (.addImage box ins outs) = .ok { p with formula := f } := by
    rw [execute_addImage, made]
    exact ⟨_, imageWithin, rfl⟩
  have isWord : n < Bits.wordBound := Nat.lt_of_lt_of_le fits (Bits.span_le_wordBound litsFit)
  obtain ⟨g, assigned⟩ := f.exists_assignInteger_eq litsNe isWord
  have second : ({ p with formula := f } : Problem).execute (.assignInteger lits n) =
      .ok { p with formula := g } := withFormula_eq_ok_iff.mpr ⟨g, assigned, rfl⟩
  have sameForest : ({ p with formula := f } : Problem).pool.equalities.Forest := connects.forest
  obtain ⟨reached, succeeds⟩ := run_pair_of_execute first second
  refine ⟨g, reached, succeeds, fWithin.assignInteger litsLe assigned, ?_⟩
  intro s
  have number : (Bits.number (lits.map (Literal.holds s)) : Int) = n % Bits.span lits.length ↔
      Bits.number (lits.map (Literal.holds s)) = n := by
    rw [← Int.natCast_emod, Nat.mod_eq_of_lt fits, Int.ofNat_inj]
  rw [satisfiedBy_execute_iff sameForest second,
    satisfiedBy_execute_iff connects.forest first, Command.Means, Command.Means, number,
    and_iff_right (connects.satisfied s)]

/-- A correct backend solves the problem with any formula on declared variables,
and the vectors are read as what they spell under a valuation that satisfies it. -/
theorem exists_solve_eq_pack {backend : Backend} (correct : backend.Correct) {f : Formula}
    (within : f.Within p.pool.size) :
    ∃ answer, ({ p with formula := f } : Problem).solve backend = .ok answer ∧
      (∃ values, answer.problem =
        { p with formula := f, pool := { p.pool with values := values } }) ∧
      (answer.isSatisfiable = true ↔ ∃ s, ({ p with formula := f } : Problem).SatisfiedBy s) ∧
      (answer.isSatisfiable = true → ∃ s, ({ p with formula := f } : Problem).SatisfiedBy s ∧
        answer.problem.pool.pack ins = .ok (Bits.number (ins.map (Literal.holds s))) ∧
        answer.problem.pool.pack outs = .ok (Bits.number (outs.map (Literal.holds s))) ∧
        outs.mapM answer.problem.pool.literalValue = .ok (outs.map (Literal.holds s))) := by
  have sameForest : ({ p with formula := f } : Problem).pool.equalities.Forest := connects.forest
  have legible := legible_of_within (p := { p with formula := f }) connects.bounded within
  obtain ⟨answer, solved, decided, shown⟩ :=
    exists_solve_eq_shows sameForest connects.families_ne connects.bounded legible correct
  obtain ⟨values, changed⟩ := exists_values_of_solve solved
  refine ⟨answer, solved, ⟨values, changed⟩, decided, ?_⟩
  intro positive
  obtain ⟨s, satisfied, held⟩ := shown positive
  have sameSize : answer.problem.pool.size = p.pool.size := by rw [changed]
  have insDeclared := connects.ins_declared
  have outsDeclared := connects.outs_declared
  rw [← sameSize] at insDeclared outsDeclared
  exact ⟨s, satisfied, held.pack_eq insDeclared connects.ins_le,
    held.pack_eq outsDeclared connects.outs_le, held.mapM_literalValue_eq outsDeclared⟩

/-- The vectors can spell any two numbers. -/
theorem exists_number_eq {x y : Nat} (inFits : x < Bits.span ins.length)
    (outFits : y < Bits.span outs.length) :
    ∃ s : Valuation, Bits.number (ins.map (Literal.holds s)) = x ∧
      Bits.number (outs.map (Literal.holds s)) = y :=
  Literal.exists_number_eq (fun lit literalMem => (connects.declared lit literalMem).1)
    connects.different inFits outFits

/-- With the inputs fixed the problem says that they spell their number and that
the outputs spell its entry, which is possible. -/
theorem exists_run_input_eq {x : Nat} (fits : x < Bits.span ins.length) :
    ∃ (f : Formula) (y : Nat),
      p.run [.addImage box ins outs, .assignInteger ins x] = { p with formula := f } ∧
      p.succeeding [.addImage box ins outs, .assignInteger ins x] =
        [.addImage box ins outs, .assignInteger ins x] ∧
      f.Within p.pool.size ∧
      box.table[x]? = some (y : Int) ∧
      (∃ s, ({ p with formula := f } : Problem).SatisfiedBy s) ∧
      ∀ s, ({ p with formula := f } : Problem).SatisfiedBy s ↔
        Bits.number (ins.map (Literal.holds s)) = x ∧
          Bits.number (outs.map (Literal.holds s)) = y := by
  obtain ⟨f, reached, succeeds, within, meaning⟩ := connects.exists_run_eq (Or.inl rfl) fits
  obtain ⟨y, found, outFits⟩ := box.exists_entry_eq (connects.length_ins ▸ fits)
  rw [← connects.length_outs] at outFits
  have solutions : ∀ s, ({ p with formula := f } : Problem).SatisfiedBy s ↔
      Bits.number (ins.map (Literal.holds s)) = x ∧
        Bits.number (outs.map (Literal.holds s)) = y := by
    intro s
    rw [meaning s, and_comm]
    apply and_congr_right
    intro spelled
    rw [spelled, found, Option.some.injEq, Int.ofNat_inj, eq_comm]
  obtain ⟨s, spelled⟩ := connects.exists_number_eq fits outFits
  exact ⟨f, y, reached, succeeds, within, found, ⟨s, (solutions s).mpr spelled⟩, solutions⟩

/-- With the inputs fixed, a correct backend finds the entry of this input, and
nothing when the values of the outputs are excluded. -/
theorem solve_image {backend : Backend} (correct : backend.Correct) {x : Nat}
    (fits : x < Bits.span ins.length) :
    let given : List Command := [.addImage box ins outs, .assignInteger ins x]
    p.succeeding given = given ∧ (∃ s, (p.run given).SatisfiedBy s) ∧
      ∃ answer y, (p.run given).solve backend = .ok answer ∧ answer.isSatisfiable = true ∧
        answer.problem.pool.pack ins = .ok x ∧ answer.problem.pool.pack outs = .ok y ∧
        box.table[x]? = some (y : Int) ∧
        ∃ values, outs.mapM answer.problem.pool.literalValue = .ok values ∧
          let excluded : List Command := [.appendClause (Literal.excluding outs values)]
          answer.problem.succeeding excluded = excluded ∧
            (¬ ∃ s, (answer.problem.run excluded).SatisfiedBy s) ∧
              ∃ second, (answer.problem.run excluded).solve backend = .ok second ∧
                second.isSatisfiable = false := by
  intro given
  obtain ⟨f, y, reached, succeeds, within, found, possible, solutions⟩ :=
    connects.exists_run_input_eq fits
  obtain ⟨answer, solved, ⟨values, changed⟩, decided, shown⟩ :=
    connects.exists_solve_eq_pack correct within
  have positive := decided.mpr possible
  obtain ⟨t, shownSatisfied, insPacked, outsPacked, outsShown⟩ := shown positive
  obtain ⟨insSpelled, outsSpelled⟩ := (solutions t).mp shownSatisfied
  rw [insSpelled] at insPacked
  rw [outsSpelled] at outsPacked
  have determined : ∀ other, answer.problem.SatisfiedBy other →
      outs.map (Literal.holds other) = outs.map (Literal.holds t) := by
    intro other otherSatisfied
    rw [changed] at otherSatisfied
    have otherSpelled := ((solutions other).mp otherSatisfied).2
    exact Bits.number_inj (by simp) (otherSpelled.trans outsSpelled.symm)
  have excluded := exists_solve_eq_of_excluding (by rw [changed]; exact connects.forest)
    (by rw [changed]; exact connects.families_ne) (by rw [changed]; exact connects.bounded)
    (by rw [changed]; exact within) correct (by rw [changed]; exact connects.outs_declared)
    determined
  rw [reached]
  exact ⟨succeeds, possible, answer, y, solved, positive, insPacked, outsPacked, found, _,
    outsShown, excluded⟩

/-- With the outputs fixed, a correct backend finds an input of this entry, if
there is one. -/
theorem solve_preimage {backend : Backend} (correct : backend.Correct) {y : Nat}
    (fits : y < Bits.span outs.length) :
    let given : List Command := [.addImage box ins outs, .assignInteger outs y]
    p.succeeding given = given ∧
      ∃ answer, (p.run given).solve backend = .ok answer ∧
        (answer.isSatisfiable = true ↔ (y : Int) ∈ box.table) ∧
        (answer.isSatisfiable = true →
          ∃ x, answer.problem.pool.pack ins = .ok x ∧ box.table[x]? = some (y : Int)) := by
  intro given
  obtain ⟨f, reached, succeeds, within, meaning⟩ := connects.exists_run_eq (Or.inr rfl) fits
  have entryOf : ∀ s, ({ p with formula := f } : Problem).SatisfiedBy s →
      box.table[Bits.number (ins.map (Literal.holds s))]? = some (y : Int) := by
    intro s satisfied
    obtain ⟨image, spelled⟩ := (meaning s).mp satisfied
    rwa [spelled] at image
  obtain ⟨answer, solved, -, decided, shown⟩ := connects.exists_solve_eq_pack correct within
  rw [reached]
  refine ⟨succeeds, answer, solved, ?_, ?_⟩
  · rw [decided]
    constructor
    · rintro ⟨s, satisfied⟩
      exact List.mem_of_getElem? (entryOf s satisfied)
    · intro entryMem
      obtain ⟨x, found⟩ := List.getElem?_of_mem entryMem
      have below : x < Bits.span ins.length := by
        rw [connects.length_ins, ← box.length_table]
        exact (List.getElem?_eq_some_iff.mp found).1
      obtain ⟨s, insSpelled, outsSpelled⟩ := connects.exists_number_eq below fits
      exact ⟨s, (meaning s).mpr ⟨by rw [insSpelled, outsSpelled, found], outsSpelled⟩⟩
  · intro positive
    obtain ⟨s, satisfied, insPacked, -, -⟩ := shown positive
    exact ⟨_, insPacked, entryOf s satisfied⟩

end Connects

/-- A compiled table fits between vectors of two families where no literals have
been made equal and no clause has been stored. -/
theorem connects_of_vectors {settings : Settings} {commands : List Command}
    (reached : (fresh settings).run commands = p) (unlinked : p.pool.equalities = {})
    (noClause : p.formula.clauses = []) (bounded : p.pool.size < Word.signedBound)
    {inName outName : Text} (differ : inName ≠ outName)
    {inLeading outLeading ins outs : List Int} (insMade : p.pool.vector inName inLeading = .ok ins)
    (outsMade : p.pool.vector outName outLeading = .ok outs) (insFit : ins.length ≤ 32)
    (outsFit : outs.length ≤ 32) {box : Sbox} (insLength : ins.length = box.inputs)
    (outsLength : outs.length = box.outputs) : p.Connects box ins outs := by
  have wellFormed := wellFormed_run settings commands
  rw [reached] at wellFormed
  refine
    { forest := wellFormed.forest
      families_ne := ?families
      bounded := bounded
      within := ?within
      satisfied := ?satisfied
      declared := List.forall_mem_append.mpr
        ⟨wellFormed.vector_range insMade, wellFormed.vector_range outsMade⟩
      different := List.nodup_append'.mpr ⟨wellFormed.nodup_vector insMade,
        wellFormed.nodup_vector outsMade, wellFormed.disjoint_vector insMade outsMade differ⟩
      length_ins := insLength
      length_outs := outsLength
      ins_le := insFit
      outs_le := outsFit }
  case families =>
    obtain ⟨f, found, -⟩ := Outcome.bind_eq_ok_iff.mp insMade
    exact List.ne_nil_of_mem (Variables.mem_of_family_eq_ok found).1
  case within =>
    rw [Formula.Within, noClause]
    exact fun c clauseMem => absurd clauseMem List.not_mem_nil
  case satisfied =>
    intro s
    rw [SatisfiedBy, unlinked, Formula.holds, noClause]
    exact ⟨fun e entryMem => absurd entryMem List.not_mem_nil, rfl⟩

/-- A compiled table between vectors of two families of at most thirty-two bits
each, where no literals have been made equal, no clause has been stored and an
array can have a place for each variable.  With the inputs fixed to any number, the
problem can be satisfied; a correct backend finds the table entry of this number,
and nothing once the clause that excludes the values of the outputs is appended.
With the outputs fixed to any number, a correct backend finds an answer exactly when
the number is an entry of the table, and then the inputs are the number of such an
entry. -/
theorem image_run_spec {settings : Settings} {commands : List Command} {p : Problem}
    (reached : (fresh settings).run commands = p) (unlinked : p.pool.equalities = {})
    (noClause : p.formula.clauses = []) (bounded : p.pool.size < Word.signedBound)
    {inName outName : Text} (differ : inName ≠ outName)
    {inLeading outLeading ins outs : List Int} (insMade : p.pool.vector inName inLeading = .ok ins)
    (outsMade : p.pool.vector outName outLeading = .ok outs) (insFit : ins.length ≤ 32)
    (outsFit : outs.length ≤ 32) {table : List Int}
    (tableLength : table.length = Bits.span ins.length)
    (tableRange : ∀ y ∈ table, 0 ≤ y ∧ y < Bits.span outs.length) (reducer : Template.Reducer)
    {backend : Backend} (correct : backend.Correct) :
    ∃ box, Sbox.compile ins.length outs.length table reducer = .ok box ∧
      (∀ x, x < Bits.span ins.length →
        let given : List Command := [.addImage box ins outs, .assignInteger ins x]
        p.succeeding given = given ∧ (∃ s, (p.run given).SatisfiedBy s) ∧
          ∃ answer y, (p.run given).solve backend = .ok answer ∧ answer.isSatisfiable = true ∧
            answer.problem.pool.pack ins = .ok x ∧ answer.problem.pool.pack outs = .ok y ∧
            table[x]? = some (y : Int) ∧
            ∃ values, outs.mapM answer.problem.pool.literalValue = .ok values ∧
              let excluded : List Command := [.appendClause (Literal.excluding outs values)]
              answer.problem.succeeding excluded = excluded ∧
                (¬ ∃ s, (answer.problem.run excluded).SatisfiedBy s) ∧
                  ∃ second, (answer.problem.run excluded).solve backend = .ok second ∧
                    second.isSatisfiable = false) ∧
      ∀ y, y < Bits.span outs.length →
        let given : List Command := [.addImage box ins outs, .assignInteger outs y]
        p.succeeding given = given ∧
          ∃ answer, (p.run given).solve backend = .ok answer ∧
            (answer.isSatisfiable = true ↔ (y : Int) ∈ table) ∧
            (answer.isSatisfiable = true →
              ∃ x, answer.problem.pool.pack ins = .ok x ∧ table[x]? = some (y : Int)) := by
  obtain ⟨box, compiled, boxInputs, boxOutputs, rfl⟩ :=
    Sbox.exists_compile_eq tableLength tableRange reducer
  have connects := connects_of_vectors reached unlinked noClause bounded differ insMade outsMade
    insFit outsFit boxInputs.symm boxOutputs.symm
  exact ⟨box, compiled, fun _ => connects.solve_image correct,
    fun _ => connects.solve_preimage correct⟩

/-- A table with an entry that occurs twice and one that is never reached, between
a row of a family of two dimensions and a family of three variables. -/
theorem image_run_spec_collision :
    let commands : List Command :=
      [.declareFamily "in" (.ofInts [2, 2]), .declareFamily "out" (.ofInts [3])]
    let p := (fresh {}).run commands
    ∃ box, Sbox.compile 2 3 [6, 1, 1, 0] (.greedy none) = .ok box ∧
      (∃ answer, (p.run [.addImage box [3, 4] [5, 6, 7], .assignInteger [3, 4] 0]).solve
          Solver.solve = .ok answer ∧ answer.problem.pool.pack [5, 6, 7] = .ok 6) ∧
      ∃ answer, (p.run [.addImage box [3, 4] [5, 6, 7], .assignInteger [5, 6, 7] 5]).solve
          Solver.solve = .ok answer ∧ answer.isSatisfiable = false := by
  intro commands p
  have insMade : p.pool.vector "in" [1] = .ok [3, 4] := by decide +kernel
  have outsMade : p.pool.vector "out" [] = .ok [5, 6, 7] := by decide +kernel
  have tableRange : ∀ y ∈ ([6, 1, 1, 0] : List Int), 0 ≤ y ∧ y < Bits.span 3 := by decide
  obtain ⟨box, compiled, image, preimage⟩ := image_run_spec rfl (by decide +kernel)
    (by decide +kernel) (by decide +kernel) (by decide) insMade outsMade (by decide) (by decide)
    rfl tableRange (.greedy none) Solver.solve_correct
  obtain ⟨-, -, answer, y, solved, -, -, packed, entry, -⟩ := image 0 (by decide)
  obtain ⟨-, other, otherSolved, decided, -⟩ := preimage 5 (by decide)
  cases entry
  exact ⟨box, compiled, ⟨answer, solved, packed⟩, other, otherSolved,
    Bool.eq_false_iff.mpr (mt decided.mp (by decide))⟩

end Problem

end Clausal
