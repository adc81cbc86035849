import Clausal.Formula
import Clausal.Proofs.Bits
import Clausal.Proofs.Clause

/-!
# What constraints say

Every constraint that is written as clauses extends the formula by clauses that
are true together exactly under the valuations that meet the constraint.
`Adds` relates a formula, the formula with the constraint and what the
constraint asks of a valuation.
-/

namespace Clausal.Formula

/-- A formula has clauses at its end that are true together exactly where a
condition holds. -/
def Adds (f g : Formula) (condition : Valuation → Prop) : Prop :=
  ∃ cs, g = f.extend cs ∧ ∀ s, (∀ c ∈ cs, c.holds s = true) ↔ condition s

variable {f g : Formula}

theorem holds_extend_iff {s : Valuation} {cs : List Clause} :
    (f.extend cs).holds s = true ↔ f.holds s = true ∧ ∀ c ∈ cs, c.holds s = true := by
  simp [holds, extend]

theorem adds_extend {cs : List Clause} {condition : Valuation → Prop}
    (meaning : ∀ s, (∀ c ∈ cs, c.holds s = true) ↔ condition s) :
    f.Adds (f.extend cs) condition :=
  ⟨cs, rfl, meaning⟩

/-- A constraint adds its condition to what the formula asks. -/
theorem Adds.holds_iff {condition : Valuation → Prop} (adds : f.Adds g condition)
    (s : Valuation) : g.holds s = true ↔ f.holds s = true ∧ condition s := by
  obtain ⟨cs, rfl, meaning⟩ := adds
  rw [holds_extend_iff, meaning]

/-! ## Clauses -/

/-- The clause of some literals says that one of them is true. -/
theorem adds_of_appendClause {lits : List Int} (added : f.appendClause lits = .ok g) :
    f.Adds g fun s => Literal.AnyHolds s lits := by
  obtain ⟨c, made, equal⟩ := Outcome.bind_eq_ok_iff.mp added
  cases Outcome.pure_eq_ok_iff.mp equal
  apply adds_extend
  intro s
  rw [List.forall_mem_singleton, Clause.holds_eq_true_iff, Clause.ofLiterals_eq_ok_iff.mp made]

theorem adds_of_appendClauses {clauses : List (List Int)}
    (added : f.appendClauses clauses = .ok g) :
    f.Adds g fun s => ∀ lits ∈ clauses, Literal.AnyHolds s lits := by
  obtain ⟨cs, made, equal⟩ := Outcome.bind_eq_ok_iff.mp added
  cases Outcome.pure_eq_ok_iff.mp equal
  apply adds_extend
  intro s
  apply Outcome.forall_mem_of_mapM made
  intro lits _ c result
  rw [Clause.holds_eq_true_iff, Clause.ofLiterals_eq_ok_iff.mp result]

/-- Literals of which none is zero are added as a clause. -/
theorem exists_appendClause_eq {lits : List Int} (litsNe : ∀ lit ∈ lits, lit ≠ 0) :
    ∃ g, f.appendClause lits = .ok g := by
  have made : Clause.ofLiterals lits = .ok ⟨lits, litsNe⟩ := Clause.ofLiterals_eq_ok_iff.mpr rfl
  exact ⟨f.extend [⟨lits, litsNe⟩], Outcome.bind_eq_ok_iff.mpr ⟨_, made, rfl⟩⟩

/-! ## The variables of a formula -/

/-- Every literal of a formula is on one of the first `n` variables. -/
def Within (f : Formula) (n : Nat) : Prop :=
  ∀ c ∈ f.clauses, ∀ lit ∈ c.literals, lit.natAbs ≤ n

variable {n : Nat}

theorem Within.extend (within : f.Within n) {cs : List Clause}
    (more : ∀ c ∈ cs, ∀ lit ∈ c.literals, lit.natAbs ≤ n) : (f.extend cs).Within n :=
  List.forall_mem_append.mpr ⟨within, more⟩

theorem Within.appendClause (within : f.Within n) {lits : List Int}
    (litsLe : ∀ lit ∈ lits, lit.natAbs ≤ n) (added : f.appendClause lits = .ok g) :
    g.Within n := by
  obtain ⟨c, made, equal⟩ := Outcome.bind_eq_ok_iff.mp added
  cases Outcome.pure_eq_ok_iff.mp equal
  apply within.extend
  rw [List.forall_mem_singleton, Clause.ofLiterals_eq_ok_iff.mp made]
  exact litsLe

/-- The unit clauses for a number are on the variables that it is given to. -/
theorem Within.assignInteger (within : f.Within n) {lits : List Int}
    (litsLe : ∀ lit ∈ lits, lit.natAbs ≤ n) {value : Int}
    (added : f.assignInteger lits value = .ok g) : g.Within n := by
  obtain ⟨word, -, rest⟩ := Outcome.bind_eq_ok_iff.mp added
  obtain ⟨units, made, equal⟩ := Outcome.bind_eq_ok_iff.mp rest
  cases Outcome.pure_eq_ok_iff.mp equal
  apply within.extend
  refine Outcome.forall_mem_results made ?_
  rintro ⟨lit, bit⟩ pairMem c result
  have litLe := litsLe lit (List.of_mem_zip (List.mem_reverse.mp pairMem)).1
  rw [Clause.ofLiterals_eq_ok_iff.mp result, List.forall_mem_singleton]
  cases bit <;> simpa using litLe

/-! ## Equality and parity -/

/-- The two clauses for an equality say that the literals have the same value. -/
theorem adds_of_assertEqualClauses {x y : Int} (added : f.assertEqualClauses x y = .ok g) :
    f.Adds g fun s => Literal.holds s x = Literal.holds s y := by
  obtain ⟨notY, yNegated, rest⟩ := Outcome.bind_eq_ok_iff.mp added
  obtain ⟨first, firstMade, rest⟩ := Outcome.bind_eq_ok_iff.mp rest
  obtain ⟨notX, xNegated, rest⟩ := Outcome.bind_eq_ok_iff.mp rest
  obtain ⟨second, secondMade, equal⟩ := Outcome.bind_eq_ok_iff.mp rest
  cases Outcome.pure_eq_ok_iff.mp equal
  obtain ⟨yNe, rfl⟩ := Literal.negate_eq_ok_iff.mp yNegated
  obtain ⟨xNe, rfl⟩ := Literal.negate_eq_ok_iff.mp xNegated
  apply adds_extend
  intro s
  rw [List.forall_mem_cons, List.forall_mem_singleton, Clause.holds, Clause.holds,
    Clause.ofInts_eq_ok_iff.mp firstMade, Clause.ofInts_eq_ok_iff.mp secondMade]
  simp only [List.any_cons, List.any_nil, Literal.holds_neg s xNe, Literal.holds_neg s yNe]
  cases Literal.holds s x <;> cases Literal.holds s y <;> decide

/-- The four clauses for a parity say that an even number of the literals is
true. -/
theorem adds_of_assertXor3 {x y z : Int} (added : f.assertXor3 x y z = .ok g) :
    f.Adds g fun s =>
      ((Literal.holds s x).xor (Literal.holds s y)).xor (Literal.holds s z) = false := by
  obtain ⟨notX, xNegated, rest⟩ := Outcome.bind_eq_ok_iff.mp added
  obtain ⟨first, firstMade, rest⟩ := Outcome.bind_eq_ok_iff.mp rest
  obtain ⟨notY, yNegated, rest⟩ := Outcome.bind_eq_ok_iff.mp rest
  obtain ⟨second, secondMade, rest⟩ := Outcome.bind_eq_ok_iff.mp rest
  obtain ⟨notZ, zNegated, rest⟩ := Outcome.bind_eq_ok_iff.mp rest
  obtain ⟨third, thirdMade, rest⟩ := Outcome.bind_eq_ok_iff.mp rest
  obtain ⟨againNotX, xAgain, rest⟩ := Outcome.bind_eq_ok_iff.mp rest
  obtain ⟨againNotY, yAgain, rest⟩ := Outcome.bind_eq_ok_iff.mp rest
  obtain ⟨againNotZ, zAgain, rest⟩ := Outcome.bind_eq_ok_iff.mp rest
  obtain ⟨fourth, fourthMade, equal⟩ := Outcome.bind_eq_ok_iff.mp rest
  cases Outcome.pure_eq_ok_iff.mp equal
  cases xNegated.symm.trans xAgain
  cases yNegated.symm.trans yAgain
  cases zNegated.symm.trans zAgain
  obtain ⟨xNe, rfl⟩ := Literal.negate_eq_ok_iff.mp xNegated
  obtain ⟨yNe, rfl⟩ := Literal.negate_eq_ok_iff.mp yNegated
  obtain ⟨zNe, rfl⟩ := Literal.negate_eq_ok_iff.mp zNegated
  apply adds_extend
  intro s
  rw [List.forall_mem_cons, List.forall_mem_cons, List.forall_mem_cons,
    List.forall_mem_singleton, Clause.holds, Clause.holds, Clause.holds, Clause.holds,
    Clause.ofInts_eq_ok_iff.mp firstMade, Clause.ofInts_eq_ok_iff.mp secondMade,
    Clause.ofInts_eq_ok_iff.mp thirdMade, Clause.ofInts_eq_ok_iff.mp fourthMade]
  simp only [List.any_cons, List.any_nil, Literal.holds_neg s xNe, Literal.holds_neg s yNe,
    Literal.holds_neg s zNe]
  cases Literal.holds s x <;> cases Literal.holds s y <;> cases Literal.holds s z <;> decide

/-! ## Numbers -/

/-- The unit clause of a literal and a bit says that the literal has this value. -/
theorem holds_unit_iff {s : Valuation} {lit : Int} {bit : Bool} {c : Clause}
    (made : unit lit bit = .ok c) : c.holds s = true ↔ Literal.holds s lit = bit := by
  have literals := Clause.ofLiterals_eq_ok_iff.mp made
  have litNe : lit ≠ 0 := by
    have signedNe := c.nonzero (if bit then lit else -lit) (by simp [literals])
    cases bit with
    | true => exact signedNe
    | false => exact Int.neg_ne_zero.mp signedNe
  rw [Clause.holds, literals]
  cases bit with
  | true => simp
  | false => simp [Literal.holds_neg s litNe]

/-- Some things have as many bits for their values when each has its own. -/
theorem forall_mem_zip_iff {α : Type} (value : α → Bool) {as : List α} {bits : List Bool}
    (sameLength : as.length = bits.length) :
    (∀ e ∈ as.zip bits, value e.1 = e.2) ↔ as.map value = bits := by
  induction as generalizing bits with
  | nil =>
      cases List.length_eq_zero_iff.mp sameLength.symm
      simp
  | cons a as ih =>
      cases bits with
      | nil => contradiction
      | cons bit bits =>
          rw [List.zip_cons_cons, List.forall_mem_cons, ih (Nat.succ.inj sameLength),
            List.map_cons, List.cons.injEq]

/-- The unit clauses for a number say that the literals spell its lowest bits. -/
theorem adds_of_assignInteger {lits : List Int} {value : Int}
    (added : f.assignInteger lits value = .ok g) :
    f.Adds g fun s =>
      (Bits.number (lits.map (Literal.holds s)) : Int) = value % Bits.span lits.length := by
  obtain ⟨word, required, rest⟩ := Outcome.bind_eq_ok_iff.mp added
  obtain ⟨units, made, equal⟩ := Outcome.bind_eq_ok_iff.mp rest
  cases Outcome.pure_eq_ok_iff.mp equal
  rw [Bits.eq_of_requireWord required] at made
  apply adds_extend
  intro s
  have sameLength : lits.length = (Bits.ofInt lits.length value).length := by
    rw [Bits.length_ofInt]
  have spelled : (Bits.number (lits.map (Literal.holds s)) : Int) =
      value % Bits.span lits.length ↔
        ∀ e ∈ lits.zip (Bits.ofInt lits.length value), Literal.holds s e.1 = e.2 := by
    rw [← Bits.number_ofInt, Int.ofNat_inj, Bits.number_eq_number_iff (by simp),
      forall_mem_zip_iff (Literal.holds s) sameLength]
  apply Iff.trans _ spelled.symm
  have unitwise := Outcome.forall_mem_of_mapM made
    (P := fun c => c.holds s = true) (Q := fun e => Literal.holds s e.1 = e.2)
    fun e _ c result => holds_unit_iff result
  rw [unitwise]
  simp only [List.mem_reverse]

/-- Any literals are given a number of thirty-two bits. -/
theorem exists_assignInteger_eq {lits : List Int} (litsNe : ∀ lit ∈ lits, lit ≠ 0) {n : Nat}
    (isWord : n < Bits.wordBound) : ∃ g, f.assignInteger lits n = .ok g := by
  have unitwise : ∀ e ∈ (lits.zip (Bits.ofInt lits.length n)).reverse,
      ∃ c, unit e.1 e.2 = .ok c := by
    rintro ⟨lit, bit⟩ pairMem
    have litNe := litsNe lit (List.of_mem_zip (List.mem_reverse.mp pairMem)).1
    have signedNe : ∀ l ∈ [if bit then lit else -lit], l ≠ 0 := by
      cases bit <;> simpa using litNe
    exact ⟨⟨_, signedNe⟩, Clause.ofLiterals_eq_ok_iff.mpr rfl⟩
  obtain ⟨units, made⟩ := Outcome.exists_mapM_eq_ok unitwise
  exact ⟨f.extend units, Outcome.bind_eq_ok_iff.mpr ⟨n, Bits.requireWord_of_lt isWord,
    Outcome.bind_eq_ok_iff.mpr ⟨units, made, rfl⟩⟩⟩

end Clausal.Formula
