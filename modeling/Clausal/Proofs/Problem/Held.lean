import Clausal.Proofs.Problem.Agreement

/-!
# Values that are held

The sizes of the families add up to the number of variables, and there is one
held value for each variable or there are none.  A declaration that succeeds
drops the values, and no other call changes the number of variables.  So where
values are held every variable has one, and a literal is unknown only if it is
beyond the variables.  Which literal it is cannot be reported if it is too long.
-/

namespace Clausal

namespace Variables

variable {a : Variables} {s : Valuation} {lit : Int}

theorem Shows.heldValues_eq (held : a.Shows s) :
    a.heldValues = .ok ((List.range' 1 a.size).map s) :=
  Variables.heldValues_eq held

/-- A literal beyond the variables is refused with their number. -/
theorem Shows.literalValue_of_size_lt (held : a.Shows s) (beyond : a.size < lit.natAbs) :
    a.literalValue lit = .error (Error.beyondAssignment lit a.size).raised := by
  have litNe : lit ≠ 0 := by omega
  have missing : ((List.range' 1 a.size).map s)[lit.natAbs - 1]? = none := by
    rw [List.getElem?_eq_none_iff, List.length_map, List.length_range']
    omega
  rw [literalValue, held.heldValues_eq]
  simp [litNe, missing, bind, Except.bind]

/-- Zero is refused as a literal before its position is looked at. -/
theorem Shows.literalValue_zero (held : a.Shows s) : a.literalValue 0 = .error .zeroLiteral := by
  rw [literalValue, held.heldValues_eq]
  rfl

/-- A literal is refused for being zero or for being beyond the variables, and for
nothing else. -/
theorem Shows.literalValue_eq_error_iff (held : a.Shows s) {e : Error} :
    a.literalValue lit = .error e ↔ lit = 0 ∧ e = .zeroLiteral ∨
      a.size < lit.natAbs ∧ Decimal.Legible lit ∧ e = .beyondAssignment lit a.size ∨
      a.size < lit.natAbs ∧ ¬ Decimal.Legible lit ∧ e = .numberTooLong := by
  by_cases zero : lit = 0
  · rw [zero, held.literalValue_zero]
    simp [eq_comm]
  · by_cases beyond : a.size < lit.natAbs
    · rw [held.literalValue_of_size_lt beyond, Except.error.injEq, Error.raised_eq_iff,
        Error.integers, List.forall_mem_singleton]
      simp only [zero, beyond, false_and, true_and, false_or]
      rw [and_comm (b := Decimal.Legible lit), and_comm (b := ¬ Decimal.Legible lit)]
    · rw [held.literalValue_eq zero (by omega)]
      simp [zero, beyond]

/-- Every variable has the value of its code. -/
theorem Shows.exists_valueOf_eq (held : a.Shows s) (wellFormed : a.WellFormed) {name : Text}
    {coordinates : List Int} (hasVariable : a.HasVariable name coordinates) :
    ∃ code b, a.codeOf name coordinates = .ok code ∧ a.literalValue code = .ok b ∧
      a.valueOf name coordinates = .ok b := by
  obtain ⟨code, coded⟩ := wellFormed.exists_codeOf_eq_iff.mpr hasVariable
  have range := wellFormed.codeOf_range coded
  have value : a.literalValue code = .ok (Literal.holds s code) :=
    held.literalValue_eq (by omega) (by omega)
  refine ⟨code, _, coded, value, ?_⟩
  rw [valueOf, held.heldValues_eq, coded]
  exact value

end Variables

namespace Problem

/-- After any run the number of variables is the sum of the sizes of the families,
and there are as many held values, or none.  While values are held, a literal is
refused exactly if it is zero or beyond the variables, and it is named then if it
can be written.  Each variable, given by the name of a family and coordinates within
its dimensions, has the value of its code. -/
theorem heldValues_run_spec {settings : Settings} {commands : List Command} {a : Variables}
    (reached : ((fresh settings).run commands).pool = a) :
    a.size = (a.families.map Family.size).sum ∧
      (a.values = none ∨ ∃ values, a.values = some values ∧ values.length = a.size) ∧
      (a.isAssigned = true →
        (∀ lit e, a.literalValue lit = .error e ↔ lit = 0 ∧ e = .zeroLiteral ∨
          a.size < lit.natAbs ∧ Decimal.Legible lit ∧ e = .beyondAssignment lit a.size ∨
          a.size < lit.natAbs ∧ ¬ Decimal.Legible lit ∧ e = .numberTooLong) ∧
        ∀ name coordinates, a.HasVariable name coordinates →
          ∃ code b, a.codeOf name coordinates = .ok code ∧ a.literalValue code = .ok b ∧
            a.valueOf name coordinates = .ok b) := by
  have wellFormed := wellFormed_run settings commands
  rw [reached] at wellFormed
  refine ⟨wellFormed.size_eq, ?length, ?asked⟩
  case length =>
    cases held : a.values with
    | none => exact Or.inl rfl
    | some values => exact Or.inr ⟨values, rfl, wellFormed.length_values held⟩
  case asked =>
    intro assigned
    obtain ⟨s, held⟩ := wellFormed.exists_shows assigned
    exact ⟨fun lit e => held.literalValue_eq_error_iff,
      fun name coordinates => held.exists_valueOf_eq wellFormed⟩

/-- Refused declarations and a text without an assignment, after an answer: the
values are those of the two families before it. -/
theorem heldValues_run_spec_refused :
    let a := ((fresh {}).run [.declareFamily "x" (.ofInts [2, 2]), .decode [1],
      .declareGenerated (.ofInts [1]), .readSolution "SAT 1 -3 9 5 0",
      .declareFamily "x" (.ofInts [3]), .declareGenerated (.ofInts [4, 0]),
      .readSolution "UNSAT"]).pool
    a.size = 5 ∧ a.isAssigned = true ∧
      (∃ values, a.values = some values ∧ values.length = a.size) ∧
      a.literalValue (-6) = .error (.beyondAssignment (-6) a.size) ∧
      ∃ code b, a.codeOf "x" [1, 0] = .ok code ∧ a.literalValue code = .ok b ∧
        a.valueOf "x" [1, 0] = .ok b := by
  intro a
  obtain ⟨-, length, asked⟩ := heldValues_run_spec (a := a) rfl
  have assigned : a.isAssigned = true := by decide +kernel
  have size : a.size = 5 := by decide +kernel
  obtain ⟨refused, values⟩ := asked assigned
  have declared : a.HasVariable "x" [1, 0] :=
    (Variables.WellFormed.exists_codeOf_eq_iff (wellFormed_run {} _)).mp ⟨3, by decide +kernel⟩
  have legible : Decimal.Legible (-6) := Decimal.legible_of_natAbs_lt (by decide)
  refine ⟨size, assigned, ?_, (refused (-6) _).mpr (Or.inr (Or.inl ⟨?_, legible, rfl⟩)),
    values "x" [1, 0] declared⟩
  · rcases length with none | some
    · rw [Variables.isAssigned, none] at assigned
      contradiction
    · exact some
  · rw [size]
    decide

/-- A literal that is too long is beyond the variables, but is not named as one that
is. -/
theorem not_literalValue_names_literal :
    let a := ((fresh {}).run [.declareFamily "x" (.ofInts [1]), .decode [1]]).pool
    a.isAssigned = true ∧ a.size < Decimal.overlong.natAbs ∧
      a.literalValue Decimal.overlong ≠ .error (.beyondAssignment Decimal.overlong a.size) := by
  intro a
  exact ⟨by decide +kernel, by decide +kernel, by decide +kernel⟩

end Problem

end Clausal
