import Clausal.Proofs.Problem.Codes

/-!
# Values after an answer

After any run with a family every answer is taken, if an array can have a place for
each variable.  A literal that stands for
itself has the sign of the last literal on it, and every other one has the value
of the literal that stands for it.  Literals beyond the declared variables have
no part in this, and nothing changes but the values.
-/

namespace Clausal

namespace Variables

variable {a : Variables}

/-! ## Literals that are left out -/

/-- Leaving literals out, but no zero, leaves them out in front of the first
zero. -/
theorem beforeZero_filter {keeps : Int → Bool} (zeroKept : keeps 0 = true) (raw : List Int) :
    beforeZero (raw.filter keeps) = (beforeZero raw).filter keeps := by
  induction raw with
  | nil => rfl
  | cons lit raw ih =>
      by_cases ends : lit = 0
      · rw [ends, List.filter_cons_of_pos zeroKept]
        rfl
      · rw [beforeZero_cons ends]
        by_cases kept : keeps lit = true
        · rw [List.filter_cons_of_pos kept, List.filter_cons_of_pos kept, beforeZero_cons ends, ih]
        · rw [List.filter_cons_of_neg kept, List.filter_cons_of_neg kept, ih]

/-- Literals beyond the variables have no part in an answer. -/
theorem decode_filter (a : Variables) (raw : List Int) :
    a.decode (raw.filter fun lit => lit.natAbs ≤ a.size) = a.decode raw := by
  have sameValues : directValues a.size (raw.filter fun lit => lit.natAbs ≤ a.size) =
      directValues a.size raw := by
    rw [directValues, beforeZero_filter (by simp), List.filter_filter, directValues]
    simp only [Bool.and_self]
  rw [decode, sameValues]
  rfl

/-! ## Values of codes -/

variable {after : Variables} {raw : List Int} {code : Nat}

/-- The variable of a root has the value that the answer itself gives it. -/
theorem literalValue_natAbs_root_of_decode (forest : a.equalities.Forest)
    (decoded : a.decode raw = .ok after) (positive : 1 ≤ code) (declared : code ≤ a.size) :
    after.literalValue (a.equalities.root code).natAbs =
      .ok (answered raw (a.equalities.root code).natAbs) := by
  have rootNe : a.equalities.root code ≠ 0 := mt forest.root_eq_zero_iff.mp (by omega)
  have rootLe := forest.natAbs_root_le code
  rw [literalValue_of_decode forest decoded (by omega) (by omega), forest.root_natAbs_root,
    Literal.holds_natCast _ (by omega)]

/-- A code has the value of the variable of its root, or the opposite. -/
theorem literalValue_natCast_of_decode (forest : a.equalities.Forest)
    (decoded : a.decode raw = .ok after) (positive : 1 ≤ code) (declared : code ≤ a.size) :
    after.literalValue code = .ok (if a.equalities.root code < 0
      then !answered raw (a.equalities.root code).natAbs
      else answered raw (a.equalities.root code).natAbs) := by
  have rootNe : a.equalities.root code ≠ 0 := mt forest.root_eq_zero_iff.mp (by omega)
  rw [literalValue_of_decode forest decoded (by omega) (by omega), Literal.holds]
  by_cases negative : a.equalities.root code < 0
  · rw [if_pos negative, if_neg (by omega)]
  · rw [if_neg negative, if_pos (by omega)]

end Variables

namespace Problem

/-- Any answer that is taken after any run that has declared a family.  If an array
can have a place for each variable, taking it succeeds and changes nothing but the
values, of which there is one for each variable.  A declared code is resolved to a
literal on a declared variable, and it has the value of this variable, or the
opposite if that literal is negative.  The variable itself is true when the last
literal on it, among those of the answer before its first zero, is positive.
Without the literals beyond the declared variables the answer leads to the same.
With more variables no answer is taken. -/
theorem decode_run_spec {settings : Settings} {commands : List Command} {a : Variables}
    (reached : ((fresh settings).run commands).pool = a) (families : a.families ≠ [])
    (raw : List Int) :
    (a.size < Word.signedBound → ∃ values after, a.decode raw = .ok after ∧
      after = { a with values := some values } ∧ values.length = a.size ∧
      (∀ code : Nat, 1 ≤ code → code ≤ a.size →
        ∃ r b, a.resolve code = .ok r ∧ r ≠ 0 ∧ r.natAbs ≤ a.size ∧
          after.literalValue code = .ok (if r < 0 then !b else b) ∧
          after.literalValue r.natAbs = .ok b ∧
          (b = true ↔ ∃ front back, raw = front ++ (r.natAbs : Int) :: back ∧ 0 ∉ front ∧
            ∀ lit ∈ Variables.beforeZero back, lit.natAbs ≠ r.natAbs)) ∧
      a.decode (raw.filter fun lit => lit.natAbs ≤ a.size) = .ok after) ∧
    (Word.signedBound ≤ a.size → a.decode raw = .error .beyondDimension) := by
  have forest := (wellFormed_run settings commands).forest
  rw [reached] at forest
  constructor
  · intro bounded
    have decoded := Variables.decode_eq forest families bounded raw
    refine ⟨_, _, decoded, rfl, by simp, ?codes, (Variables.decode_filter a raw).trans decoded⟩
    case codes =>
      intro code positive declared
      have codeNe : (code : Int) ≠ 0 := by omega
      have rootNe : a.equalities.root code ≠ 0 := mt forest.root_eq_zero_iff.mp codeNe
      refine ⟨_, _, forest.resolve_eq codeNe, rootNe,
        Nat.le_trans (forest.natAbs_root_le code) (by omega),
        Variables.literalValue_natCast_of_decode forest decoded positive declared,
        Variables.literalValue_natAbs_root_of_decode forest decoded positive declared, ?_⟩
      exact Variables.answered_eq_true_iff (Int.natAbs_pos.mpr rootNe)
  · intro beyond
    rw [Variables.decode_eq_error fun taken => Nat.not_lt.mpr beyond taken.2, if_neg families]

/-- An answer with two literals on a variable, one beyond the declared variables
and one after a zero, and equalities with a declared and an undeclared variable:
the third code has the opposite value of the first. -/
theorem decode_run_spec_twice :
    let a := ((fresh {}).run [.declareFamily "x" (.ofInts [4]), .declareEqual 3 (-1),
      .declareEqual (-7) 4]).pool
    ∃ after, a.decode [1, 7, -2, 2, -1, 0, 1] = .ok after ∧
      after = { a with values := some [false, true, true, false] } ∧
      (∃ b, a.resolve 3 = .ok (-1) ∧ after.literalValue 1 = .ok b ∧
        after.literalValue 3 = .ok !b) ∧
      a.decode [1, -2, 2, -1, 0, 1] = .ok after := by
  intro a
  obtain ⟨values, after, decoded, -, -, codes, again⟩ :=
    (decode_run_spec (a := a) rfl (by decide +kernel) [1, 7, -2, 2, -1, 0, 1]).1
      (by decide +kernel)
  have held : a.decode [1, 7, -2, 2, -1, 0, 1] =
      .ok { a with values := some [false, true, true, false] } := by decide +kernel
  have resolved : a.resolve 3 = .ok (-1) := by decide +kernel
  have counted : [1, 7, -2, 2, -1, 0, 1].filter (fun lit : Int => lit.natAbs ≤ a.size) =
      [1, -2, 2, -1, 0, 1] := by decide +kernel
  rw [counted] at again
  obtain ⟨r, b, found, -, -, third, first, -⟩ := codes 3 (by decide) (by decide +kernel)
  cases resolved.symm.trans found
  exact ⟨after, decoded, Except.ok.inj (decoded.symm.trans held), ⟨b, resolved, first, third⟩,
    again⟩

/-- No answer is taken for a family of as many variables as no array can have
places. -/
theorem not_decode_every_size :
    let a := ((fresh {}).run [.declareFamily "x" (.ofInts [0x8000000000000000])]).pool
    a.families ≠ [] ∧ a.decode [] = .error .beyondDimension := by
  intro a
  exact ⟨by decide +kernel, by decide +kernel⟩

end Problem

end Clausal
