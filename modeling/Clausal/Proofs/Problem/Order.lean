import Clausal.Proofs.Problem.Codes

/-!
# The order of an answer

An answer may name a variable and later on take it back, by naming its opposite
and not the variable again.  A variable that stands for itself is true when the
answer names it and does not take it back.  So whether the answer names it decides
alone exactly where nothing is taken back, and there neither the order of the
literals nor how often one of them is named matters.
-/

namespace Clausal

namespace Variables

variable {raw : List Int} {v : Nat}

/-- The answer names a variable before its first zero. -/
def Names (raw : List Int) (v : Nat) : Prop :=
  (v : Int) ∈ beforeZero raw

instance (raw : List Int) (v : Nat) : Decidable (Names raw v) :=
  inferInstanceAs (Decidable (_ ∈ _))

/-- The answer names a variable, then its opposite, and not the variable again
before the first zero. -/
def TakesBack (raw : List Int) (v : Nat) : Prop :=
  ∃ front back, beforeZero raw = front ++ -(v : Int) :: back ∧
    (v : Int) ∈ front ∧ (v : Int) ∉ back

theorem TakesBack.names (takesBack : TakesBack raw v) : Names raw v := by
  obtain ⟨front, back, split, named, -⟩ := takesBack
  rw [Names, split]
  exact List.mem_append_left _ named

/-- What is named without its opposite is not taken back. -/
theorem not_takesBack_of_not_mem (unopposed : -(v : Int) ∉ beforeZero raw) :
    ¬ TakesBack raw v := by
  rintro ⟨front, back, split, -, -⟩
  rw [split] at unopposed
  exact unopposed (List.mem_append_right front List.mem_cons_self)

/-- Of two different members of a list one comes after the other. -/
theorem mem_or_mem_of_append_cons_eq {x y : Int} {front back earlier later : List Int}
    (different : x ≠ y) (same : front ++ x :: back = earlier ++ y :: later) :
    y ∈ back ∨ x ∈ later := by
  obtain ⟨between, -, rest⟩ | ⟨between, -, rest⟩ := List.append_eq_append_iff.mp same
  · cases between with
    | nil => exact absurd (List.cons.inj rest).1 different
    | cons first between =>
        left
        rw [(List.cons.inj rest).2]
        exact List.mem_append_right between List.mem_cons_self
  · cases between with
    | nil => exact absurd (List.cons.inj rest).1.symm different
    | cons first between =>
        right
        rw [(List.cons.inj rest).2]
        exact List.mem_append_right between List.mem_cons_self

/-- An answer makes a variable true when it names it and does not take it back. -/
theorem answered_eq_true_iff_names (positive : 0 < v) :
    answered raw v = true ↔ Names raw v ∧ ¬ TakesBack raw v := by
  have notOpposite : (v : Int) ≠ -(v : Int) := by omega
  constructor
  · intro isTrue
    obtain ⟨front, back, rfl, noZero, others⟩ := (answered_eq_true_iff positive).mp isTrue
    have counted := beforeZero_append_cons noZero (show (v : Int) ≠ 0 by omega) back
    constructor
    · rw [Names, counted]
      exact List.mem_append_right front List.mem_cons_self
    · rintro ⟨earlier, later, split, -, notAgain⟩
      obtain opposite | again :=
        mem_or_mem_of_append_cons_eq notOpposite (counted.symm.trans split)
      · exact others _ opposite (by omega)
      · exact notAgain again
  · rintro ⟨named, kept⟩
    have found : (lastLiteral? raw v).isSome = true := by
      rw [lastLiteral?, List.find?_isSome]
      exact ⟨v, List.mem_reverse.mpr named, by simp⟩
    obtain ⟨lit, last⟩ := Option.isSome_iff_exists.mp found
    obtain ⟨onVariable, earlier, later, split, others⟩ := exists_of_lastLiteral?_eq_some last
    have notLater : (v : Int) ∉ later := fun again => others _ again (Int.natAbs_natCast v)
    rw [answered, last]
    obtain itself | opposite : lit = v ∨ lit = -v := by omega
    · simpa [itself] using positive
    · -- The last literal is the opposite one, so the variable has been taken back.
      subst opposite
      refine absurd ⟨earlier, later, split, ?_, notLater⟩ kept
      rw [Names, split, List.mem_append, List.mem_cons] at named
      obtain before | same | again := named
      · exact before
      · exact absurd same notOpposite
      · exact absurd again notLater

/-- An answer is taken like another one that makes the same roots true. -/
theorem decode_eq_of_answered_eq {a : Variables} (forest : a.equalities.Forest)
    {others : List Int} (same : ∀ v : Nat, 1 ≤ v → v ≤ a.size → a.equalities.root v = v →
      answered others v = answered raw v) : a.decode others = a.decode raw := by
  have sameValues : (List.range' 1 a.size).map (a.equalities.throughRoots (answered others)) =
      (List.range' 1 a.size).map (a.equalities.throughRoots (answered raw)) := by
    apply List.map_congr_left
    intro code codeMem
    have declared := List.mem_range'_1.mp codeMem
    have rootNe : a.equalities.root code ≠ 0 := mt forest.root_eq_zero_iff.mp (by omega)
    have rootLe := forest.natAbs_root_le code
    have sameRoot := same (a.equalities.root code).natAbs (by omega) (by omega)
      (forest.root_natAbs_root code)
    rw [Equalities.throughRoots, Equalities.throughRoots, Literal.holds, Literal.holds, sameRoot]
  by_cases taken : a.families ≠ [] ∧ a.size < Word.signedBound
  · rw [decode_eq forest taken.1 taken.2, decode_eq forest taken.1 taken.2, sameValues]
  · rw [decode_eq_error taken, decode_eq_error taken]

end Variables

namespace Problem

open Variables

/-- Any answer that is taken after any run that has declared a family, and no more
variables than an array has places for.  A declared variable that stands for itself
is true when the answer names it and does not take it back, so it is true for being
named alone exactly if it is not taken back.  Another answer that names the same of
these variables and takes the same of them back, in any order and as often as it
may, leads to the same values. -/
theorem decode_order_run_spec {settings : Settings} {commands : List Command} {a : Variables}
    (reached : ((fresh settings).run commands).pool = a) (families : a.families ≠ [])
    (bounded : a.size < Word.signedBound) (raw : List Int) :
    ∃ after, a.decode raw = .ok after ∧
      (∀ v : Nat, 1 ≤ v → v ≤ a.size → a.resolve v = .ok (v : Int) →
        ∃ b, after.literalValue v = .ok b ∧
          (b = true ↔ Names raw v ∧ ¬ TakesBack raw v) ∧
          ((b = true ↔ Names raw v) ↔ ¬ TakesBack raw v)) ∧
      ∀ others, (∀ v : Nat, 1 ≤ v → v ≤ a.size → a.resolve v = .ok (v : Int) →
          (Names others v ↔ Names raw v) ∧ (TakesBack others v ↔ TakesBack raw v)) →
        a.decode others = .ok after := by
  have forest := (wellFormed_run settings commands).forest
  rw [reached] at forest
  have decoded := decode_eq forest families bounded raw
  have itself : ∀ v : Nat, 1 ≤ v → (a.resolve v = .ok (v : Int) ↔ a.equalities.root v = v) := by
    intro v positive
    rw [Variables.resolve, forest.resolve_eq (by omega), Except.ok.injEq]
  refine ⟨_, decoded, ?values, ?order⟩
  case values =>
    intro v positive declared resolved
    have value : _ = Except.ok (Literal.holds (answered raw) (a.equalities.root v)) :=
      literalValue_of_decode forest decoded (by omega) (by omega)
    rw [(itself v positive).mp resolved, Literal.holds_natCast _ positive] at value
    have named : answered raw v = true ↔ _ := answered_eq_true_iff_names positive
    refine ⟨_, value, named, ?_⟩
    rw [named]
    constructor
    · intro alone takesBack
      exact (alone.mpr takesBack.names).2 takesBack
    · intro kept
      exact and_iff_left kept
  case order =>
    intro others alike
    rw [← decoded]
    apply decode_eq_of_answered_eq forest
    intro v positive declared isRoot
    obtain ⟨sameNamed, sameTaken⟩ := alike v positive declared ((itself v positive).mpr isRoot)
    rw [Bool.eq_iff_iff, answered_eq_true_iff_names positive, answered_eq_true_iff_names positive,
      sameNamed, sameTaken]

/-- Two answers that name the first two variables and take the second one back, in
different orders and with different literals beyond those. -/
theorem decode_order_run_spec_reordered :
    let a := ((fresh {}).run [.declareFamily "x" (.ofInts [3]), .declareEqual 3 (-1)]).pool
    TakesBack [2, 1, -2, 0, 2] 2 ∧
      ∃ after, a.decode [2, 1, -2, 0, 2] = .ok after ∧
        a.decode [2, 2, -2, 7, -3, 1, 1] = .ok after ∧
          after.literalValue 1 = .ok true ∧ after.literalValue 2 = .ok false := by
  intro a
  have taken : TakesBack [2, 1, -2, 0, 2] 2 := ⟨[2, 1], [], by decide, by decide, by decide⟩
  have otherTaken : TakesBack [2, 2, -2, 7, -3, 1, 1] 2 :=
    ⟨[2, 2], [7, -3, 1, 1], by decide, by decide, by decide⟩
  have kept : ¬ TakesBack [2, 1, -2, 0, 2] 1 := not_takesBack_of_not_mem (by decide)
  have otherKept : ¬ TakesBack [2, 2, -2, 7, -3, 1, 1] 1 := not_takesBack_of_not_mem (by decide)
  have size : a.size = 3 := by decide +kernel
  obtain ⟨after, decoded, values, order⟩ :=
    decode_order_run_spec (a := a) rfl (by decide +kernel) (by decide +kernel) [2, 1, -2, 0, 2]
  obtain ⟨first, firstValue, firstNamed, -⟩ :=
    values 1 (by decide) (by omega) (by decide +kernel)
  obtain ⟨second, secondValue, secondNamed, -⟩ :=
    values 2 (by decide) (by omega) (by decide +kernel)
  have isTrue : first = true := firstNamed.mpr ⟨by decide, kept⟩
  have isFalse : second = false := Bool.eq_false_iff.mpr fun named =>
    (secondNamed.mp named).2 taken
  refine ⟨taken, after, decoded, ?_, isTrue ▸ firstValue, isFalse ▸ secondValue⟩
  apply order
  intro v positive declared resolved
  obtain rfl | rfl | rfl : v = 1 ∨ v = 2 ∨ v = 3 := by omega
  · exact ⟨by decide, iff_of_false otherKept kept⟩
  · exact ⟨by decide, iff_of_true otherTaken taken⟩
  · have opposite : a.resolve 3 = .ok (-1) := by decide +kernel
    cases opposite.symm.trans resolved

/-- An answer that names the only variable and takes it back makes it false, and
with its two literals the other way round it makes it true. -/
theorem not_decode_true_of_names :
    let a := ((fresh {}).run [.declareFamily "x" (.ofInts [1])]).pool
    a.resolve 1 = .ok 1 ∧ Names [1, -1] 1 ∧
      (a.decode [1, -1] >>= fun after => after.literalValue 1) = .ok false ∧
      (a.decode [-1, 1] >>= fun after => after.literalValue 1) = .ok true := by
  refine ⟨?_, ?_, ?_, ?_⟩ <;> decide +kernel

end Problem

end Clausal
