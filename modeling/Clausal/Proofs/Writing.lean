import Clausal.Error
import Clausal.Proofs.Decimal
import Clausal.Proofs.Outcome

/-!
# Texts that can be made

A text is made if each of its integers has few enough digits.  A failure whose
wording cannot be made is replaced by that failure, so what is reported is the
failure itself or a number that is too long, and the failure itself where all of
its integers are short enough.
-/

namespace Clausal.Error

variable {ns : List Int} {e : Error}

theorem all_isWritable_iff : ns.all Decimal.isWritable = true ↔ ∀ n ∈ ns, Decimal.Legible n := by
  rw [List.all_eq_true]
  exact forall₂_congr fun _ _ => Decimal.isWritable_iff

/-- Some integers can be written when each of them can. -/
theorem writing_eq_ok_iff : writing ns = .ok () ↔ ∀ n ∈ ns, Decimal.Legible n := by
  rw [writing, ← all_isWritable_iff]
  split
  · rename_i writable
    exact iff_of_true rfl writable
  · rename_i tooLong
    exact iff_of_false (by simp) tooLong

/-- Writing some integers fails in one way, and when one of them is too long. -/
theorem writing_eq_error_iff :
    writing ns = .error e ↔ e = .numberTooLong ∧ ¬ ∀ n ∈ ns, Decimal.Legible n := by
  rw [writing, ← all_isWritable_iff]
  split
  · rename_i writable
    exact iff_of_false (by simp) fun failed => failed.2 writable
  · rename_i tooLong
    rw [Except.error.injEq, and_iff_left tooLong]
    exact eq_comm

theorem writing_cases (ns : List Int) :
    writing ns = .ok () ∨ writing ns = .error .numberTooLong := by
  rw [writing]
  split
  · exact Or.inl rfl
  · exact Or.inr rfl

/-- Integers are written one after the other. -/
theorem writing_cons (n : Int) (ns : List Int) :
    writing (n :: ns) = writing [n] >>= fun _ => writing ns := by
  rw [writing, writing, writing, List.all_cons, List.all_cons, List.all_nil, Bool.and_true]
  cases Decimal.isWritable n <;> rfl

/-- A failure is reported as it is where its integers can be written. -/
theorem raised_eq_self (legible : ∀ n ∈ e.integers, Decimal.Legible n) : e.raised = e := by
  rw [raised, if_pos (all_isWritable_iff.mpr legible)]

/-- What is reported of a failure: itself, or that one of its integers is too
long. -/
theorem raised_eq_iff {other : Error} :
    e.raised = other ↔ other = e ∧ (∀ n ∈ e.integers, Decimal.Legible n) ∨
      other = .numberTooLong ∧ ¬ ∀ n ∈ e.integers, Decimal.Legible n := by
  rw [raised, ← all_isWritable_iff]
  split
  · rename_i writable
    simp only [writable, and_true, not_true_eq_false, and_false, or_false]
    exact eq_comm
  · rename_i tooLong
    simp only [tooLong, Bool.false_eq_true, and_false, not_false_eq_true, and_true, false_or]
    exact eq_comm

theorem raised_eq_or (e : Error) : e.raised = e ∨ e.raised = .numberTooLong := by
  rw [raised]
  split
  · exact Or.inl rfl
  · exact Or.inr rfl

/-- A failure of the library's own is reported as one, or as a number that is too
long. -/
theorem isOwn_raised_or (own : e.isOwn = true) :
    e.raised.isOwn = true ∨ e.raised = .numberTooLong := by
  rcases e.raised_eq_or with same | tooLong
  · rw [same]
    exact Or.inl own
  · exact Or.inr tooLong

end Clausal.Error
