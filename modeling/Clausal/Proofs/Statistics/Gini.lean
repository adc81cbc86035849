import Mathlib.Algebra.BigOperators.Ring.Finset
import Mathlib.Algebra.Order.BigOperators.Group.List
import Mathlib.Algebra.Order.Field.Rat
import Mathlib.Data.List.Sort
import Mathlib.Tactic.FieldSimp
import Mathlib.Tactic.Linarith
import Mathlib.Tactic.Positivity
import Mathlib.Tactic.Ring
import Clausal.Proofs.Outcome
import Clausal.Statistics.Gini

/-!
# The Gini coefficient and the mean difference

The coefficient weights the numbers by their places in ascending order.  In the
usual definition of it there is no order: it is the sum of the differences of all
pairs over twice the number of numbers times their sum.  The two agree, since the
least of some numbers differs from the others by what they have more than it.

The difference of two numbers is what they have together less twice what both of
them have.  So the coefficient says how little the numbers have in common, which
gives its bounds and when they are reached.
-/

namespace Clausal.Gini

variable {xs ys : List Rat} {a : Rat}

/-- The sum of the differences of all pairs, each pair taken both ways round. -/
def differences (xs : List Rat) : Rat :=
  (xs.map fun x => (xs.map fun y => |x - y|).sum).sum

/-- The sum of what the two members of all pairs both have, a number paired with
itself too. -/
def overlaps (xs : List Rat) : Rat :=
  (xs.map fun x => (xs.map fun y => min x y).sum).sum

/-- The sum of `(2 * i - n - 1) * x i` over numbers `x 1` to `x n`. -/
def weightedSum (xs : List Rat) : Rat :=
  ((xs.zipIdx 1).map fun (x, i) => (2 * (i : Rat) - xs.length - 1) * x).sum

/-! ## From places to pairs -/

/-- With one more number each place counts one more, whatever is taken off for
the number of numbers. -/
theorem sum_zipIdx_succ (xs : List Rat) (place : Nat) (count : Rat) :
    ((xs.zipIdx (place + 1)).map fun (x, i) => (2 * (i : Rat) - (count + 1) - 1) * x).sum =
      ((xs.zipIdx place).map fun (x, i) => (2 * (i : Rat) - count - 1) * x).sum + xs.sum := by
  induction xs generalizing place with
  | nil => simp
  | cons x xs ih =>
      simp only [List.zipIdx_cons, List.map_cons, List.sum_cons, ih]
      push_cast
      ring

/-- A number in front of others counts negatively as often as there are others,
and each of them counts once more. -/
theorem weightedSum_cons (a : Rat) (xs : List Rat) :
    weightedSum (a :: xs) = weightedSum xs + xs.sum - xs.length * a := by
  have others := sum_zipIdx_succ xs 1 xs.length
  rw [weightedSum, List.zipIdx_cons, List.map_cons, List.sum_cons, List.length_cons,
    Nat.cast_add_one, others, weightedSum]
  push_cast
  ring

/-- The difference of two numbers is what they have together less twice what both
of them have. -/
theorem abs_sub_eq (x y : Rat) : |x - y| = x + y - 2 * min x y := by
  rw [abs_sub_comm, ← max_sub_min_eq_abs, ← min_add_max x y]
  ring

theorem sum_map_abs_sub (a : Rat) (xs : List Rat) :
    (xs.map fun x => |x - a|).sum =
      xs.sum + xs.length * a - 2 * (xs.map fun x => min x a).sum := by
  induction xs with
  | nil => simp
  | cons x xs ih =>
      rw [List.map_cons, List.map_cons, List.sum_cons, List.sum_cons, List.sum_cons,
        List.length_cons, ih, abs_sub_eq]
      push_cast
      ring

/-- From a number that is no greater than any of them, some numbers differ by what
they have more. -/
theorem sum_map_abs_sub_of_le (least : ∀ x ∈ xs, a ≤ x) :
    (xs.map fun x => |x - a|).sum = xs.sum - xs.length * a := by
  have shared : (xs.map fun x => min x a) = xs.map fun _ => a :=
    List.map_congr_left fun x xMem => min_eq_right (least x xMem)
  rw [sum_map_abs_sub, shared, List.map_const', List.sum_replicate, nsmul_eq_mul]
  ring

/-- One more number is paired with each of the others, both ways round. -/
theorem differences_cons (a : Rat) (xs : List Rat) :
    differences (a :: xs) = differences xs + 2 * (xs.map fun x => |x - a|).sum := by
  have turned : (xs.map fun x => |a - x|) = xs.map fun x => |x - a| :=
    List.map_congr_left fun x _ => abs_sub_comm a x
  simp only [differences, List.map_cons, List.sum_cons, List.sum_map_add, sub_self, abs_zero,
    turned]
  ring

/-- Over numbers in ascending order each difference is counted twice. -/
theorem differences_eq_two_mul_weightedSum (sorted : xs.Pairwise (· ≤ ·)) :
    differences xs = 2 * weightedSum xs := by
  induction xs with
  | nil => simp [differences, weightedSum]
  | cons a xs ih =>
      obtain ⟨least, rest⟩ := List.pairwise_cons.mp sorted
      rw [differences_cons, sum_map_abs_sub_of_le least, weightedSum_cons, ih rest]
      ring

/-- The order of the numbers does not matter to their pairs. -/
theorem differences_perm (perm : xs.Perm ys) : differences xs = differences ys := by
  have inner : ∀ x : Rat, (xs.map fun y => |x - y|).sum = (ys.map fun y => |x - y|).sum :=
    fun x => (perm.map _).sum_eq
  simp only [differences, inner]
  exact (perm.map _).sum_eq

/-- Calculated without rounding, the coefficient weights any arrangement of the
numbers in ascending order. -/
theorem evaluate_exact {ascending : List Rat} (perm : ascending.Perm xs)
    (sorted : ascending.Pairwise (· ≤ ·)) :
    evaluate exact xs = weightedSum ascending / (xs.length * xs.sum) := by
  have arranged : xs.mergeSort exact.atMost = ascending := by
    have rearranged := (List.mergeSort_perm xs exact.atMost).trans perm.symm
    refine List.Perm.eq_of_pairwise ?_ (List.pairwise_mergeSort' (· ≤ ·) xs) sorted rearranged
    intro x y _ _ below above
    exact le_antisymm below above
  have numerator : ((ascending.zipIdx 1).map fun (x, i) =>
      exact.mul (exact.ofInt (2 * (i : Int) - xs.length - 1)) x) =
        (ascending.zipIdx 1).map fun (x, i) => (2 * (i : Rat) - ascending.length - 1) * x := by
    apply List.map_congr_left
    rintro ⟨x, i⟩ _
    change ((2 * (i : Int) - xs.length - 1 : Int) : Rat) * x = _
    rw [perm.length_eq]
    push_cast
    rfl
  have denominator : exact.mul (exact.ofInt xs.length) (exact.sum ascending) =
      xs.length * xs.sum := by
    change ((xs.length : Int) : Rat) * ascending.sum = _
    rw [perm.sum_eq, Int.cast_natCast]
  rw [evaluate, arranged]
  dsimp only
  rw [numerator, denominator]
  rfl

theorem coefficient_eq_evaluate (positive : 0 < xs.sum) : coefficient xs = evaluate exact xs :=
  if_neg positive.ne'

/-- The coefficient is the sum of the differences of all pairs over twice the
number of numbers times their sum. -/
theorem coefficient_eq_differences_div (positive : 0 < xs.sum) :
    coefficient xs = differences xs / (2 * xs.length * xs.sum) := by
  have sorted : (xs.mergeSort (· ≤ ·)).Pairwise (· ≤ ·) := List.pairwise_mergeSort' (· ≤ ·) xs
  have perm := List.mergeSort_perm xs (· ≤ ·)
  rw [coefficient_eq_evaluate positive, evaluate_exact perm sorted,
    ← differences_perm perm, differences_eq_two_mul_weightedSum sorted, mul_assoc 2,
    mul_div_mul_left _ _ two_ne_zero]

/-! ## What numbers have in common -/

/-- One more number has something in common with itself and, both ways round,
with each of the others. -/
theorem overlaps_cons (a : Rat) (xs : List Rat) :
    overlaps (a :: xs) = overlaps xs + a + 2 * (xs.map fun x => min x a).sum := by
  have turned : (xs.map fun x => min a x) = xs.map fun x => min x a :=
    List.map_congr_left fun x _ => min_comm a x
  simp only [overlaps, List.map_cons, List.sum_cons, List.sum_map_add, min_self, turned]
  ring

/-- What makes up the differences of all pairs is what the numbers do not have in
common. -/
theorem differences_eq (xs : List Rat) :
    differences xs = 2 * xs.length * xs.sum - 2 * overlaps xs := by
  induction xs with
  | nil => simp [differences, overlaps]
  | cons a xs ih =>
      rw [differences_cons, overlaps_cons, sum_map_abs_sub, ih, List.length_cons, List.sum_cons]
      push_cast
      ring

/-- No two of some numbers have anything in common. -/
def Unshared (xs : List Rat) : Prop :=
  xs.Pairwise fun x y => min y x = 0

/-- Numbers that are not negative have at least themselves in common, and no more
than that when no two of them have anything in common. -/
theorem sum_le_overlaps (nonneg : ∀ x ∈ xs, 0 ≤ x) :
    xs.sum ≤ overlaps xs ∧ (overlaps xs = xs.sum ↔ Unshared xs) := by
  induction xs with
  | nil => simp [overlaps, Unshared]
  | cons a xs ih =>
      obtain ⟨atLeast, equal⟩ := ih fun x later => nonneg x (List.mem_cons_of_mem a later)
      have shared : ∀ x ∈ xs, 0 ≤ min x a := fun x later =>
        le_min (nonneg x (List.mem_cons_of_mem a later)) (nonneg a List.mem_cons_self)
      have sharedSum : 0 ≤ (xs.map fun x => min x a).sum := List.sum_nonneg (by simpa using shared)
      have none : (xs.map fun x => min x a).sum = 0 ↔ ∀ x ∈ xs, min x a = 0 := by
        constructor
        · intro nothing x later
          apply le_antisymm _ (shared x later)
          rw [← nothing]
          exact List.single_le_sum (by simpa using shared) _ (List.mem_map_of_mem later)
        · intro nothing
          exact List.sum_eq_zero (by simpa using nothing)
      rw [overlaps_cons, List.sum_cons, Unshared, List.pairwise_cons, ← Unshared, ← equal, ← none]
      constructor
      · linarith
      · constructor
        · intro same
          constructor <;> linarith
        · rintro ⟨nothing, same⟩
          rw [nothing, same]
          ring

/-- Numbers that are not negative have nothing in common when at most one of them
is not zero. -/
theorem unshared_iff_countP_le (nonneg : ∀ x ∈ xs, 0 ≤ x) :
    Unshared xs ↔ xs.countP (· ≠ 0) ≤ 1 := by
  induction xs with
  | nil => simp [Unshared]
  | cons a xs ih =>
      have others := ih fun x later => nonneg x (List.mem_cons_of_mem a later)
      rw [Unshared, List.pairwise_cons, ← Unshared, others]
      by_cases isZero : a = 0
      · have shared : ∀ x ∈ xs, min x a = 0 := by
          intro x later
          rw [isZero]
          exact min_eq_right (nonneg x (List.mem_cons_of_mem a later))
        rw [List.countP_cons_of_neg (by simpa using isZero)]
        exact and_iff_right shared
      · have above : 0 < a := lt_of_le_of_ne (nonneg a List.mem_cons_self) (Ne.symm isZero)
        have shared : (∀ x ∈ xs, min x a = 0) ↔ xs.countP (· ≠ 0) = 0 := by
          rw [List.countP_eq_zero]
          apply forall₂_congr
          intro x later
          rw [decide_eq_true_eq, not_not]
          constructor
          · intro nothing
            rcases min_choice x a with left | right
            · exact left.symm.trans nothing
            · exact absurd (right.symm.trans nothing) isZero
          · rintro rfl
            exact min_eq_left above.le
        rw [List.countP_cons_of_pos (by simpa using isZero), shared]
        omega

/-! ## The values of the coefficient -/

theorem length_pos_of_sum_pos (positive : 0 < xs.sum) : (0 : Rat) < xs.length := by
  cases xs with
  | nil => simp at positive
  | cons x xs => exact_mod_cast Nat.succ_pos xs.length

/-- The coefficient lacks from its greatest value what the numbers have in common
beyond themselves. -/
theorem coefficient_eq_sub (positive : 0 < xs.sum) :
    coefficient xs =
      (xs.length - 1) / xs.length - (overlaps xs - xs.sum) / (xs.length * xs.sum) := by
  have count := length_pos_of_sum_pos positive
  rw [coefficient_eq_differences_div positive, differences_eq]
  field_simp
  ring

theorem differences_nonneg (xs : List Rat) : 0 ≤ differences xs :=
  List.sum_nonneg (by
    simp only [List.forall_mem_map]
    intro x _
    exact List.sum_nonneg (by simp))

/-- There are no differences where all numbers are equal. -/
theorem differences_eq_zero_iff : differences xs = 0 ↔ ∀ x ∈ xs, ∀ y ∈ xs, x = y := by
  have inner : ∀ x, 0 ≤ (xs.map fun y => |x - y|).sum := fun x => List.sum_nonneg (by simp)
  constructor
  · intro nothing x xMem y yMem
    have first : (xs.map fun y => |x - y|).sum ≤ differences xs :=
      List.single_le_sum (by simpa using fun x _ => inner x) _ (List.mem_map_of_mem xMem)
    have second : |x - y| ≤ (xs.map fun y => |x - y|).sum :=
      List.single_le_sum (by simp) _ (List.mem_map_of_mem yMem)
    have apart : |x - y| ≤ 0 := by linarith
    exact sub_eq_zero.mp (abs_nonpos_iff.mp apart)
  · intro equal
    apply List.sum_eq_zero
    simp only [List.forall_mem_map]
    intro x xMem
    apply List.sum_eq_zero
    simp only [List.forall_mem_map]
    intro y yMem
    rw [equal x xMem y yMem, sub_self, abs_zero]

theorem coefficient_nonneg (positive : 0 < xs.sum) : 0 ≤ coefficient xs := by
  have count := length_pos_of_sum_pos positive
  rw [coefficient_eq_differences_div positive]
  exact div_nonneg (differences_nonneg xs) (by positivity)

/-- The coefficient is zero where all numbers are equal. -/
theorem coefficient_eq_zero_iff (positive : 0 < xs.sum) :
    coefficient xs = 0 ↔ ∀ x ∈ xs, ∀ y ∈ xs, x = y := by
  have count := length_pos_of_sum_pos positive
  have denominator : 2 * xs.length * xs.sum ≠ 0 := by positivity
  rw [coefficient_eq_differences_div positive, ← differences_eq_zero_iff, div_eq_zero_iff]
  exact or_iff_left denominator

/-- The coefficient is greatest where one number has the whole sum. -/
theorem coefficient_le (nonneg : ∀ x ∈ xs, 0 ≤ x) (positive : 0 < xs.sum) :
    coefficient xs ≤ (xs.length - 1) / xs.length ∧
      (coefficient xs = (xs.length - 1) / xs.length ↔ xs.countP (· ≠ 0) = 1) := by
  have count := length_pos_of_sum_pos positive
  obtain ⟨atLeast, equal⟩ := sum_le_overlaps nonneg
  have denominator : 0 < xs.length * xs.sum := by positivity
  have lacking : 0 ≤ (overlaps xs - xs.sum) / (xs.length * xs.sum) :=
    div_nonneg (by linarith) denominator.le
  have occupied : 0 < xs.countP (· ≠ 0) := by
    rw [List.countP_pos_iff]
    by_contra allZero
    apply positive.ne'
    apply List.sum_eq_zero
    simpa using allZero
  rw [coefficient_eq_sub positive]
  constructor
  · linarith
  · rw [sub_eq_self, div_eq_zero_iff, or_iff_left denominator.ne', sub_eq_zero, equal,
      unshared_iff_countP_le nonneg]
    omega

/-- The coefficient does not depend on the order of the numbers. -/
theorem coefficient_perm (perm : xs.Perm ys) (positive : 0 < xs.sum) :
    coefficient xs = coefficient ys := by
  have otherPositive : 0 < ys.sum := perm.sum_eq ▸ positive
  rw [coefficient_eq_differences_div positive, coefficient_eq_differences_div otherPositive,
    differences_perm perm, perm.length_eq, perm.sum_eq]

/-- Whole numbers are added without rounding. -/
theorem foldlM_add_whole (ns : List Int) (start : Int) :
    (ns.map Amount.whole).foldlM Amount.add (.whole start) = .ok (.whole (start + ns.sum)) := by
  induction ns generalizing start with
  | nil => simp [pure, Except.pure]
  | cons n ns ih =>
      rw [List.map_cons, List.foldlM_cons, List.sum_cons, ← Int.add_assoc]
      exact ih (start + n)

/-- Whole numbers that do not add up to zero are calculated with in binary64, each
of them rounded first. -/
theorem ofAmounts_whole {ns : List Int} (nonzero : ns.sum ≠ 0) :
    ofAmounts (ns.map .whole) =
      ((ns.map Amount.whole).mapM Amount.toReal).map (evaluate binary64) := by
  rw [ofAmounts, foldlM_add_whole, Int.zero_add, Outcome.ok_bind,
    if_neg (by simpa [Amount.isZero] using nonzero)]
  cases (ns.map Amount.whole).mapM Amount.toReal <;> rfl

/-- What is calculated of natural numbers with a positive sum is, in binary64 or
without rounding, the sum of `(2 * i - n - 1) * x i` over the numbers in ascending
order, divided by `n` times their sum.  Without rounding this is the sum of the
differences of all pairs over twice as much.  It lies between zero, which it is
where all numbers are equal, and `(n - 1) / n`, which it is where a single one is
not zero.  The order of the numbers does not matter. -/
theorem coefficient_spec {ns : List Nat} (positive : 0 < ns.sum) :
    let xs : List Rat := ns.map Nat.cast
    let n : Rat := ns.length
    let given : List Amount := ns.map fun (k : Nat) => .whole k
    ofAmounts given = (given.mapM Amount.toReal).map (evaluate binary64) ∧
      coefficient xs = evaluate exact xs ∧
      (∀ ascending, ascending.Perm xs → ascending.Pairwise (· ≤ ·) →
        coefficient xs = weightedSum ascending / (n * xs.sum)) ∧
      coefficient xs = differences xs / (2 * n * xs.sum) ∧
      (0 ≤ coefficient xs ∧ coefficient xs ≤ (n - 1) / n) ∧
      (coefficient xs = 0 ↔ ∀ x ∈ ns, ∀ y ∈ ns, x = y) ∧
      (coefficient xs = (n - 1) / n ↔ ns.countP (· ≠ 0) = 1) ∧
      ∀ ms : List Nat, ms.Perm ns → coefficient (ms.map Nat.cast) = coefficient xs := by
  intro xs n given
  have xsPositive : 0 < xs.sum := by
    rw [← Nat.cast_list_sum]
    exact_mod_cast positive
  have nonneg : ∀ x ∈ xs, 0 ≤ x := by simp [xs]
  have count : n = xs.length := by simp [n, xs]
  have whole : given = (ns.map Int.ofNat).map Amount.whole := by simp [given]
  have wholeNonzero : (ns.map Int.ofNat).sum ≠ 0 := by
    have cast : ((ns.sum : Nat) : Int) = (ns.map Int.ofNat).sum := Nat.cast_list_sum ns
    omega
  obtain ⟨greatest, reached⟩ := coefficient_le nonneg xsPositive
  rw [count]
  refine ⟨?binary, coefficient_eq_evaluate xsPositive, ?places,
    coefficient_eq_differences_div xsPositive, ⟨coefficient_nonneg xsPositive, greatest⟩,
    ?equal, ?single, ?order⟩
  case binary =>
    rw [whole]
    exact ofAmounts_whole wholeNonzero
  case places =>
    intro ascending perm sorted
    rw [coefficient_eq_evaluate xsPositive, evaluate_exact perm sorted]
  case equal =>
    rw [coefficient_eq_zero_iff xsPositive]
    simp [xs]
  case single =>
    rw [reached, List.countP_map]
    simp [Function.comp_def]
  case order =>
    intro ms perm
    exact (coefficient_perm (perm.map Nat.cast).symm xsPositive).symm

/-- Two numbers that share the sum with a third one, and one that has all of it. -/
theorem coefficient_spec_three :
    coefficient [0, 3, 1] = 1 / 2 ∧ coefficient [0, 5, 0] = 2 / 3 := by
  have shared : 0 < [0, 3, 1].sum := by decide
  have alone : 0 < [0, 5, 0].sum := by decide
  obtain ⟨-, -, -, pairs, -⟩ := coefficient_spec shared
  obtain ⟨-, -, -, -, -, -, reached, -⟩ := coefficient_spec alone
  have greatest := reached.mpr (by decide)
  constructor
  · norm_num [differences] at pairs
    exact pairs
  · norm_num at greatest
    exact greatest

end Clausal.Gini
