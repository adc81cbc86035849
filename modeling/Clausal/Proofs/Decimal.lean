import Clausal.Decimal.Integer
import Clausal.Proofs.Text
import Clausal.Word
import Mathlib.Algebra.Group.Nat.Defs
import Mathlib.Data.List.TakeWhile

/-!
# Numerals read back

The last digit of a numeral comes off its end, and the digits before it are the
numeral of what is left.  So the digits of a number spell it again, and an
integer is read back from its written form unless it has too many digits.
-/

namespace Clausal.Decimal

/-! ## Digits -/

variable {n k : Nat}

theorem ofNat_of_lt (single : n < 10) : ofNat n = [digit n] := by
  rw [ofNat, if_pos single]

theorem ofNat_of_le (several : 10 ≤ n) : ofNat n = ofNat (n / 10) ++ [digit (n % 10)] := by
  rw [ofNat, if_neg (Nat.not_lt.mpr several)]

theorem ofNat_ne_nil (n : Nat) : ofNat n ≠ [] := by
  by_cases single : n < 10
  · simp [ofNat_of_lt single]
  · simp [ofNat_of_le (Nat.not_lt.mp single)]

/-- A numeral has nothing but digits. -/
theorem exists_digit_of_mem_ofNat {d : Nat} (digitMem : d ∈ ofNat n) : ∃ k < 10, d = digit k := by
  induction n using ofNat.induct with
  | case1 n single =>
      rw [ofNat_of_lt single] at digitMem
      exact ⟨n, single, List.mem_singleton.mp digitMem⟩
  | case2 n several ih =>
      rw [ofNat_of_le (Nat.not_lt.mp several)] at digitMem
      rcases List.mem_append.mp digitMem with before | last
      · exact ih before
      · exact ⟨n % 10, Nat.mod_lt n (by decide), List.mem_singleton.mp last⟩

/-- What holds of the ten digits holds of all that a numeral has. -/
theorem forall_mem_ofNat {P : Nat → Prop} (digits : ∀ k < 10, P (digit k)) :
    ∀ d ∈ ofNat n, P d := by
  intro d digitMem
  obtain ⟨k, below, rfl⟩ := exists_digit_of_mem_ofNat digitMem
  exact digits k below

/-- One more digit multiplies a number by ten and adds the value of the digit. -/
theorem numberOf_append (digits : Text) {d : Nat} (value : value? d = some k) :
    numberOf (digits ++ [d]) = 10 * numberOf digits + k := by
  rw [numberOf, List.foldl_append, List.foldl_cons, List.foldl_nil, value]
  rfl

@[simp]
theorem numberOf_ofNat (n : Nat) : numberOf (ofNat n) = n := by
  induction n using ofNat.induct with
  | case1 n single =>
      rw [ofNat_of_lt single]
      have alone := numberOf_append [] (value?_digit single)
      exact alone.trans (by simp [numberOf])
  | case2 n several ih =>
      rw [ofNat_of_le (Nat.not_lt.mp several),
        numberOf_append _ (value?_digit (Nat.mod_lt n (by decide))), ih]
      omega

/-- Numbers with the same digits are the same. -/
theorem ofNat_injective : Function.Injective ofNat :=
  Function.LeftInverse.injective numberOf_ofNat

/-- A number has at most `k` digits when it is less than `10 ^ k`. -/
theorem length_ofNat_le_iff (positive : 0 < k) : (ofNat n).length ≤ k ↔ n < 10 ^ k := by
  induction n using ofNat.induct generalizing k with
  | case1 n single =>
      have tenLe : 10 ^ 1 ≤ 10 ^ k := Nat.pow_le_pow_right (by decide) positive
      rw [ofNat_of_lt single, List.length_singleton]
      omega
  | case2 n several ih =>
      rw [ofNat_of_le (Nat.not_lt.mp several), List.length_append, List.length_singleton]
      match k with
      | 1 =>
          have nonempty := List.length_pos_iff.mpr (ofNat_ne_nil (n / 10))
          omega
      | j + 2 =>
          rw [Nat.add_le_add_iff_right, ih (Nat.succ_pos j), Nat.pow_succ 10 (j + 1),
            Nat.div_lt_iff_lt_mul (by decide)]

/-! ## Integers -/

theorem isWord_ofNat (n : Nat) : Text.IsWord (ofNat n) where
  ne_nil := ofNat_ne_nil n
  not_blank := forall_mem_ofNat (by decide)

theorem isWord_ofInt (z : Int) : Text.IsWord (ofInt z) := by
  cases z with
  | ofNat n => exact isWord_ofNat n
  | negSucc n =>
      exact {
        ne_nil := List.cons_ne_nil _ _
        not_blank := List.forall_mem_cons.mpr ⟨by decide, (isWord_ofNat (n + 1)).not_blank⟩ }

theorem twenty_le_digitLimit : 20 ≤ digitLimit := by
  decide +kernel

/-- An integer that can be read back: it has no more digits than a numeral may
have. -/
def Legible (z : Int) : Prop :=
  z.natAbs < 10 ^ digitLimit

theorem legible_zero : Legible 0 :=
  Nat.pow_pos (by decide)

/-- The least positive integer that is too long. -/
def overlong : Int :=
  (10 ^ digitLimit : Nat)

/-- What can be read back is what may be written. -/
theorem isWritable_iff {z : Int} : isWritable z = true ↔ Legible z := by
  rw [isWritable, Legible, Nat.pow_eq, decide_eq_true_eq]

/-- What is of no greater magnitude has no more digits. -/
theorem Legible.of_natAbs_le {z w : Int} (legible : Legible w) (below : z.natAbs ≤ w.natAbs) :
    Legible z :=
  Nat.lt_of_le_of_lt below legible

/-- A number of at most twenty digits is not too long. -/
theorem legible_of_natAbs_lt {z : Int} (short : z.natAbs < 10 ^ 20) : Legible z :=
  Nat.lt_of_lt_of_le short (Nat.pow_le_pow_right (by decide) twenty_le_digitLimit)

/-- What counts the places of an array is not too long. -/
theorem legible_of_natAbs_le {z : Int} {size : Nat} (below : z.natAbs ≤ size)
    (bounded : size < Word.signedBound) : Legible z := by
  have short : Word.signedBound ≤ 10 ^ 20 := by decide
  exact legible_of_natAbs_lt (by omega)

theorem isGrouped_of_forall_ne {t : Text} (noUnderscore : ∀ d ∈ t, d ≠ Text.underscore)
    {inside : Bool} (begun : t ≠ [] ∨ inside = true) : isGrouped inside t = true := by
  induction t generalizing inside with
  | nil => simpa [isGrouped] using begun
  | cons d t ih =>
      rw [isGrouped, if_neg (noUnderscore d List.mem_cons_self)]
      exact ih (fun other later => noUnderscore other (List.mem_cons_of_mem d later))
        (Or.inr rfl)

/-- A numeral within the limit is read as the number that it was written for. -/
theorem readNat_ofNat (fits : (ofNat n).length ≤ digitLimit) : readNat (ofNat n) = .ok n := by
  have run : (ofNat n).takeWhile isNumeral = ofNat n := by
    rw [List.takeWhile_eq_self_iff]
    exact forall_mem_ofNat (by decide)
  have noUnderscore : ∀ d ∈ ofNat n, d ≠ Text.underscore := forall_mem_ofNat (by decide)
  have digits : withoutUnderscores (ofNat n) = ofNat n :=
    List.filter_eq_self.mpr fun d digitMem => decide_eq_true (noUnderscore d digitMem)
  have grouped : isGrouped false (ofNat n) = true :=
    isGrouped_of_forall_ne noUnderscore (Or.inl (ofNat_ne_nil n))
  rw [readNat, run, digits, grouped]
  simp [Nat.not_lt.mpr fits]

/-- The sign of a written integer comes off it. -/
theorem splitSign_ofInt (z : Int) : splitSign (ofInt z) = (decide (z < 0), ofNat z.natAbs) := by
  cases z with
  | ofNat n =>
      obtain ⟨d, rest, spelled⟩ := List.exists_cons_of_ne_nil (ofNat_ne_nil n)
      have unsigned : ∀ d ∈ ofNat n, d ≠ Text.minus ∧ d ≠ Text.plus :=
        forall_mem_ofNat (by decide)
      have first := unsigned d (by simp [spelled])
      have notNegative : ¬ Int.ofNat n < 0 := Int.not_lt.mpr (Int.natCast_nonneg n)
      rw [ofInt, decide_eq_false notNegative, Int.natAbs_ofNat', spelled, splitSign,
        if_neg first.1, if_neg first.2]
  | negSucc n =>
      rw [ofInt, splitSign, if_pos rfl, decide_eq_true (Int.negSucc_lt_zero n)]
      rfl

/-- Integers that are written alike are the same. -/
theorem ofInt_injective : Function.Injective ofInt := by
  intro z w same
  have split := congrArg splitSign same
  rw [splitSign_ofInt, splitSign_ofInt, Prod.mk.injEq, decide_eq_decide] at split
  have sameMagnitude := ofNat_injective split.2
  omega

/-- An integer that is not too long is read back from its written form. -/
theorem readInt_ofInt {z : Int} (legible : Legible z) : readInt (ofInt z) = .ok z := by
  have fits : (ofNat z.natAbs).length ≤ digitLimit :=
    (length_ofNat_le_iff (Nat.lt_of_lt_of_le (by decide) twenty_le_digitLimit)).mpr legible
  rw [readInt, (isWord_ofInt z).trimBy_isWhiteSpace, splitSign_ofInt]
  dsimp only
  rw [readNat_ofNat fits]
  by_cases negative : z < 0
  · have opposite : -(z.natAbs : Int) = z := by omega
    rw [decide_eq_true negative]
    exact congrArg Except.ok opposite
  · have same : (z.natAbs : Int) = z := by omega
    rw [decide_eq_false negative]
    exact congrArg Except.ok same

end Clausal.Decimal
