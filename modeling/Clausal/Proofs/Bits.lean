import Clausal.Bits

/-!
# Numbers and their bits

A vector of bits and the number that it spells determine each other once the
width is fixed: writing a number and reading it back gives its remainder by
`2 ^ width`, and reading a vector and writing the number gives the vector.
-/

namespace Clausal.Bits

theorem span_pos (width : Nat) : 0 < span width := by
  induction width with
  | zero => exact Nat.one_pos
  | succ width ih =>
      rw [span_succ]
      omega

/-! ## The first bit -/

/-- Reading on from a number shifts it by the width of the rest. -/
theorem foldl_eq_mul_span_add_number (bits : List Bool) (n : Nat) :
    bits.foldl (fun n b => 2 * n + b.toNat) n = n * span bits.length + number bits := by
  induction bits generalizing n with
  | nil => simp
  | cons b rest ih =>
      rw [number, List.foldl_cons, List.foldl_cons, ih, ih, List.length_cons, span_succ]
      simp only [Nat.mul_zero, Nat.zero_add, Nat.add_mul, Nat.mul_assoc, Nat.mul_left_comm]
      omega

/-- The first bit counts as much as the others can spell. -/
theorem number_cons (b : Bool) (rest : List Bool) :
    number (b :: rest) = b.toNat * span rest.length + number rest := by
  rw [number, List.foldl_cons, foldl_eq_mul_span_add_number]
  simp

theorem number_lt (bits : List Bool) : number bits < span bits.length := by
  induction bits with
  | nil => exact Nat.one_pos
  | cons b rest ih =>
      rw [number_cons, List.length_cons, span_succ]
      cases b with
      | false => simp; omega
      | true => simp; omega

/-- Vectors of one width that spell the same number are the same. -/
theorem number_inj {bits others : List Bool} (sameLength : bits.length = others.length)
    (sameNumber : number bits = number others) : bits = others := by
  induction bits generalizing others with
  | nil => exact (List.length_eq_zero_iff.mp sameLength.symm).symm
  | cons b rest ih =>
      cases others with
      | nil => simp at sameLength
      | cons c others =>
          have restLength : rest.length = others.length := by simpa using sameLength
          have restLt := number_lt rest
          have othersLt := number_lt others
          rw [number_cons, number_cons, restLength] at sameNumber
          rw [restLength] at restLt
          cases b <;> cases c <;> simp at sameNumber
          · rw [ih restLength sameNumber]
          · omega
          · omega
          · rw [ih restLength sameNumber]

theorem number_eq_number_iff {bits others : List Bool}
    (sameLength : bits.length = others.length) :
    number bits = number others ↔ bits = others :=
  ⟨number_inj sameLength, congrArg number⟩

/-! ## Writing numbers -/

@[simp]
theorem ofInt_zero (value : Int) : ofInt 0 value = [] :=
  rfl

/-- The first of some bits counts `2 ^ width` where `width` others follow. -/
theorem ofInt_succ (width : Nat) (value : Int) :
    ofInt (width + 1) value = bitAt value width :: ofInt width value := by
  rw [ofInt, List.range_succ_eq_map, List.map_cons, List.map_map, ofInt]
  congr 1
  apply List.map_congr_left
  intro i indexMem
  have below := List.mem_range.mp indexMem
  simp only [Function.comp_apply]
  congr 1
  omega

/-- A bit by division. -/
theorem toNat_bitAt (value : Int) (k : Nat) :
    ((bitAt value k).toNat : Int) = value / span k % 2 := by
  have shifted : value >>> k = value / (span k : Int) := by
    rw [Int.shiftRight_eq_div_pow, span, Nat.one_shiftLeft]
  rw [bitAt, shifted]
  rcases Int.emod_two_eq (value / span k) with even | odd
  · simp [even]
  · simp [odd]

/-- The remainder by twice a number has one more binary digit. -/
theorem emod_two_mul (value : Int) {s : Int} (positive : 0 < s) :
    value % (2 * s) = value / s % 2 * s + value % s := by
  have low := Int.emod_nonneg value (Int.ne_of_gt positive)
  have high := Int.emod_lt_of_pos value positive
  have split : value = (value / s % 2 * s + value % s) + 2 * s * (value / s / 2) := by
    calc
      value = s * (value / s) + value % s := (Int.mul_ediv_add_emod value s).symm
      _ = s * (2 * (value / s / 2) + value / s % 2) + value % s := by
        rw [Int.mul_ediv_add_emod (value / s) 2]
      _ = (value / s % 2 * s + value % s) + 2 * s * (value / s / 2) := by
        rw [Int.mul_add, Int.mul_comm s (value / s % 2), Int.mul_left_comm, Int.mul_assoc 2]
        omega
  conv => lhs; rw [split]
  rw [Int.add_mul_emod_self_left]
  rcases Int.emod_two_eq (value / s) with even | odd
  · rw [even]
    apply Int.emod_eq_of_lt <;> omega
  · rw [odd]
    apply Int.emod_eq_of_lt <;> omega

/-- Writing a number and reading it back gives its remainder. -/
theorem number_ofInt (width : Nat) (value : Int) :
    (number (ofInt width value) : Int) = value % span width := by
  induction width with
  | zero => exact (Int.emod_one value).symm
  | succ width ih =>
      have positive := span_pos width
      rw [ofInt_succ, number_cons, length_ofInt, Int.natCast_add, Int.natCast_mul, toNat_bitAt,
        ih, span_succ]
      exact (emod_two_mul value (by omega)).symm

/-- The bits of a number spell its remainder. -/
theorem number_ofInt_natCast (width n : Nat) : number (ofInt width n) = n % span width := by
  have back := number_ofInt width n
  rw [← Int.natCast_emod] at back
  exact Int.ofNat_inj.mp back

/-- A number that some bits can spell is spelled by its own bits. -/
theorem number_ofInt_of_lt {width n : Nat} (fits : n < span width) :
    number (ofInt width n) = n := by
  rw [number_ofInt_natCast, Nat.mod_eq_of_lt fits]

/-- Reading a vector and writing the number gives the vector. -/
theorem ofInt_number (bits : List Bool) : ofInt bits.length (number bits) = bits := by
  apply number_inj (length_ofInt bits.length (number bits))
  exact number_ofInt_of_lt (number_lt bits)

/-- Numbers that some bits can spell are told apart by these bits. -/
theorem ofInt_natCast_inj {width n m : Nat} (fits : n < span width) (otherFits : m < span width)
    (same : ofInt width n = ofInt width m) : n = m := by
  rw [← number_ofInt_of_lt fits, same, number_ofInt_of_lt otherFits]

/-! ## Differences -/

/-- One more bit on either side gives one more bit of the difference. -/
theorem two_mul_add_xor (n m : Nat) (b c : Bool) :
    (2 * n + b.toNat) ^^^ (2 * m + c.toNat) = 2 * (n ^^^ m) + (b.xor c).toNat := by
  have half : ∀ (k : Nat) (d : Bool), (2 * k + d.toNat) / 2 = k ∧
      (2 * k + d.toNat) % 2 = d.toNat := by
    intro k d
    have bit := d.toNat_le
    omega
  have high : ((2 * n + b.toNat) ^^^ (2 * m + c.toNat)) / 2 = n ^^^ m := by
    rw [Nat.xor_div_two, (half n b).1, (half m c).1]
  have low : ((2 * n + b.toNat) ^^^ (2 * m + c.toNat)) % 2 = (b.xor c).toNat := by
    have last := Nat.xor_mod_two_pow (a := 2 * n + b.toNat) (b := 2 * m + c.toNat) (n := 1)
    rw [Nat.pow_one, (half n b).2, (half m c).2] at last
    rw [last]
    cases b <;> cases c <;> rfl
  omega

/-- Reading on from two numbers, the differences of the bits are read on from
the difference of the numbers. -/
theorem foldl_zipWith_xor {bits others : List Bool} (sameLength : bits.length = others.length)
    (n m : Nat) :
    (List.zipWith Bool.xor bits others).foldl (fun n b => 2 * n + b.toNat) (n ^^^ m) =
      bits.foldl (fun n b => 2 * n + b.toNat) n ^^^
        others.foldl (fun n b => 2 * n + b.toNat) m := by
  induction bits generalizing others n m with
  | nil =>
      cases List.length_eq_zero_iff.mp sameLength.symm
      rfl
  | cons b bits ih =>
      cases others with
      | nil => contradiction
      | cons c others =>
          rw [List.zipWith_cons_cons, List.foldl_cons, List.foldl_cons, List.foldl_cons,
            ← two_mul_add_xor, ih (Nat.succ.inj sameLength)]

/-- Two vectors of one length differ in the bits in which their numbers do. -/
theorem number_zipWith_xor {bits others : List Bool} (sameLength : bits.length = others.length) :
    number (List.zipWith Bool.xor bits others) = number bits ^^^ number others :=
  foldl_zipWith_xor sameLength 0 0

/-! ## Words -/

/-- Numbers of at most thirty-two bits are below the bound of words. -/
theorem span_le_wordBound {width : Nat} (fits : width ≤ 32) : span width ≤ wordBound := by
  rw [span, Nat.one_shiftLeft]
  exact Nat.pow_le_pow_right (by decide) fits

/-- Of a number of thirty-two bits no bit is lost by keeping the lowest ones. -/
theorem mod_span_mod_wordBound {n : Nat} (isWord : n < wordBound) (width : Nat) :
    n % span width % wordBound = n % span width :=
  Nat.mod_eq_of_lt (Nat.lt_of_le_of_lt (Nat.mod_le n (span width)) isWord)

/-- The lowest thirty-two bits of a difference are the difference of those. -/
theorem xor_mod_wordBound (n m : Nat) :
    (n ^^^ m) % wordBound = (n % wordBound) ^^^ (m % wordBound) := by
  have power : wordBound = 2 ^ 32 := by decide
  rw [power, Nat.xor_mod_two_pow]

theorem requireWord_of_lt {role : WordRole} {n : Nat} (below : n < wordBound) :
    requireWord role n = .ok (n : Int) :=
  if_pos ⟨Int.natCast_nonneg n, Int.ofNat_lt.mpr below⟩

/-- An integer that is passed on as a word is not changed. -/
theorem eq_of_requireWord {role : WordRole} {value word : Int}
    (required : requireWord role value = .ok word) : word = value := by
  rw [requireWord] at required
  split at required
  · exact (Except.ok.inj required).symm
  · contradiction

/-- A width that is passed on is not changed. -/
theorem eq_of_checkWidth {width passed : Nat} (checked : checkWidth width = .ok passed) :
    passed = width := by
  rw [checkWidth] at checked
  split at checked
  · contradiction
  · split at checked
    · contradiction
    · exact (Except.ok.inj checked).symm

end Clausal.Bits
