import Clausal.Error

/-!
# Bits, most significant first

Vectors of bits are read most significant bit first: `number` takes the bits of
a vector as a binary numeral, and `ofInt` writes the lowest bits of an integer
as such a vector.  A negative integer has infinitely many leading ones.
-/

namespace Clausal.Bits

/-- The bit of an integer that counts `2 ^ k`. -/
def bitAt (value : Int) (k : Nat) : Bool :=
  (value >>> k) % 2 = 1

/-- The lowest `width` bits of an integer. -/
def ofInt (width : Nat) (value : Int) : List Bool :=
  (List.range width).map fun i => bitAt value (width - 1 - i)

/-- The number that a vector of bits spells. -/
def number (bits : List Bool) : Nat :=
  bits.foldl (fun n b => 2 * n + b.toNat) 0

/-- Bit `i` of an integer taken as `width` bits.  A position before the first
bit reads the bits above them; one past the last bit is none. -/
def bitMsbFirst (value width i : Int) : Except Error Bool :=
  let k := width - i - 1
  if k < 0 then .error .bitPosition else .ok (bitAt value k.toNat)

/-- How many numbers a vector of `width` bits can spell, `2 ^ width`. -/
def span (width : Nat) : Nat :=
  1 <<< width

/-- Whether `width` bits can spell a number.  The power is not computed. -/
def fits (width n : Nat) : Bool :=
  n = 0 || n.log2 < width

/-- Whether a number is `2 ^ width`.  Only a power that is about as great as the
number is computed. -/
def isSpan (width n : Nat) : Bool :=
  n.log2 = width && n = span n.log2

/-- The greatest width whose power of two can be an integer at all: an integer
has at most `2305843009213693945` words of thirty bits. -/
def widthLimit : Nat := 30 * 2305843009213693944

/-- The first width whose power of two takes more memory than there is. -/
def memoryLimit : Nat := 0x10000000000

/-- Passes on a width whose power of two can be computed. -/
def checkWidth (width : Nat) : Except Error Nat :=
  if widthLimit < width then .error .powerTooLong
  else if memoryLimit ≤ width then .error .outOfMemory
  else .ok width

/-- The first number that does not fit in thirty-two bits. -/
def wordBound : Nat := 0x100000000

/-- Passes an integer of thirty-two unsigned bits on and refuses any other. -/
def requireWord (role : WordRole) (value : Int) : Except Error Int :=
  if 0 ≤ value ∧ value < wordBound then .ok value else .error (Error.wordRange role value).raised

@[simp]
theorem length_ofInt (width : Nat) (value : Int) : (ofInt width value).length = width := by
  simp [ofInt]

@[simp]
theorem span_zero : span 0 = 1 :=
  rfl

/-- One more bit doubles what can be spelled. -/
theorem span_succ (width : Nat) : span (width + 1) = 2 * span width := by
  simp only [span, Nat.shiftLeft_succ]

theorem fits_iff {width n : Nat} : fits width n = true ↔ n < span width := by
  rw [span, Nat.one_shiftLeft]
  by_cases hzero : n = 0
  · subst hzero
    exact iff_of_true rfl (Nat.two_pow_pos width)
  · simp only [fits, hzero, decide_false, Bool.false_or, decide_eq_true_eq]
    exact Nat.log2_lt hzero

theorem isSpan_iff {width n : Nat} : isSpan width n = true ↔ n = span width := by
  constructor
  · intro hspan
    simp only [isSpan, Bool.and_eq_true, decide_eq_true_eq] at hspan
    rw [hspan.1] at hspan
    exact hspan.2
  · rintro rfl
    have hlog : (span width).log2 = width := by rw [span, Nat.one_shiftLeft, Nat.log2_two_pow]
    simp [isSpan, hlog]

@[simp]
theorem number_nil : number [] = 0 :=
  rfl

/-- One more bit doubles the number and adds the bit. -/
@[simp]
theorem number_append_singleton (bits : List Bool) (b : Bool) :
    number (bits ++ [b]) = 2 * number bits + b.toNat := by
  simp [number]

end Clausal.Bits
