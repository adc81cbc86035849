/-!
# Machine words

Some integers have to fit in a word of sixty-four bits, with a sign or without
one, and some are cut down to the thirty-two lowest bits of one.
-/

namespace Clausal.Word

/-- The least integer of sixty-four bits with a sign, `-2 ^ 63`. -/
def least : Int := -0x8000000000000000

/-- The first natural number past sixty-four bits with a sign, `2 ^ 63`. -/
def signedBound : Nat := 0x8000000000000000

/-- The first natural number past sixty-four bits without a sign, `2 ^ 64`. -/
def unsignedBound : Nat := 0x10000000000000000

/-- An integer of sixty-four bits with a sign. -/
def isSigned (n : Int) : Bool :=
  least ≤ n && n < signedBound

/-- The integer of thirty-two bits with a sign that has the same lowest bits. -/
def narrow (n : Int) : Int :=
  Int.bmod n 0x100000000

end Clausal.Word
