import Clausal.Bits
import Clausal.Position

/-!
# Clause templates

A template describes clauses over the input and output bits of a table without
naming variables.  A row has a sign for each input bit, zero where the bit does
not matter, and one output bit with its sign.  The rows of a table say, for
each input and each output bit, that the input is a different one or the output
bit is as in the table.
-/

namespace Clausal.Template

/-- One clause of a template.  The pattern gives the sign of each input bit,
zero for an input bit that does not occur; `k` and `-k` as output stand for the
output bit at position `k - 1`. -/
structure Row where
  pattern : List Int
  output : Int
  deriving DecidableEq, Repr

namespace Row

/-- How many literals the clause of a row has. -/
def literalCount (r : Row) : Nat :=
  r.pattern.countP (· ≠ 0) + 1

/-- Whether a sign and a bit make a literal that is true. -/
def signHolds (sign : Int) (bit : Bool) : Bool :=
  (0 < sign && bit) || (sign < 0 && !bit)

/-- The member of a list that an output names by its magnitude; zero names the
last one. -/
def outputOf {α : Type} (output : Int) (outputs : List α) : Except Error α :=
  Position.item .noSuchItem outputs (output.natAbs - 1)

/-- Whether the clause of a row is true of some bits.  The outputs are looked
at only when no input decides. -/
def holds (r : Row) (inputs outputs : List Bool) : Except Error Bool :=
  if (r.pattern.zip inputs).any fun (sign, bit) => signHolds sign bit then .ok true
  else do
    let bit ← outputOf r.output outputs
    pure (if 0 < r.output then bit else !bit)

end Row

/-! ## The rows of a table -/

/-- The pattern that is false of one input only: each sign is opposite to the
bit of `x`. -/
def patternOf (inputs : Nat) (x : Nat) : List Int :=
  (Bits.ofInt inputs x).map fun bit => if bit then -1 else 1

/-- The rows that state the output `y` for the input `x`. -/
def rowsOf (inputs outputs : Nat) (x : Nat) (y : Int) : List Row :=
  (Bits.ofInt outputs y).zipIdx.map fun (bit, k) =>
    let position : Int := k + 1
    ⟨patternOf inputs x, if bit then position else -position⟩

/-- The rows of a table, input by input. -/
def naive (inputs outputs : Nat) (table : List Int) : List Row :=
  table.zipIdx.flatMap fun (y, x) => rowsOf inputs outputs x y

/-- The rows of the first `2 ^ inputs` entries of a table.  A negative number
of outputs gives no row, a negative number of inputs no table. -/
def naiveOf (inputs outputs : Int) (table : List Int) : Except Error (List Row) :=
  if inputs < 0 then .error .bitPosition
  else do
    let width ← Bits.checkWidth inputs.toNat
    if Bits.fits width table.length then .error .noSuchItem
    else pure (naive width outputs.toNat (table.take (Bits.span width)))

end Clausal.Template
