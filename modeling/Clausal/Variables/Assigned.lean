import Clausal.Variables.Code
import Clausal.Assignment
import Clausal.Bits

/-!
# Values of variables

The answer of a solver gives each variable the sign of the last literal on it,
and false where there is none.  A variable that is known to be equal to some
other literal then takes the value of the literal that stands for it.  Literals
beyond the declared variables are skipped.

Reading a vector of literals as a number shifts one bit in after the other and
keeps the lowest thirty-two.
-/

namespace Clausal.Variables

/-! ## Taking an assignment -/

/-- The literals of an answer that count: those before the first zero. -/
def beforeZero (raw : List Int) : List Int :=
  raw.takeWhile (· ≠ 0)

/-- How many literals of an answer lie beyond the variables. -/
def skippedCount (size : Nat) (raw : List Int) : Nat :=
  (beforeZero raw).countP fun lit => size < lit.natAbs

/-- Gives the variable of a literal the value that makes the literal true. -/
def assign (values : List Bool) (lit : Int) : List Bool :=
  values.set (lit.natAbs - 1) (0 < lit)

/-- The values that the literals of an answer give by themselves. -/
def directValues (size : Nat) (raw : List Int) : List Bool :=
  ((beforeZero raw).filter fun lit => lit.natAbs ≤ size).foldl assign
    (List.replicate size false)

/-- Why an assignment of `size` variables has none at a position. -/
def missingVariable (position : Int) (size : Nat) : Error :=
  if Word.isSigned position then .noSuchVariable position size
  else if position < Word.unsignedBound then .beyondWord
  else .noPosition

/-- The value of the variable of a literal; the code zero stands for the last
one. -/
def variableValue (values : List Bool) (lit : Int) : Except Error Bool :=
  let found := if lit = 0 then values.getLast? else values[lit.natAbs - 1]?
  match found with
  | some b => .ok b
  | none => .error (missingVariable (lit.natAbs - 1) values.length)

/-- Gives the variable `code` the value of the literal that stands for it. -/
def settle (m : Equalities) (values : List Bool) (code : Nat) : Except Error (List Bool) := do
  let target ← m.resolve code
  if target = code then pure values
  else
    let b ← variableValue values target
    pure (values.set (code - 1) (if 0 < target then b else !b))

/-- Takes the answer of a solver.  An array of values has no more places than a
machine word with a sign can count. -/
def decode (a : Variables) (raw : List Int) : Except Error Variables :=
  if a.families.isEmpty then .error .noFamilies
  else if Word.signedBound ≤ a.size then .error .beyondDimension
  else do
    let values ← (List.range' 1 a.size).foldlM (settle a.equalities) (directValues a.size raw)
    pure { a with values := some values }

/-- Takes the answer of a solver as text, and tells whether it held an
assignment. -/
def readSolution (a : Variables) (text : Text) : Except Error (Variables × Bool) :=
  if a.families.isEmpty then .error .noFamilies
  else do
    match ← Assignment.parse text with
    | none => pure (a, false)
    | some raw => pure (← a.decode raw, true)

/-! ## Asking for values -/

/-- The held values. -/
def heldValues (a : Variables) : Except Error (List Bool) :=
  match a.values with
  | some values => .ok values
  | none => .error .unassigned

/-- The value of a literal. -/
def literalValue (a : Variables) (lit : Int) : Except Error Bool := do
  let values ← a.heldValues
  let lit ← Literal.require lit
  match values[lit.natAbs - 1]? with
  | some b => pure (if 0 < lit then b else !b)
  | none => .error (Error.beyondAssignment lit values.length).raised

/-- The value of the variable at some coordinates of a family. -/
def valueOf (a : Variables) (name : Text) (coordinates : List Int) : Except Error Bool := do
  let _ ← a.heldValues
  a.literalValue (← a.codeOf name coordinates)

/-- Shifts one more bit into a number of thirty-two bits. -/
def shiftIn (n : Nat) (b : Bool) : Nat :=
  2 * n % Bits.wordBound + b.toNat

/-- The number that the values of some literals spell, most significant bit
first and modulo `2 ^ 32`. -/
def pack (a : Variables) (lits : List Int) : Except Error Nat := do
  let _ ← a.heldValues
  lits.foldlM (fun n lit => do pure (shiftIn n (← a.literalValue lit))) 0

end Clausal.Variables
