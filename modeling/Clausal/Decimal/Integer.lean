import Clausal.Decimal.Digit
import Clausal.Text.Blank

/-!
# Signed decimal integers

The written form of an integer is a minus sign where it is negative and then
its ASCII digits without a leading zero.  Reading is more generous: white space
around the numeral, one sign of either kind, digits of any set, leading zeros,
and single underscores between digits.  A numeral of more than `digitLimit`
digits is refused, even where something follows that makes it no numeral, and an
integer of more digits must not be written.  `ofInt` does not look at that: who
writes an integer asks `isWritable` first.
-/

namespace Clausal.Decimal

/-- The most digits that a numeral may have.  Its power of ten is a long number,
which no proof should work out by the way. -/
@[irreducible]
def digitLimit : Nat := 4300

/-- What is said of a number with more digits than can be read or written. -/
def tooManyDigits (detail : String) : String :=
  let limit := digitLimit
  s!"Exceeds the limit ({limit} digits) for integer string conversion{detail}; "
    ++ "use sys.set_int_max_str_digits() to increase the limit"

/-! ## Writing -/

/-- Whether an integer has few enough digits to be written. -/
def isWritable (n : Int) : Bool :=
  n.natAbs < Nat.pow 10 digitLimit

/-- The decimal digits of a natural number, most significant first. -/
def ofNat (n : Nat) : Text :=
  if n < 10 then [digit n] else ofNat (n / 10) ++ [digit (n % 10)]

/-- The written form of an integer. -/
def ofInt : Int → Text
  | .ofNat n => ofNat n
  | .negSucc n => Text.minus :: ofNat (n + 1)

/-! ## Reading -/

/-- A code point of a numeral without its sign: a digit of any set or an
underscore. -/
def isNumeral (n : Nat) : Bool :=
  n == Text.underscore || (value? n).isSome

/-- Whether underscores stand singly and between other code points only.
`inside` tells whether one may come first. -/
def isGrouped (inside : Bool) : Text → Bool
  | [] => inside
  | n :: rest => if n = Text.underscore then inside && isGrouped false rest else isGrouped true rest

/-- The digits of a numeral, its underscores left out. -/
def withoutUnderscores (t : Text) : Text :=
  t.filter (· ≠ Text.underscore)

/-- The number that digits spell. -/
def numberOf (digits : Text) : Nat :=
  digits.foldl (fun sofar n => 10 * sofar + (value? n).getD 0) 0

/-- Why a numeral is refused. -/
inductive Refusal
  /-- It is not what a numeral is made of. -/
  | malformed
  /-- It has this many digits, which are too many. -/
  | tooLong (digits : Nat)
  deriving DecidableEq, Repr

/-- Whether a numeral starts with a minus sign, and the numeral without its
sign. -/
def splitSign : Text → Bool × Text
  | [] => (false, [])
  | n :: rest =>
      if n = Text.minus then (true, rest)
      else if n = Text.plus then (false, rest)
      else (false, n :: rest)

/-- Reads an unsigned numeral.  Its length is looked at before what follows. -/
def readNat (t : Text) : Except Refusal Nat :=
  let run := t.takeWhile isNumeral
  let digits := withoutUnderscores run
  if !isGrouped false run then .error .malformed
  else if digitLimit < digits.length then .error (.tooLong digits.length)
  else if run.length < t.length then .error .malformed
  else .ok (numberOf digits)

/-- Reads a numeral with at most one sign in front and white space around it. -/
def readInt (t : Text) : Except Refusal Int :=
  let (negative, unsigned) := splitSign (Text.trimBy Text.isWhiteSpace t)
  (readNat unsigned).map fun n => if negative then -(n : Int) else n

end Clausal.Decimal
