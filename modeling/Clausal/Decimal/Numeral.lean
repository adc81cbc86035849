import Clausal.Decimal.Integer

/-!
# Numerals of checked fields

A field that must be an integer may hold a text that spells one.  The text is
brought into a plain form step by step: the white space around it goes, then
one sign, the zeros and underscores in front, a part after the point that is
all zeros, and the underscores between digits.  What is left must be ASCII
digits without a leading zero.  Each step looks only at what it removes, so a
second minus sign may follow the zeros in front.
-/

namespace Clausal.Decimal.Numeral

/-- What zeros in front of a numeral are made of. -/
def isPadding (n : Nat) : Bool :=
  n == digit 0 || n == Text.underscore

/-- An unsigned numeral without the zeros and underscores in front of it, if it
starts with a digit at all.  One zero stays where nothing or a point follows. -/
def withoutPadding (t : Text) : Option Text :=
  let padding := t.takeWhile isPadding
  let rest := t.dropWhile isPadding
  let afterZero := padding.getLast? = some (digit 0)
  if t.head? = some (digit 0) then
    match rest with
    | [] => if afterZero then some [digit 0] else none
    | n :: _ =>
        if isDigit n || n = Text.minus then some rest
        else if n = Text.point && afterZero then some (digit 0 :: rest)
        else none
  else if t.head?.any isDigit then some t
  else none

/-- A numeral without its part after the point, if that is one or more zeros. -/
def withoutPlaces (t : Text) : Text :=
  let whole := t.takeWhile (· ≠ Text.point)
  let places := t.drop (whole.length + 1)
  if !places.isEmpty && places.all (· = digit 0) then whole else t

/-- A numeral without its underscores, if they stand singly between other code
points. -/
def ungrouped (t : Text) : Text :=
  if isGrouped false t then withoutUnderscores t else t

/-- Reads digits in their plain form: a zero stands alone. -/
def readPlain (t : Text) : Except Refusal Nat :=
  let run := t.takeWhile isDigit
  if run.head? = some (digit 0) then
    if t = [digit 0] then .ok 0 else .error .malformed
  else if digitLimit < run.length then .error (.tooLong run.length)
  else if run.isEmpty || run.length < t.length then .error .malformed
  else .ok (numberOf run)

/-- Reads the numeral of a field. -/
def read (t : Text) : Except Refusal Int :=
  let (negative, unsigned) := splitSign (Text.trimBy Text.isWhiteSpace t)
  match withoutPadding unsigned with
  | none => .error .malformed
  | some significant =>
      match ungrouped (withoutPlaces significant) with
      | [] => .error .malformed
      | n :: rest =>
          if n = Text.minus then
            if negative then .error .malformed else (readPlain rest).map fun k => -(k : Int)
          else (readPlain (n :: rest)).map fun k => if negative then -(k : Int) else k

end Clausal.Decimal.Numeral
