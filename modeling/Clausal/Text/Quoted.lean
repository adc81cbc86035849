import Clausal.Text.Points
import Clausal.Text.Printable

/-!
# Quoted texts

The quoted form of a text stands between single quotes, or between double ones
when it holds a single quote and no double one.  The quote, the backslash and
what does not print are escaped, so a quoted text is always one printable line.
-/

namespace Clausal.Text

/-- The code point of the single quote. -/
def singleQuote : Nat := 0x27

/-- The code point of the double quote. -/
def doubleQuote : Nat := 0x22

/-- The code point of the backslash. -/
def backslash : Nat := 0x5C

/-- The lower-case hexadecimal digits of a number, at least `width` of them. -/
def hexadecimal (width n : Nat) : Text :=
  let digits := (Nat.toDigits 16 n).map Char.toNat
  List.replicate (width - digits.length) 0x30 ++ digits

/-- The escape of a code point that does not print: a letter, and two, four or
eight hexadecimal digits. -/
def escaped (n : Nat) : Text :=
  if n < 0x100 then "\\x" ++ hexadecimal 2 n
  else if n < 0x10000 then "\\u" ++ hexadecimal 4 n
  else "\\U" ++ hexadecimal 8 n

/-- The quote that a text is written between. -/
def quoteFor (t : Text) : Nat :=
  if t.contains singleQuote && !t.contains doubleQuote then doubleQuote else singleQuote

/-- What is written for one code point between two quotes. -/
def quotedPoint (quote n : Nat) : Text :=
  if n = quote || n = backslash then [backslash, n]
  else if n = 0x09 then "\\t"
  else if n = 0x0A then "\\n"
  else if n = 0x0D then "\\r"
  else if isPrintable n then [n]
  else escaped n

/-- The quoted form of a text. -/
def quoted (t : Text) : Text :=
  let quote := quoteFor t
  quote :: (t.flatMap (quotedPoint quote) ++ [quote])

end Clausal.Text
