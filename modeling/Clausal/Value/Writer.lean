import Clausal.Value

/-!
# Writing values

The written form of a value is JSON in ASCII: a character outside ASCII becomes
the escape of its one or two UTF-16 units, and a binary64 number is written
with all its decimal places, of which there are finitely many.
-/

namespace Clausal.Value

/-- Four hexadecimal digits of a UTF-16 unit. -/
def hexadecimalUnit (n : Nat) : String :=
  let digits := Nat.toDigits 16 n
  "\\u" ++ String.ofList (List.replicate (4 - digits.length) '0' ++ digits)

/-- A code point within a written text. -/
def writePoint (n : Nat) : String :=
  if n = 0x22 || n = 0x5C then "\\" ++ String.ofList [Text.charOfPoint n]
  else if 0x20 ≤ n && n < 0x7F then String.ofList [Text.charOfPoint n]
  else if n < 0x10000 then hexadecimalUnit n
  else
    let above := n - 0x10000
    hexadecimalUnit (0xD800 + above / 0x400) ++ hexadecimalUnit (0xDC00 + above % 0x400)

/-- A written text. -/
def writeText (t : Text) : String :=
  "\"" ++ String.join (t.map writePoint) ++ "\""

/-- A number over a power of ten with all its decimal places, at least one. -/
def writePlaces (n places : Nat) : String :=
  let digits := Nat.toDigits 10 n
  let padded := List.replicate (places + 1 - digits.length) '0' ++ digits
  let whole := padded.take (padded.length - places)
  let rest := padded.drop (padded.length - places)
  String.ofList (whole ++ '.' :: if rest.isEmpty then ['0'] else rest)

/-- A written binary64 number. -/
def writeReal (x : Binary64) : String :=
  let sign := if x.isNegative then "-" else ""
  if x.isFinite then
    let e := x.unitExponent
    if 0 ≤ e then sign ++ writePlaces (x.significand <<< e.toNat) 0
    else sign ++ writePlaces (x.significand * Nat.pow 5 (-e).toNat) (-e).toNat
  else if x.isInfinite then sign ++ "Infinity"
  else "NaN"

mutual

/-- The written form of a value. -/
def write : Value → String
  | .null => "null"
  | .bool b => if b then "true" else "false"
  | .int n => toString n
  | .real x => writeReal x
  | .text t => writeText t
  | .list items => "[" ++ ",".intercalate (writeItems items) ++ "]"
  | .record entries => "\x7b" ++ ",".intercalate (writeEntries entries) ++ "\x7d"

/-- The written forms of the items of a list. -/
def writeItems : List Value → List String
  | [] => []
  | v :: vs => write v :: writeItems vs

/-- The written forms of the entries of a record. -/
def writeEntries : List (Text × Value) → List String
  | [] => []
  | (key, v) :: rest => (writeText key ++ ":" ++ write v) :: writeEntries rest

end

end Clausal.Value
