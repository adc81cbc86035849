import Clausal.Value
import Clausal.Decimal.Integer

/-!
# Tokens of written values

The written form of data is JSON.  A machine that takes one character at a time
splits it into brackets, separators and scalars; it never has to look ahead,
because a scalar that is not quoted ends where a character comes that belongs
to no such scalar.  What cannot be a token becomes `Token.stray`, or
`Token.broken` where a quoted text has been begun, so that the reader meets the
first fault of a text before any later one; a number ends where it can go no
further, and what follows it in the same word is stray.
-/

namespace Clausal.Value

/-- How a text can break the grammar of written values. -/
inductive Fault
  | byteOrderMark
  | noValue
  | noKey
  | noColon
  | noComma
  | extraData
  | unterminated
  | controlCharacter
  | escape
  | unicodeEscape
  deriving DecidableEq, Repr

/-- What is wrong, before the place is named. -/
def Fault.message : Fault → String
  | .byteOrderMark => "Unexpected UTF-8 BOM (decode using utf-8-sig)"
  | .noValue => "Expecting value"
  | .noKey => "Expecting property name enclosed in double quotes"
  | .noColon => "Expecting ':' delimiter"
  | .noComma => "Expecting ',' delimiter"
  | .extraData => "Extra data"
  | .unterminated => "Unterminated string starting at"
  | .controlCharacter => "Invalid control character at"
  | .escape => "Invalid \\escape"
  | .unicodeEscape => "Invalid \\uXXXX escape"

/-- A token of a written value. -/
inductive Token
  | openList
  | closeList
  | openRecord
  | closeRecord
  | comma
  | colon
  | scalar (v : Value)
  /-- An integer with more digits than a numeral may have. -/
  | oversized (digits : Nat)
  /-- A quoted text with a fault at this offset. -/
  | broken (fault : Fault) (offset : Nat)
  /-- What is no token. -/
  | stray
  deriving Inhabited, Repr

namespace Token

/-- A token, and how many characters of the text there are before it. -/
structure Placed where
  offset : Nat
  token : Token
  deriving Inhabited, Repr

/-! ## Scalars without quotes -/

/-- The number that a list of ASCII digits spells. -/
def numberOfDigits (cs : List Char) : Nat :=
  cs.foldl (fun n c => 10 * n + (c.toNat - 48)) 0

/-- The words that stand for a value. -/
def constants : List (List Char × Value) :=
  [("null".toList, .null), ("true".toList, .bool true), ("false".toList, .bool false),
   ("NaN".toList, .real Binary64.nan), ("Infinity".toList, .real (Binary64.infinity false)),
   ("-Infinity".toList, .real (Binary64.infinity true))]

/-- The digits that a number starts with: a zero stands alone. -/
def wholeDigits : List Char → List Char
  | '0' :: _ => ['0']
  | cs => cs.takeWhile Char.isDigit

/-- The digits after the point of a number, and what follows them.  A point with
no digit after it does not belong to the number. -/
def splitFraction : List Char → List Char × List Char
  | '.' :: rest =>
      let places := rest.takeWhile Char.isDigit
      if places.isEmpty then ([], '.' :: rest) else (places, rest.dropWhile Char.isDigit)
  | rest => ([], rest)

/-- The exponent of a number, if it has one, and what follows it.  The mark of
an exponent without digits does not belong to the number. -/
def splitExponent : List Char → Option Int × List Char
  | [] => (none, [])
  | mark :: rest =>
      let (negative, unsigned) : Bool × List Char :=
        match rest with
        | '-' :: ds => (true, ds)
        | '+' :: ds => (false, ds)
        | ds => (false, ds)
      let digits := unsigned.takeWhile Char.isDigit
      if (mark = 'e' || mark = 'E') && !digits.isEmpty then
        let magnitude : Int := numberOfDigits digits
        (some (if negative then -magnitude else magnitude), unsigned.dropWhile Char.isDigit)
      else (none, mark :: rest)

/-- The token of an integer. -/
def ofInteger (negative : Bool) (whole : List Char) : Token :=
  if Decimal.digitLimit < whole.length then .oversized whole.length
  else
    let magnitude : Int := numberOfDigits whole
    .scalar (.int (if negative then -magnitude else magnitude))

/-- The token of a number in binary64. -/
def ofReal (negative : Bool) (whole places : List Char) (exponent : Int) : Token :=
  .scalar (.real (Binary64.ofDecimal negative (numberOfDigits (whole ++ places))
    (exponent - places.length)))

/-- A token at the start of a word, and a stray one for the rest of the word. -/
def andRest (start : Nat) (t : Token) (word rest : List Char) : List Placed :=
  if rest.isEmpty then [⟨start, t⟩]
  else [⟨start, t⟩, ⟨start + (word.length - rest.length), .stray⟩]

/-- The tokens of a number, which is as long as it can be. -/
def ofNumber (start : Nat) (cs : List Char) : List Placed :=
  let (negative, unsigned) : Bool × List Char :=
    match cs with
    | '-' :: rest => (true, rest)
    | _ => (false, cs)
  let whole := wholeDigits unsigned
  let (places, tail) := splitFraction (unsigned.drop whole.length)
  let (exponent, rest) := splitExponent tail
  if whole.isEmpty then [⟨start, .stray⟩]
  else if places.isEmpty && exponent.isNone then andRest start (ofInteger negative whole) cs rest
  else andRest start (ofReal negative whole places (exponent.getD 0)) cs rest

/-- The tokens of a scalar without quotes. -/
def ofBareWord (start : Nat) (cs : List Char) : List Placed :=
  match constants.find? fun (word, _) => word.isPrefixOf cs with
  | some (word, v) => andRest start (.scalar v) cs (cs.drop word.length)
  | none => ofNumber start cs

/-! ## The machine -/

/-- Where the machine stands: between tokens, in a scalar without quotes, or in
a quoted text, possibly inside an escape.  A scalar is kept with the offset at
which it starts, its characters newest first.  An escape in hexadecimal is kept
with the offset of its mark, also just after its last digit. -/
inductive State
  | between
  | bareWord (start : Nat) (chars : List Char)
  | quoted (start : Nat) (points : Text) (justEscaped : Option Nat)
  | escape (start : Nat) (points : Text)
  | unicodeEscape (mark start : Nat) (points : Text) (owed : Nat) (sofar : Nat)
  | lost

/-- A character of a scalar without quotes. -/
def isBare (c : Char) : Bool :=
  c.isAlphanum || c = '-' || c = '+' || c = '.'

/-- The blanks that may stand between tokens. -/
def isSeparator (c : Char) : Bool :=
  c = ' ' || c = '\t' || c = '\n' || c = '\r'

/-- A character between tokens, at offset `i`: the tokens that it makes and the
state after it. -/
def stepBetween (i : Nat) (c : Char) : List Placed × State :=
  if isSeparator c then ([], .between)
  else if c = '[' then ([⟨i, .openList⟩], .between)
  else if c = ']' then ([⟨i, .closeList⟩], .between)
  else if c.toNat = 0x7B then ([⟨i, .openRecord⟩], .between)
  else if c.toNat = 0x7D then ([⟨i, .closeRecord⟩], .between)
  else if c = ',' then ([⟨i, .comma⟩], .between)
  else if c = ':' then ([⟨i, .colon⟩], .between)
  else if c.toNat = 0x22 then ([], .quoted i [] none)
  else if isBare c then ([], .bareWord i [c])
  else ([⟨i, .stray⟩], .lost)

/-- The code point that a one-letter escape stands for. -/
def escaped? (c : Char) : Option Nat :=
  if c.toNat = 0x22 || c.toNat = 0x5C || c = '/' then some c.toNat
  else if c = 'b' then some 0x08
  else if c = 'f' then some 0x0C
  else if c = 'n' then some 0x0A
  else if c = 'r' then some 0x0D
  else if c = 't' then some 0x09
  else none

/-- The value of a hexadecimal digit. -/
def hexadecimal? (c : Char) : Option Nat :=
  if '0' ≤ c && c ≤ '9' then some (c.toNat - 48)
  else if 'a' ≤ c && c ≤ 'f' then some (c.toNat - 87)
  else if 'A' ≤ c && c ≤ 'F' then some (c.toNat - 55)
  else none

/-- One character, at offset `i`: the tokens that it completes and the state after
it. -/
def step (s : State) (i : Nat) (c : Char) : List Placed × State :=
  match s with
  | .between => stepBetween i c
  | .bareWord start chars =>
      if isBare c then ([], .bareWord start (c :: chars))
      else
        let (tokens, next) := stepBetween i c
        (ofBareWord start chars.reverse ++ tokens, next)
  | .quoted start points _ =>
      if c.toNat = 0x22 then
        ([⟨start, .scalar (.text (Text.joinSurrogates points.reverse))⟩], .between)
      else if c.toNat = 0x5C then ([], .escape start points)
      else if c.toNat < 0x20 then ([⟨start, .broken .controlCharacter i⟩], .lost)
      else ([], .quoted start (c.toNat :: points) none)
  | .escape start points =>
      if c = 'u' then ([], .unicodeEscape i start points 4 0)
      else
        match escaped? c with
        | some n => ([], .quoted start (n :: points) none)
        | none => ([⟨start, .broken .escape (i - 1)⟩], .lost)
  | .unicodeEscape mark start points owed sofar =>
      match hexadecimal? c with
      | some d =>
          let n := 16 * sofar + d
          if owed ≤ 1 then ([], .quoted start (n :: points) (some mark))
          else ([], .unicodeEscape mark start points (owed - 1) n)
      | none => ([⟨start, .broken .unicodeEscape mark⟩], .lost)
  | .lost => ([], .lost)

/-- The tokens that the end of the text completes.  The last digit of an escape in
hexadecimal must not be the last character. -/
def finish : State → List Placed
  | .between => []
  | .bareWord start chars => ofBareWord start chars.reverse
  | .quoted start _ none => [⟨start, .broken .unterminated start⟩]
  | .quoted start _ (some mark) => [⟨start, .broken .unicodeEscape mark⟩]
  | .escape start _ => [⟨start, .broken .unterminated start⟩]
  | .unicodeEscape mark start _ _ _ => [⟨start, .broken .unicodeEscape mark⟩]
  | .lost => []

/-- The tokens of a text. -/
def ofChars (cs : List Char) : List Placed :=
  let (out, last) := cs.zipIdx.foldl
    (fun (out, s) (c, i) => let (tokens, next) := step s i c; (tokens.reverse ++ out, next))
    (([] : List Placed), State.between)
  out.reverse ++ finish last

end Token

end Clausal.Value
