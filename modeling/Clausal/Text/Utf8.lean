import Clausal.Text.Points

/-!
# UTF-8

A sequence of octets is read as UTF-8 from the left.  Where it stops being
UTF-8, the defect names the octets that cannot be read: a start octet that
starts nothing, a sequence cut short by an octet that does not continue it, or
a sequence that the end of the data cuts short.

A text is written as UTF-8 code point by code point, and surrogates are the
only code points that cannot be written.
-/

namespace Clausal.Text.Utf8

/-! ## Reading -/

/-- What is wrong at the place where decoding stops. -/
inductive Fault
  | invalidStart
  | invalidContinuation
  | endOfData
  deriving DecidableEq, Repr

/-- The octets that cannot be decoded: the first of them, its value, and how
many there are. -/
structure Defect where
  position : Nat
  octet : Nat
  count : Nat
  fault : Fault
  deriving DecidableEq, Repr

/-- An octet that continues a sequence. -/
def isContinuation (b : Nat) : Bool :=
  0x80 ≤ b && b ≤ 0xBF

/-- The octets that may come second after the start octet `b`: after four of
them the range is narrower, which keeps out overlong forms, surrogates and
numbers above U+10FFFF. -/
def isSecond (start b : Nat) : Bool :=
  isContinuation b &&
    (if start = 0xE0 then 0xA0 ≤ b
    else if start = 0xED then b < 0xA0
    else if start = 0xF0 then 0x90 ≤ b
    else if start = 0xF4 then b < 0x90
    else true)

/-- How many octets follow a start octet. -/
def following (b : Nat) : Option Nat :=
  if b < 0x80 then some 0
  else if 0xC2 ≤ b && b < 0xE0 then some 1
  else if 0xE0 ≤ b && b < 0xF0 then some 2
  else if 0xF0 ≤ b && b < 0xF5 then some 3
  else none

/-- The bits that a start octet contributes. -/
def leadingBits (b : Nat) : Nat :=
  if b < 0x80 then b
  else if b < 0xE0 then b - 0xC0
  else if b < 0xF0 then b - 0xE0
  else b - 0xF0

/-- A sequence that has begun: its start octet, how many octets have been read
and are still owed, and the number so far. -/
structure Pending where
  start : Nat
  taken : Nat
  owed : Nat
  sofar : Nat

/-- Where the decoder stands: a number of octets read, the characters they
spell with the newest first, and the sequence that has begun. -/
structure State where
  position : Nat := 0
  chars : List Char := []
  pending : Option Pending := none

/-- Reads one more octet. -/
def State.step (s : State) (b : Nat) : Except Defect State :=
  match s.pending with
  | none =>
      match following b with
      | none => .error ⟨s.position, b, 1, .invalidStart⟩
      | some 0 => .ok { s with position := s.position + 1, chars := Char.ofNat b :: s.chars }
      | some owed => .ok
          { s with position := s.position + 1, pending := some ⟨b, 1, owed, leadingBits b⟩ }
  | some p =>
      let continues := if p.taken = 1 then isSecond p.start b else isContinuation b
      if !continues then
        .error ⟨s.position - p.taken, p.start, p.taken, .invalidContinuation⟩
      else
        let sofar := p.sofar * 0x40 + (b - 0x80)
        if p.owed = 1 then
          .ok { position := s.position + 1, chars := Char.ofNat sofar :: s.chars }
        else
          .ok { s with
            position := s.position + 1
            pending := some ⟨p.start, p.taken + 1, p.owed - 1, sofar⟩ }

/-- The characters read, unless a sequence is still owed octets. -/
def State.finish (s : State) : Except Defect (List Char) :=
  match s.pending with
  | none => .ok s.chars.reverse
  | some p => .error ⟨s.position - p.taken, p.start, p.taken, .endOfData⟩

/-- The characters that a sequence of octets spells. -/
def decode (octets : List UInt8) : Except Defect (List Char) := do
  let s ← octets.foldlM (fun s b => s.step b.toNat) ({} : State)
  s.finish

/-- The wording of a fault. -/
def Fault.message : Fault → String
  | .invalidStart => "invalid start byte"
  | .invalidContinuation => "invalid continuation byte"
  | .endOfData => "unexpected end of data"

/-! ## Writing -/

/-- The code points that cannot be encoded: the first of them, its position,
and how many there are. -/
structure Gap where
  position : Nat
  point : Nat
  count : Nat
  deriving DecidableEq, Repr

/-- The octets of a code point. -/
def encodePoint (n : Nat) : List UInt8 :=
  let following (shift : Nat) : Nat := 0x80 + (n >>> shift) % 0x40
  let octets :=
    if n < 0x80 then [n]
    else if n < 0x800 then [0xC0 + n >>> 6, following 0]
    else if n < 0x10000 then [0xE0 + n >>> 12, following 6, following 0]
    else [0xF0 + n >>> 18, following 12, following 6, following 0]
  octets.map Nat.toUInt8

/-- The first code point of a text that is refused, and the surrogates right
after it. -/
def gap? (refused : Nat → Bool) (t : Text) : Option Gap :=
  let before := t.takeWhile fun n => !refused n
  match t.drop before.length with
  | [] => none
  | n :: rest => some ⟨before.length, n, (rest.takeWhile isSurrogate).length + 1⟩

/-- The octets of a text. -/
def encode (t : Text) : Except Gap (List UInt8) :=
  match gap? isSurrogate t with
  | some g => .error g
  | none => .ok (t.flatMap encodePoint)

end Clausal.Text.Utf8
