import Clausal.Value
import Clausal.Decimal.Numeral
import Clausal.Word

/-!
# Checked records

A record of unchecked values becomes a typed one by checking its fields.  A
check does not stop at its first complaint: it reports every flaw of every
field and element, in order, each under the path that leads to it.  A condition
on a field as a whole is looked at only when its elements have no flaw.
-/

namespace Clausal

/-- One part of the path to a checked value. -/
inductive PathStep
  | field (name : String)
  | index (i : Nat)
  deriving DecidableEq, Repr

/-- What is wrong with a checked value. -/
inductive Complaint
  /-- A field that must be there is not. -/
  | missing
  | notText
  /-- A text with half a surrogate pair in it, where a numeral is needed. -/
  | notUnicode
  | notList
  | notInteger
  | notFinite
  /-- A number that is not whole. -/
  | fractional
  /-- A text that spells no integer. -/
  | notNumeral
  /-- A numeral with too many digits, or a number in binary64 out of range. -/
  | tooLarge
  | notPositive
  | negative
  /-- A family without a name. -/
  | emptyName
  /-- A family without a dimension. -/
  | noDimension
  /-- Zero in a clause. -/
  | zeroLiteral
  /-- Zero in a clause of a document. -/
  | zeroLiteralIn (clause : Nat)
  /-- A literal beyond the variables that a document announces. -/
  | literalBeyond (literal : Int) (count : Nat) (clause : Nat)
  /-- A literal beyond the announced variables that has too many digits to be
  written. -/
  | numberTooLong
  deriving DecidableEq, Repr

/-- A complaint and the path to the value that it is about. -/
structure Flaw where
  path : List PathStep
  complaint : Complaint
  deriving DecidableEq, Repr

/-- The outcome of a check: a typed value, or every flaw that was found. -/
abbrev Checked (α : Type) := Except (List Flaw) α

namespace Record

variable {α : Type}

/-- A single complaint about the value at hand. -/
def complain (c : Complaint) : Checked α :=
  .error [⟨[], c⟩]

/-- The flaws of a check, none if it succeeds. -/
def flaws : Checked α → List Flaw
  | .ok _ => []
  | .error fs => fs

/-- Moves the flaws of a check below one more step of the path. -/
def below (step : PathStep) : Checked α → Checked α
  | .ok a => .ok a
  | .error fs => .error (fs.map fun f => { f with path := step :: f.path })

/-- Checks a field that must be present. -/
def required (name : String) (check : Value → Checked α) : Option Value → Checked α
  | none => below (.field name) (complain .missing)
  | some v => below (.field name) (check v)

/-- Checks every element from position `i` on, collecting all flaws. -/
def eachFrom (check : Value → Checked α) (i : Nat) : List Value → Checked (List α)
  | [] => .ok []
  | v :: vs =>
      match below (.index i) (check v), eachFrom check (i + 1) vs with
      | .ok a, .ok as => .ok (a :: as)
      | first, rest => .error (flaws first ++ flaws rest)

/-- Checks a list and each of its elements. -/
def list (check : Value → Checked α) : Value → Checked (List α)
  | .list items => eachFrom check 0 items
  | _ => complain .notList

/-- Checks a text. -/
def text : Value → Checked Text
  | .text t => .ok t
  | _ => complain .notText

/-! ## Integers -/

/-- The integer that a text spells. -/
def numeral (t : Text) : Checked Int :=
  if t.any Text.isSurrogate then complain .notUnicode
  else
    match Decimal.Numeral.read t with
    | .ok n => .ok n
    | .error .malformed => complain .notNumeral
    | .error (.tooLong _) => complain .tooLarge

/-- The integer that a number is.  It must lie strictly between the least word
and the first number past the words. -/
def whole (q : Rat) : Checked Int :=
  if q.den ≠ 1 then complain .fractional
  else if Word.isSigned q.num && q.num ≠ Word.least then .ok q.num
  else complain .tooLarge

/-- Checks an integer.  A truth value counts as one or zero, a whole number in
binary64 as the integer that it is, and a text as the integer that it spells. -/
def integer : Value → Checked Int
  | .int n => .ok n
  | .bool b => .ok (if b then 1 else 0)
  | .real x =>
      match x.toRat? with
      | some q => whole q
      | none => complain .notFinite
  | .text t => numeral t
  | _ => complain .notInteger

/-- Checks a natural number. -/
def natural (v : Value) : Checked Nat := do
  let n ← integer v
  if n < 0 then complain .negative else .ok n.toNat

/-- Checks a positive natural number. -/
def positive (v : Value) : Checked { n : Nat // 0 < n } := do
  let n ← integer v
  if h : 0 < n.toNat then .ok ⟨n.toNat, h⟩ else complain .notPositive

/-- Checks an integer other than zero. -/
def nonzero (v : Value) : Checked { n : Int // n ≠ 0 } := do
  let n ← integer v
  if h : n ≠ 0 then .ok ⟨n, h⟩ else complain .zeroLiteral

end Record

/-! ## Wording -/

namespace PathStep

/-- A step of a path as it is written. -/
def render : PathStep → String
  | .field name => name
  | .index i => toString i

end PathStep

namespace Complaint

/-- The wording of a complaint. -/
def message : Complaint → String
  | .missing => "Field required"
  | .notText => "Input should be a valid string"
  | .notUnicode =>
      "Input should be a valid string, unable to parse raw data as a unicode string"
  | .notList => "Input should be a valid list"
  | .notInteger => "Input should be a valid integer"
  | .notFinite => "Input should be a finite number"
  | .fractional => "Input should be a valid integer, got a number with a fractional part"
  | .notNumeral => "Input should be a valid integer, unable to parse string as an integer"
  | .tooLarge => "Unable to parse input string as an integer, exceeded maximum size"
  | .notPositive => "Input should be greater than 0"
  | .negative => "Input should be greater than or equal to 0"
  | .emptyName => "Value error, Family name cannot be empty"
  | .noDimension => "Value error, A family needs at least one dimension"
  | .zeroLiteral => "Value error, Literal cannot be zero"
  | .zeroLiteralIn clause => s!"Value error, Literal 0 is invalid in clause {clause}"
  | .literalBeyond literal count clause =>
      s!"Value error, Literal {literal} exceeds num_vars {count} in clause {clause}"
  | .numberTooLong => "Value error, " ++ Decimal.tooManyDigits ""

end Complaint

namespace Flaw

/-- A flaw as it is written: its path, the steps joined by points, and the
complaint. -/
def message (f : Flaw) : String :=
  let path := ".".intercalate (f.path.map PathStep.render)
  s!"{path}: {f.complaint.message}"

end Flaw

end Clausal
