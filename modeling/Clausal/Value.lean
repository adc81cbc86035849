import Clausal.Text.Points
import Clausal.Binary64

/-!
# Values of unchecked data

Data that comes from outside is a `Value` until it has been checked: a
dimension may be written as a number, as a text or not be an integer at all.
This file holds the values and the few questions that can be asked of any of
them; `Clausal.Record` turns them into integers, texts and lists.
-/

namespace Clausal

/-- A value of unchecked data.  Integers are exact, and numbers written with a
fraction or an exponent are binary64. -/
inductive Value
  | null
  | bool (b : Bool)
  | int (n : Int)
  | real (x : Binary64)
  | text (t : Text)
  | list (items : List Value)
  | record (entries : List (Text × Value))
  deriving Inhabited, Repr

namespace Value

/-- The text value of a string. -/
def ofString (s : String) : Value :=
  .text (Text.ofString s)

/-- The list value of some integers. -/
def ofInts (ns : List Int) : Value :=
  .list (ns.map .int)

/-- The word that messages use for the kind of a value. -/
def kindWord : Value → String
  | .null => "NoneType"
  | .bool _ => "bool"
  | .int _ => "int"
  | .real _ => "float"
  | .text _ => "str"
  | .list _ => "list"
  | .record _ => "dict"

/-- The number that a value is, a truth value counting as one or zero. -/
def number? : Value → Option Rat
  | .bool b => some (if b then 1 else 0)
  | .int n => some n
  | .real x => x.toRat?
  | _ => none

/-- Whether a value is the given integer, whatever kind of number it is. -/
def isInt (v : Value) (n : Int) : Bool :=
  v.number? = some (n : Rat)

/-- Whether a value counts as true: it is no zero, not null and not empty. -/
def isTrue : Value → Bool
  | .null => false
  | .bool b => b
  | .int n => n ≠ 0
  | .real x => x.toRat? ≠ some 0
  | .text t => !t.isEmpty
  | .list items => !items.isEmpty
  | .record entries => !entries.isEmpty

/-- The members of a value that has members: the items of a list, the
characters of a text, the keys of a record. -/
def members? : Value → Option (List Value)
  | .list items => some items
  | .text t => some (t.map fun n => .text [n])
  | .record entries => some (entries.map fun entry => .text entry.1)
  | _ => none

/-- The value that a record has under a key. -/
def field? (v : Value) (key : String) : Option Value :=
  match v with
  | .record entries => (entries.find? fun entry => entry.1 = Text.ofString key).map Prod.snd
  | _ => none

end Value

end Clausal
