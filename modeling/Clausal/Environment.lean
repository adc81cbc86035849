import Clausal.Association
import Clausal.Error

/-!
# The environment

The environment is a map from names to texts.  A text goes into it as octets,
in UTF-8, except that each surrogate from U+DC80 to U+DCFF stands for an octet
of its own; other surrogates and the null character have no place there.
-/

namespace Clausal

/-- The variables of the environment that are set. -/
structure Environment where
  entries : List (Text × Text) := []
  deriving DecidableEq, Repr, Inhabited

namespace Environment

/-- The value of a variable that is set. -/
def get? (env : Environment) (name : Text) : Option Text :=
  env.entries.lookup name

/-- The value of a variable that is set to more than the empty text. -/
def nonempty? (env : Environment) (name : Text) : Option Text :=
  (env.get? name).filter fun t => !t.isEmpty

/-- Unsets a variable. -/
def erase (env : Environment) (name : Text) : Environment :=
  ⟨Association.without name env.entries⟩

/-- Sets a variable. -/
def insert (env : Environment) (name t : Text) : Environment :=
  ⟨(name, t) :: (env.erase name).entries⟩

/-- A surrogate that stands for no octet. -/
def isStray (n : Nat) : Bool :=
  Text.isSurrogate n && !(0xDC80 ≤ n && n ≤ 0xDCFF)

/-- Passes on a text that can stand in the environment. -/
def checkText (t : Text) : Except Error Text :=
  match Text.Utf8.gap? isStray t with
  | some g => .error (.unencodable g)
  | none => if t.contains 0 then .error .environmentNull else .ok t

/-- Sets a variable to a value, which must be a text; null unsets it. -/
def assign (env : Environment) (name : Text) : Value → Except Error Environment
  | .null => .ok (env.erase name)
  | .text t => (checkText t).map (env.insert name)
  | v => .error (.environmentKind v.kindWord)

/-- Sets variables in order until one cannot be set. -/
def assignAll (env : Environment) : List (Text × Value) → Environment × Except Error Unit
  | [] => (env, .ok ())
  | (name, v) :: rest =>
      match env.assign name v with
      | .ok after => after.assignAll rest
      | .error e => (env, .error e)

/-- A variable that has been set has its new value, and the others keep
theirs. -/
@[simp]
theorem get?_insert (env : Environment) (name t other : Text) :
    (env.insert name t).get? other = if other = name then some t else env.get? other :=
  Association.lookup_cons_without env.entries name other t

end Environment

end Clausal
