import Clausal.Equalities
import Clausal.Family
import Clausal.Position

/-!
# The variables of a problem

The variables of a problem are declared family by family, and each of them gets
the next free code, counting from one.  Besides the families the state holds
which literals are known to be equal and, once a solver has answered, the value
of every variable.  A declaration drops the held values, which do not cover the
new codes.

A declaration gives the state that it leaves and what it tells, because it may
fail after it has changed something: the counter of generated names moves on
before the dimensions are looked at, and what has been entered is reported last,
which fails where a number is too long to be written.  What is undone after a
failure is only a list of equalities, and only if the failure is one of the
library's own.
-/

namespace Clausal

/-- The variables of a problem. -/
structure Variables where
  /-- The families in the order of their declaration. -/
  families : List Family := []
  /-- How many variables there are. -/
  size : Nat := 0
  /-- The number in the last generated name. -/
  generated : Nat := 0
  equalities : Equalities := {}
  /-- The value of every variable, the one with code 1 first. -/
  values : Option (List Bool) := none
  deriving DecidableEq, Repr, Inhabited

namespace Variables

/-- Whether values are held. -/
def isAssigned (a : Variables) : Bool :=
  a.values.isSome

/-- Whether a family has been declared under a name. -/
def declares (a : Variables) (name : Text) : Bool :=
  a.families.any fun f => f.name = name

/-- The family of a name. -/
def family (a : Variables) (name : Text) : Except Error Family :=
  match a.families.find? fun f => f.name = name with
  | some f => .ok f
  | none => .error (.unknownFamily name)

/-! ## Declaring families -/

/-- Appends a family that starts after the last code. -/
def append (a : Variables) (f : Family) : Variables :=
  { a with families := a.families ++ [f], size := a.size + f.size, values := none }

/-- Checks a family that is to come after those that there are. -/
def checkFamily (a : Variables) (name : Text) (dimensions : Value) : Except Error Family :=
  if a.declares name then .error (.duplicateFamily name)
  else
    match dimensions.members? with
    | none => .error (.noMembers dimensions.kindWord)
    | some members =>
        (Family.check (some (.text name)) (some (.list members))
          (some (.int a.size))).mapError .flawed

/-- Declares a family whose dimensions have not been checked, and reports it. -/
def declareFrom (a : Variables) (name : Text) (dimensions : Value) :
    Variables × Except Error Family :=
  match a.checkFamily name dimensions with
  | .error e => (a, .error e)
  | .ok f => (a.append f, (Error.writing f.reported).map fun _ => f)

/-- What every generated name starts with. -/
def generatedStem : Text :=
  "__anon__"

/-- The generated name with a given number. -/
def generatedName (n : Nat) : Text :=
  generatedStem ++ Decimal.ofNat n

/-- The number of the next generated name: the least one past the counter whose
name is free.  Among one more numbers than there are families, one is. -/
def nextGenerated (a : Variables) : Nat :=
  let candidates := List.range' (a.generated + 1) (a.families.length + 1)
  (candidates.find? fun n => !a.declares (generatedName n)).getD (a.generated + 1)

/-- Declares a family under a generated name and gives that name.  The counter
moves on even if the dimensions turn out not to be valid. -/
def declareGenerated (a : Variables) (dimensions : Value) : Variables × Except Error Text :=
  let n := a.nextGenerated
  match { a with generated := n }.declareFrom (generatedName n) dimensions with
  | (after, outcome) => (after, outcome.map fun _ => generatedName n)

/-! ## Families on paper -/

/-- How many values an axis of a family takes.  Negative axes count from the
last one. -/
def bound (a : Variables) (name : Text) (axis : Int) : Except Error Nat := do
  let f ← a.family name
  let count := f.dimensions.length
  if (count : Int) ≤ axis then .error (Error.missingAxis name count axis).raised
  else Position.item .noSuchItem f.dimensions axis

/-- A line for each family: its name, its position and its dimensions. -/
def describe (a : Variables) : Except Error (List Text) :=
  a.families.zipIdx.mapM fun (f, position) => do
    Error.writing (f.dimensions.map Int.ofNat)
    let dimensions := " ".intercalate (f.dimensions.map toString)
    pure (f.name ++ s!" {position} \x7b {dimensions}\x7d")

/-! ## Equalities -/

/-- The literal that stands for a given one. -/
def resolve (a : Variables) (lit : Int) : Except Error Int :=
  a.equalities.resolve lit

/-- Makes two literals equal. -/
def declareEqual (a : Variables) (x y : Int) : Variables × Except Error Unit :=
  match a.equalities.enter x y with
  | (m, outcome) => ({ a with equalities := m }, outcome)

/-- Makes the two members of every pair equal.  Where this fails for a reason of
the library's own, the equalities that there were are put back. -/
def declareEqualAll (a : Variables) (pairs : List (Int × Int)) : Variables × Except Error Unit :=
  match a.equalities.enterAll pairs with
  | (m, .ok _) => ({ a with equalities := m }, .ok ())
  | (m, .error e) => (if e.isOwn then a else { a with equalities := m }, .error e)

end Variables

end Clausal
