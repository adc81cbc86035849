import Clausal.Variables

/-!
# Codes of variables

A variable is named by its family and its coordinates, and has a code.  A
vector is the list of codes along the last axis of a family, the other
coordinates being fixed.
-/

namespace Clausal.Variables

/-- Checks that every coordinate lies within its dimension. -/
def checkCoordinates (name : Text) (dimensions : List Nat) (coordinates : List Int) :
    Except Error Unit :=
  let outside := (coordinates.zip dimensions).zipIdx.find? fun ((c, d), _) => c < 0 || d ≤ c
  match outside with
  | none => .ok ()
  | some ((c, d), position) => .error (Error.coordinateRange name position c d).raised

/-- The code of the variable at some coordinates of a family. -/
def codeOf (a : Variables) (name : Text) (coordinates : List Int) : Except Error Int := do
  let f ← a.family name
  if coordinates.length ≠ f.dimensions.length then
    .error (.coordinateCount name f.dimensions.length coordinates.length)
  else
    checkCoordinates name f.dimensions coordinates
    pure (f.base + f.flatIndex coordinates + 1)

/-- The literal that stands for the variable at some coordinates. -/
def resolveAt (a : Variables) (name : Text) (coordinates : List Int) : Except Error Int := do
  a.resolve (← a.codeOf name coordinates)

/-- The codes along the last axis of a family.  They follow each other, so the
first one gives them all. -/
def vector (a : Variables) (name : Text) (leading : List Int) : Except Error (List Int) := do
  let f ← a.family name
  if leading.length ≠ f.dimensions.length - 1 then
    .error (.leadingCount name (f.dimensions.length - 1) leading.length)
  else
    let first ← a.codeOf name (leading ++ [0])
    let along := f.dimensions.getLast f.dimensions_ne
    pure ((List.range along).map fun (i : Nat) => first + i)

end Clausal.Variables
