import Clausal.Error

/-!
# Families of variables

A family is a named array of boolean variables with one or more dimensions.
Its variables have consecutive codes, in row-major order of their coordinates,
right after the codes that were given out before the family.
-/

namespace Clausal

/-- A named array of variables.  The first of them has the code `base + 1`. -/
structure Family where
  name : Text
  dimensions : List Nat
  base : Nat
  name_ne : name ≠ []
  dimensions_ne : dimensions ≠ []
  dimensions_pos : ∀ d ∈ dimensions, 0 < d
  deriving DecidableEq, Repr

namespace Family

/-- How many variables a family has. -/
def size (f : Family) : Nat :=
  f.dimensions.foldr (· * ·) 1

/-- The numbers that a report of a family gives: its dimensions, its first code
and its last. -/
def reported (f : Family) : List Int :=
  f.dimensions.map Int.ofNat ++ [Int.ofNat (f.base + 1), Int.ofNat (f.base + f.size)]

/-- The row-major index of some coordinates, each dimension being one digit of
a mixed-radix numeral. -/
def indexIn (dimensions : List Nat) (coordinates : List Int) : Int :=
  (dimensions.zip coordinates).foldl (fun index (d, c) => index * d + c) 0

/-- The row-major index of some coordinates, which the caller has checked. -/
def flatIndex (f : Family) (coordinates : List Int) : Int :=
  indexIn f.dimensions coordinates

/-! ## Checking -/

/-- Checks the name of a family. -/
def checkName (v : Value) : Checked { name : Text // name ≠ [] } := do
  let name ← Record.text v
  if h : name ≠ [] then .ok ⟨name, h⟩ else Record.complain .emptyName

/-- Checks the dimensions of a family. -/
def checkDimensions (v : Value) :
    Checked { ds : List Nat // ds ≠ [] ∧ ∀ d ∈ ds, 0 < d } := do
  let ds ← Record.list Record.positive v
  if h : ds ≠ [] then
    .ok ⟨ds.map Subtype.val, by
      constructor
      · exact fun hnil => h (List.map_eq_nil_iff.mp hnil)
      · intro d dimensionMem
        rcases List.mem_map.mp dimensionMem with ⟨positive, _, rfl⟩
        exact positive.property⟩
  else Record.complain .noDimension

/-- Checks a record of a name, dimensions and an offset. -/
def check (name dimensions base : Option Value) : Checked Family :=
  let name := Record.required "name" checkName name
  let dimensions := Record.required "dimensions" checkDimensions dimensions
  let base := Record.required "base_offset" Record.natural base
  match name, dimensions, base with
  | .ok n, .ok ds, .ok b => .ok
      { name := n.val
        dimensions := ds.val
        base := b
        name_ne := n.property
        dimensions_ne := ds.property.1
        dimensions_pos := ds.property.2 }
  | _, _, _ =>
      .error (Record.flaws name ++ Record.flaws dimensions ++ Record.flaws base)

end Family

end Clausal
