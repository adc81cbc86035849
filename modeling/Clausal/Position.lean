import Clausal.Error

/-!
# Positions in a list

A position counts from zero, and a negative one counts back from the end, so
that `-1` is the position of the last item.  A position that leads to no item
is an error; one that does not even fit in a machine word is a different one.
-/

namespace Clausal.Position

variable {α : Type}

/-- Why a position leads to no item.  `missing` is the cause for a position
that a longer list would have. -/
def failure (missing : Error) (i : Int) : Error :=
  if Word.isSigned i then missing else .positionTooWide

/-- The item at a position. -/
def item (missing : Error) (items : List α) (i : Int) : Except Error α :=
  let k := if i < 0 then i + items.length else i
  if k < 0 then .error (failure missing i)
  else
    match items[k.toNat]? with
    | some a => .ok a
    | none => .error (failure missing i)

/-- Positions from zero on are those of the list. -/
theorem item_natCast {missing : Error} {items : List α} {k : Nat} {a : α}
    (found : items[k]? = some a) : item missing items k = .ok a := by
  have hle : ¬ (k : Int) < 0 := by omega
  simp [item, hle, found]

/-- Negative positions are those of the reversed list. -/
theorem item_negSucc {missing : Error} {items : List α} {k : Nat} (hlt : k < items.length) :
    item missing items (Int.negSucc k) = .ok items[items.length - 1 - k] := by
  have hneg : Int.negSucc k < 0 := Int.negSucc_lt_zero k
  have hpos : Int.negSucc k + items.length = ((items.length - 1 - k : Nat) : Int) := by omega
  have hin : items.length - 1 - k < items.length := by omega
  simp [item, hneg, hpos, List.getElem?_eq_getElem hin]

end Clausal.Position
