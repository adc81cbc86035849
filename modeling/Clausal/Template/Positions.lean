import Clausal.Template.Merge

/-!
# A pass by positions

`pass` recurs on the rows that the first row leaves.  Here the rows stay where
they are, and two loops go through their positions.  The outer one passes over a
row that is in a merge already.  The inner one merges the row with each later one
that is in no merge yet, as far as the two can be merged.  In the end the merged
rows come first, in the order in which they were made, and then the rows that are
in no merge.
-/

namespace Clausal.Template

/-- A merge of the rows at two positions. -/
structure Merge where
  first : Nat
  second : Nat
  row : Row
  deriving DecidableEq, Repr

/-- Whether the row at a position is in some merge. -/
def isTreated (made : List Merge) (position : Nat) : Bool :=
  made.any fun m => m.first = position || m.second = position

/-- The merge of two rows that come with their positions. -/
def mergeAt (e f : Row × Nat) : Option Merge :=
  (merge e.1 f.1).map fun row => ⟨e.2, f.2, row⟩

/-- Merges a row with a later one, unless that is in a merge already. -/
def tryMerge (e : Row × Nat) (made : List Merge) (f : Row × Nat) : List Merge :=
  if isTreated made f.2 then made else made ++ (mergeAt e f).toList

/-- Merges a row with the rows behind it, unless it is in a merge already. -/
def mergeWithLater (rows : List Row) (made : List Merge) (e : Row × Nat) : List Merge :=
  if isTreated made e.2 then made
  else (rows.zipIdx.drop (e.2 + 1)).foldl (tryMerge e) made

/-- The merges of a pass.  There is nothing behind the last row to merge it
with. -/
def mergesOf (rows : List Row) : List Merge :=
  rows.zipIdx.dropLast.foldl (mergeWithLater rows) []

/-- The rows that are in no merge. -/
def untreated (made : List Merge) (placed : List (Row × Nat)) : List (Row × Nat) :=
  placed.filter fun e => !isTreated made e.2

/-- Goes once through the positions of the rows. -/
def passByPosition (rows : List Row) : Pass :=
  let made := mergesOf rows
  ⟨made.map Merge.row, (untreated made rows.zipIdx).map Prod.fst⟩

end Clausal.Template
