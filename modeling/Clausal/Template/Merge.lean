import Clausal.Template

/-!
# Merging rows

Two rows with the same output whose patterns differ in one position say the
same as one row without that position.  A pass goes through the rows in order
and merges each row that is left with every later row it can be merged with;
the merged rows come first in the result and the others follow.  Passes are
repeated until one of them merges nothing, which must happen because every
other pass leaves fewer rows.
-/

namespace Clausal.Template

/-! ## Two rows -/

/-- Whether two patterns agree wherever both have a sign. -/
def agree (p q : List Int) : Bool :=
  (p.zip q).all fun (a, b) => a = b

/-- A pattern with zero at the one position where it differs from another,
`none` if they differ nowhere or more than once.  Positions that only one of
the patterns has are not compared. -/
def mergePattern : List Int → List Int → Option (List Int)
  | a :: p, b :: q =>
      if a = b then (mergePattern p q).map fun merged => a :: merged
      else if agree p q then some (0 :: p)
      else none
  | _, _ => none

/-- The row that says the same as two rows. -/
def merge (r s : Row) : Option Row :=
  if r.output = s.output then
    (mergePattern r.pattern s.pattern).map fun pattern => ⟨pattern, r.output⟩
  else none

/-! ## One pass -/

/-- The outcome of a pass: the merged rows and the rows left as they were. -/
structure Pass where
  merged : List Row
  kept : List Row
  deriving DecidableEq, Repr

namespace Pass

/-- How many merges a pass made. -/
def merges (p : Pass) : Nat :=
  p.merged.length

/-- The rows after a pass. -/
def rows (p : Pass) : List Row :=
  p.merged ++ p.kept

end Pass

/-- The rows that the merges with an earlier row leave. -/
def unmerged (r : Row) (rows : List Row) : List Row :=
  rows.filter fun s => (merge r s).isNone

/-- The outcome of a pass over a row, the rows that it merged into, and what
the pass did with the rows that were left. -/
def Pass.after (r : Row) (merged : List Row) (later : Pass) : Pass :=
  ⟨merged ++ later.merged, if merged.isEmpty then r :: later.kept else later.kept⟩

/-- Goes once through the rows. -/
def pass : List Row → Pass
  | [] => ⟨[], []⟩
  | r :: rest => .after r (rest.filterMap (merge r)) (pass (unmerged r rest))
termination_by rows => rows.length
decreasing_by
  exact Nat.lt_succ_of_le (List.length_filter_le _ _)

@[simp]
theorem Pass.merges_after (r : Row) (merged : List Row) (later : Pass) :
    (Pass.after r merged later).merges = merged.length + later.merges := by
  simp [Pass.after, Pass.merges]

/-- A row goes where it merges, or stays. -/
theorem Pass.length_rows_after (r : Row) (merged : List Row) (later : Pass) :
    (Pass.after r merged later).rows.length =
      merged.length + later.rows.length + if merged.isEmpty then 1 else 0 := by
  cases merged <;> simp [Pass.after, Pass.rows]
  · omega
  · omega

theorem length_filterMap_add_length_unmerged (r : Row) (rows : List Row) :
    (rows.filterMap (merge r)).length + (unmerged r rows).length = rows.length := by
  induction rows with
  | nil => rfl
  | cons s rest ih =>
      cases hmerge : merge r s with
      | none => simpa [unmerged, hmerge, ← Nat.add_assoc] using ih
      | some merged =>
          simp only [unmerged] at ih
          simp [unmerged, hmerge]
          omega

/-- No pass makes more rows. -/
theorem length_rows_pass_le (rows : List Row) : (pass rows).rows.length ≤ rows.length := by
  fun_induction pass rows with
  | case1 => simp [Pass.rows]
  | case2 r rest ih =>
      have parts := length_filterMap_add_length_unmerged r rest
      rw [Pass.length_rows_after, List.length_cons]
      split <;> omega

/-- A pass that merges leaves fewer rows. -/
theorem length_rows_pass_lt {rows : List Row} (merging : (pass rows).merges ≠ 0) :
    (pass rows).rows.length < rows.length := by
  fun_induction pass rows with
  | case1 => simp [Pass.merges] at merging
  | case2 r rest ih =>
      have parts := length_filterMap_add_length_unmerged r rest
      have laterLe := length_rows_pass_le (unmerged r rest)
      rw [Pass.length_rows_after, List.length_cons]
      rw [Pass.merges_after] at merging
      by_cases alone : (rest.filterMap (merge r)).isEmpty
      · have count : (rest.filterMap (merge r)).length = 0 := by simpa using alone
        have laterLt := ih (by omega)
        simp only [alone, if_true]
        omega
      · simp only [alone]
        simp only [Bool.false_eq_true, if_false]
        omega

/-! ## Repeated passes -/

/-- How the rows of a template are reduced: not at all, or by passes, with at
most the given number of them if there is one. -/
inductive Reducer
  | identity
  | greedy (limit : Option Int)
  deriving DecidableEq, Repr

/-- How many rows a pass found and left, and how many merges it made. -/
structure PassReport where
  before : Nat
  after : Nat
  merges : Nat
  deriving DecidableEq, Repr

/-- Reduced rows, and a report of each pass. -/
structure Reduction where
  rows : List Row
  reports : List PassReport
  deriving DecidableEq, Repr

namespace Reduction

/-- How many passes were made. -/
def passes (r : Reduction) : Nat :=
  r.reports.length

end Reduction

/-- Whether another pass may be made after `done` of them. -/
def allows (limit : Option Int) (done : Nat) : Bool :=
  match limit with
  | none => true
  | some most => (done : Int) < most

/-- Makes passes until one merges nothing or no other is allowed. -/
def repeatPasses (limit : Option Int) (done : Nat) (rows : List Row) : Reduction :=
  if allows limit done then
    let p := pass rows
    let report : PassReport := ⟨rows.length, p.rows.length, p.merges⟩
    if _merging : p.merges ≠ 0 then
      let rest := repeatPasses limit (done + 1) p.rows
      ⟨rest.rows, report :: rest.reports⟩
    else ⟨p.rows, [report]⟩
  else ⟨rows, []⟩
termination_by rows.length
decreasing_by exact length_rows_pass_lt _merging

namespace Reducer

/-- The name of a reducer. -/
def name : Reducer → String
  | .identity => "identity"
  | .greedy _ => "greedy_merge"

/-- Reduces the rows of a template. -/
def reduce : Reducer → List Row → Reduction
  | .identity, rows => ⟨rows, []⟩
  | .greedy limit, rows => repeatPasses limit 0 rows

end Reducer

end Clausal.Template
