import Clausal.Cnf
import Clausal.Statistics.Gini

/-!
# Statistics of clauses

Counts and means over the clauses of a solver's input: the lengths of the
clauses, how many literals are positive, and how often each variable occurs,
declared variables that never occur included.  Means and ratios are exact.
-/

namespace Clausal

/-- The least, the mean and the greatest of some counts; there is no mean where
there is nothing to count. -/
structure Spread where
  least : Nat
  mean : Option Rat
  greatest : Nat
  deriving DecidableEq, Repr

namespace Spread

/-- The sum of some counts. -/
def total (counts : List Nat) : Nat :=
  counts.foldr (· + ·) 0

/-- The mean of some counts. -/
def mean? (counts : List Nat) : Option Rat :=
  if counts.isEmpty then none else some ((total counts : Rat) / counts.length)

/-- The spread of some counts. -/
def ofCounts (counts : List Nat) : Spread :=
  ⟨counts.min?.getD 0, mean? counts, counts.max?.getD 0⟩

/-- The spread of no counts at all. -/
def empty : Spread :=
  ⟨0, none, 0⟩

end Spread

/-- What is counted about the clauses of a solver's input. -/
structure Statistics where
  variableCount : Nat
  clauseCount : Nat
  clauseLength : Spread
  /-- The part of the literals that is positive. -/
  polarity : Rat
  occurrence : Spread
  gini : Rat
  /-- How many clauses have one literal, two literals, and so on up to ten. -/
  histogram : List Nat
  /-- How many clauses have more than ten literals. -/
  longer : Nat
  deriving DecidableEq, Repr

namespace Statistics

/-- The greatest clause length with a count of its own. -/
def longest : Nat := 10

/-- How many of some clause lengths are `1`, `2` and so on up to `longest`. -/
def histogramOf (lengths : List Nat) : List Nat :=
  (List.range' 1 longest).map fun n => lengths.count n

/-- The part of some literals that is positive, one half if there are none. -/
def polarityOf (lits : List Int) : Rat :=
  if lits.isEmpty then 1 / 2
  else (lits.countP fun lit => 0 < lit : Nat) / (lits.length : Rat)

/-- Counts a number in its bin. -/
def tally (bins : List Nat) (n : Nat) : List Nat :=
  bins.modify n (· + 1)

/-- How many bins some numbers take: one for each number from zero to the greatest
of them, and at least as many as asked for. -/
def binCount (atLeast : Nat) (ns : List Nat) : Nat :=
  ns.foldl (fun count n => max count (n + 1)) atLeast

/-- Counts some numbers, each in the bin at its position. -/
def bins (atLeast : Nat) (ns : List Nat) : List Nat :=
  ns.foldl tally (List.replicate (binCount atLeast ns) 0)

/-- How often each of the variables `1` to `count` occurs.  There is a bin for
zero, which is no variable, and it is left out. -/
def occurrences (count : Nat) (lits : List Int) : List Nat :=
  (bins (count + 1) (lits.map Int.natAbs)).drop 1

/-- The statistics of a solver's input without regard to the size of its
literals. -/
def count (d : Cnf) : Statistics :=
  let lengths := d.clauses.map List.length
  let lits := d.clauses.flatten
  if d.clauses.isEmpty then
    { variableCount := d.variableCount
      clauseCount := 0
      clauseLength := .empty
      polarity := 1 / 2
      occurrence := .empty
      gini := 0
      histogram := histogramOf []
      longer := 0 }
  else
    let uses := occurrences d.variableCount lits
    { variableCount := d.variableCount
      clauseCount := d.clauseCount
      clauseLength := .ofCounts lengths
      polarity := polarityOf lits
      occurrence := .ofCounts uses
      gini := Gini.coefficient (uses.map fun (n : Nat) => (n : Rat))
      histogram := histogramOf lengths
      longer := lengths.countP fun n => longest < n }

/-- How many octets a bin takes. -/
def octetsPerBin : Nat := 8

/-- Why the variables of an input cannot be counted: the literals and the number
of bins have to fit in sixty-four bits with a sign, and so has the number of
octets that the bins take.  Without a clause there is nothing to count. -/
def obstacle? (d : Cnf) : Option Error :=
  let count := d.variableCount + 1
  if d.clauses.isEmpty then none
  else if !d.clauses.flatten.all Word.isSigned || Word.signedBound ≤ count then some .beyondWord
  else if Word.signedBound ≤ octetsPerBin * count then some .beyondArray
  else none

/-- The statistics of a solver's input. -/
def ofCnf (d : Cnf) : Except Error Statistics :=
  match obstacle? d with
  | some e => .error e
  | none => .ok (count d)

end Statistics

end Clausal
