import Clausal.Literal

/-!
# Numbered clauses

What a solver is given is a list of clauses over variables that are numbered
from one, together with how many variables there are.  No literal is zero and
none is beyond the announced variables.
-/

namespace Clausal

/-- Clauses over the variables `1` to `variableCount`. -/
structure Cnf where
  variableCount : Nat
  clauses : List (List Int)
  in_range : ∀ c ∈ clauses, ∀ lit ∈ c, lit ≠ 0 ∧ lit.natAbs ≤ variableCount
  deriving DecidableEq, Repr

namespace Cnf

/-- What is said of a literal beyond `n` variables.  The literal is the greater
number of the two. -/
def beyond (lit : Int) (n i : Nat) : Complaint :=
  if Decimal.isWritable lit then .literalBeyond lit n i else .numberTooLong

/-- What is wrong with a literal of the clause at position `i`; without a
number of variables only zero is wrong. -/
def complaint? (count : Option Nat) (i : Nat) (lit : Int) : Option Complaint :=
  if lit = 0 then some (.zeroLiteralIn i)
  else
    match count with
    | some n => if n < lit.natAbs then some (beyond lit n i) else none
    | none => none

/-- The first complaint about some clauses. -/
def firstComplaint? (count : Option Nat) (clauses : List (List Int)) : Option Complaint :=
  clauses.zipIdx.findSome? fun (c, i) => c.findSome? (complaint? count i)

theorem in_range_of_firstComplaint?_eq_none {n : Nat} {clauses : List (List Int)}
    (fine : firstComplaint? (some n) clauses = none) :
    ∀ c ∈ clauses, ∀ lit ∈ c, lit ≠ 0 ∧ lit.natAbs ≤ n := by
  intro c clauseMem lit literalMem
  rcases List.getElem_of_mem clauseMem with ⟨i, hlt, rfl⟩
  have pairMem : (clauses[i], i) ∈ clauses.zipIdx := by
    rw [List.mem_zipIdx_iff_getElem?]
    exact List.getElem?_eq_getElem hlt
  have hclause := List.findSome?_eq_none_iff.mp fine _ pairMem
  have hliteral := List.findSome?_eq_none_iff.mp hclause _ literalMem
  by_cases hzero : lit = 0
  · simp [complaint?, hzero] at hliteral
  · by_cases hbeyond : n < lit.natAbs
    · simp [complaint?, hzero, hbeyond] at hliteral
    · exact ⟨hzero, by omega⟩

/-- The clauses with a number of variables that covers them. -/
def ofClauses (count : Nat) (clauses : List (List Int)) : Except Error Cnf :=
  match hfine : firstComplaint? (some count) clauses with
  | some complaint => .error (.flawed [⟨[.field "clauses"], complaint⟩])
  | none => .ok
      { variableCount := count
        clauses := clauses
        in_range := in_range_of_firstComplaint?_eq_none hfine }

/-- Checks a record of a number of variables and clauses.  If the number is not
valid the literals are not compared with it. -/
def check (count clauses : Option Value) : Except Error Cnf :=
  let count := Record.required "num_vars" Record.natural count
  let clauses := Record.required "clauses" (Record.list (Record.list Record.integer)) clauses
  match count, clauses with
  | .ok n, .ok cs => ofClauses n cs
  | .error flaws, .ok cs =>
      match firstComplaint? none cs with
      | some complaint => .error (.flawed (flaws ++ [⟨[.field "clauses"], complaint⟩]))
      | none => .error (.flawed flaws)
  | n, cs => .error (.flawed (Record.flaws n ++ Record.flaws cs))

/-- How many clauses there are. -/
def clauseCount (d : Cnf) : Nat :=
  d.clauses.length

end Cnf

end Clausal
