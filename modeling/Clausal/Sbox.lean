import Clausal.Clause
import Clausal.Template.Merge

/-!
# Substitution boxes

A substitution box gives some output bits for some input bits by a table.  Its
template, the reduced rows of the table, is made once; from it come, for any
literals as inputs and outputs, the clauses that say that the outputs are the
image of the inputs.  Vectors of bits are read most significant bit first.
-/

namespace Clausal

open Template

/-- A table of `2 ^ inputs` entries of `outputs` bits each, with its template. -/
structure Sbox where
  inputs : Nat
  outputs : Nat
  table : List Int
  reducer : Reducer
  reduction : Reduction
  length_table : table.length = Bits.span inputs
  table_range : ∀ y ∈ table, 0 ≤ y ∧ y < Bits.span outputs
  reduction_eq : reduction = reducer.reduce (naive inputs outputs table)
  deriving Repr

namespace Sbox

/-! ## Tables -/

/-- The integer that a table entry stands for.  A fraction is cut off, and a
text is read as a numeral. -/
def entry : Value → Except Error Int
  | .int n => .ok n
  | .bool b => .ok (if b then 1 else 0)
  | .real x =>
      match x.toRat? with
      | some q => .ok (q.num.tdiv q.den)
      | none => .error (if x.isInfinite then .entryInfinite else .entryNaN)
  | .text t =>
      match Decimal.readInt t with
      | .ok n => .ok n
      | .error .malformed => .error (.entryNumeral t)
      | .error (.tooLong digits) => .error (.entryDigits digits)
  | v => .error (.entryKind v.kindWord)

/-- The first entry of a table that does not fit in the outputs. -/
def misfit? (outputs : Nat) (table : List Int) : Option (Int × Nat) :=
  table.zipIdx.find? fun (y, _) => y < 0 || !Bits.fits outputs y.toNat

theorem table_range_of_misfit?_eq_none {outputs : Nat} {table : List Int}
    (fits : misfit? outputs table = none) : ∀ y ∈ table, 0 ≤ y ∧ y < Bits.span outputs := by
  intro y entryMem
  rcases List.getElem_of_mem entryMem with ⟨x, hlt, rfl⟩
  have pairMem : (table[x], x) ∈ table.zipIdx := by
    rw [List.mem_zipIdx_iff_getElem?]
    exact List.getElem?_eq_getElem hlt
  have hfit := List.find?_eq_none.mp fits _ pairMem
  simp only [Bool.or_eq_true, decide_eq_true_eq, Bool.not_eq_true', not_or,
    Bool.not_eq_false, Bits.fits_iff] at hfit
  omega

/-- What is wrong with a table of another length than `2 ^ inputs`.  A number
that has too many digits to be written hides the rest. -/
def lengthError (entries inputs : Nat) : Error :=
  if (Nat.pow 10 Decimal.digitLimit).log2 < inputs then .numberTooLong
  else .tableLength entries inputs

/-- Makes the template of a table. -/
def compile (inputs outputs : Nat) (table : List Int) (reducer : Reducer) : Except Error Sbox :=
  if hlength : Bits.isSpan inputs table.length then
    match hfit : misfit? outputs table with
    | some (y, x) => .error (Error.entryRange x y outputs).raised
    | none => .ok
        { inputs := inputs
          outputs := outputs
          table := table
          reducer := reducer
          reduction := reducer.reduce (naive inputs outputs table)
          length_table := Bits.isSpan_iff.mp hlength
          table_range := table_range_of_misfit?_eq_none hfit
          reduction_eq := rfl }
  else .error (lengthError table.length inputs)

/-- Passes on the width of the outputs.  Its power of two is needed once the
length of the table is right and its first entry is not negative. -/
def checkOutputs (inputs outputs : Nat) (table : List Int) : Except Error Nat :=
  if Bits.isSpan inputs table.length && table.head?.any (0 ≤ ·) then Bits.checkWidth outputs
  else .ok outputs

/-- Makes the template of a table whose entries have not been checked.  Widths
are looked at before the entries, and those before the length. -/
def compileFrom (inputs outputs : Int) (entries : Value) (reducer : Reducer) :
    Except Error Sbox := do
  if inputs < 0 ∨ outputs < 0 then .error .negativeWidth
  else
    match entries.members? with
    | none => .error (.noMembers entries.kindWord)
    | some members =>
        let table ← members.mapM entry
        let inputs ← Bits.checkWidth inputs.toNat
        let outputs ← checkOutputs inputs outputs.toNat table
        compile inputs outputs table reducer

/-! ## Asking about a box -/

/-- The rows of the template. -/
def template (box : Sbox) : List Row :=
  box.reduction.rows

/-- How many rows there were before the reduction. -/
def naiveCount (box : Sbox) : Nat :=
  (naive box.inputs box.outputs box.table).length

/-- How many passes the reduction took. -/
def passes (box : Sbox) : Nat :=
  box.reduction.passes

/-- The table entry of an input; negative positions count from the end. -/
def lookup (box : Sbox) (x : Int) : Except Error Int :=
  Position.item .noSuchEntry box.table x

/-! ## Clauses -/

/-- The literal of an input with the sign that a row gives it, if any. -/
def signed? (lit sign : Int) : Option Int :=
  if sign = 0 then none else some (lit * sign)

/-- The clause of a row over some literals. -/
def clauseOf (r : Row) (inputs outputs : List Int) : Except Error Clause := do
  let out ← Row.outputOf r.output outputs
  let signed := (inputs.zip r.pattern).filterMap fun (lit, sign) => signed? lit sign
  Clause.ofLiterals (signed ++ [if 0 < r.output then out else -out])

/-- The clauses that say that `outputs` are the image of `inputs`. -/
def image (box : Sbox) (inputs outputs : List Int) : Except Error (List Clause) := do
  if inputs.length ≠ box.inputs then .error (.inputCount box.inputs inputs.length)
  else if outputs.length ≠ box.outputs then .error (.outputCount box.outputs outputs.length)
  else
    let inputs ← inputs.mapM Literal.require
    let outputs ← outputs.mapM Literal.require
    box.template.mapM fun r => clauseOf r inputs outputs

end Sbox

end Clausal
