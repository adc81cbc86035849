import Clausal.Error

/-!
# Assignments as text

A solver answers with a line that says `SAT` and then the literals that are
true, ended by zero; any other first word means that there is no assignment.
`format` writes this form and `parse` reads it, and blanks of any kind and
number may separate the words.
-/

namespace Clausal.Assignment

/-- The word that an assignment starts with. -/
def satisfiable : Text := "SAT"

/-- Reads the literals before the first zero.  Words after the zero are not
looked at. -/
def readLiterals : List Text → Except Error (List Int)
  | [] => .error .missingTerminator
  | token :: rest =>
      match Decimal.readInt token with
      | .error _ => .error (.strayToken token)
      | .ok lit =>
          if lit = 0 then .ok []
          else (readLiterals rest).map fun lits => lit :: lits

/-- Reads the answer of a solver, `none` where it gives no assignment. -/
def parse (text : Text) : Except Error (Option (List Int)) :=
  match Text.words text with
  | [] => .ok none
  | first :: rest =>
      if first = satisfiable then (readLiterals rest).map some else .ok none

/-- A literal and the space after it. -/
def spaced (lit : Int) : Text :=
  Decimal.ofInt lit ++ [Text.space]

/-- The zero and the line end that close a list of literals. -/
def terminator : Text := "0\n"

/-- The text of the answer of a solver. -/
def written : Option (List Int) → Text
  | none => "UNSAT\n"
  | some lits => satisfiable ++ [Text.newline] ++ lits.flatMap spaced ++ terminator

/-- Writes the answer of a solver, which fails where a literal has too many
digits. -/
def format (answer : Option (List Int)) : Except Error Text := do
  Error.writing (answer.getD [])
  pure (written answer)

end Clausal.Assignment
