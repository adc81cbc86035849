import Clausal.Proofs.Assignment
import Clausal.Proofs.Problem.Document

/-!
# The announced number of variables

The first line of a text announces how many variables and clauses there are.
The number of variables in it is that of the declared ones, whatever literals
come after it, while the input of a solver announces one that covers the
literals.  So the two agree exactly when no literal is beyond the declared
variables.
-/

namespace Clausal.Problem

/-! ## Reading the first line -/

/-- The words that announce a number of variables and one of clauses. -/
def announcement (variableCount clauseCount : Nat) : List Text :=
  [Text.ofString "p", Text.ofString "cnf", Decimal.ofNat variableCount,
    Decimal.ofNat clauseCount]

/-- A text announces the numbers that the words of its first line are for. -/
def Announces (text : Text) (variableCount clauseCount : Nat) : Prop :=
  Text.words (text.takeWhile (· ≠ Text.newline)) = announcement variableCount clauseCount

instance (text : Text) (variableCount clauseCount : Nat) :
    Decidable (Announces text variableCount clauseCount) :=
  inferInstanceAs (Decidable (_ = _))

/-- A text announces one number of variables and one of clauses at most. -/
theorem Announces.unique {text : Text} {n m otherVariables otherClauses : Nat}
    (announces : Announces text n m) (other : Announces text otherVariables otherClauses) :
    n = otherVariables ∧ m = otherClauses := by
  have same := announces.symm.trans other
  simp only [announcement, List.cons.injEq, true_and, and_true] at same
  exact ⟨Decimal.ofNat_injective same.1, Decimal.ofNat_injective same.2⟩

/-- The line that announces numbers of variables and of clauses, without its
end. -/
def heading (variableCount : Int) (clauseCount : Nat) : Text :=
  Text.ofString "p cnf " ++ Decimal.ofInt variableCount ++
    Text.space :: Decimal.ofNat clauseCount

theorem headerLine_append (count : Int) (m : Nat) (rest : Text) :
    headerLine count m ++ rest = heading count m ++ Text.newline :: rest := by
  simp [headerLine, heading, Assignment.spaced]

theorem words_heading (count : Int) (m : Nat) :
    Text.words (heading count m) =
      [Text.ofString "p", Text.ofString "cnf", Decimal.ofInt count, Decimal.ofNat m] := by
  have opened : Text.ofString "p cnf " = Text.ofString "p cnf" ++ [Text.space] := by decide
  have first : Text.words (Text.ofString "p cnf") = [Text.ofString "p", Text.ofString "cnf"] := by
    decide
  have blank : Text.isBlank Text.space = true := by decide
  rw [heading, opened, List.append_assoc, List.append_assoc, List.singleton_append,
    Text.words_append_blank _ blank, first, Text.words_append_blank _ blank,
    (Decimal.isWord_ofInt count).words_eq, (Decimal.isWord_ofNat m).words_eq]
  rfl

theorem newline_not_mem_heading (count : Int) (m : Nat) : Text.newline ∉ heading count m := by
  have blank : Text.isBlank Text.newline = true := by decide
  simp only [heading, List.mem_append, List.mem_cons, not_or]
  exact ⟨⟨by decide, (Decimal.isWord_ofInt count).not_mem blank⟩, by decide,
    (Decimal.isWord_ofNat m).not_mem blank⟩

/-- A header announces the numbers that it was written for, whatever follows. -/
theorem announces_headerLine (n m : Nat) (rest : Text) :
    Announces (headerLine n m ++ rest) n m := by
  rw [Announces, headerLine_append, Text.takeWhile_append_cons (newline_not_mem_heading n m)]
  exact words_heading n m

/-! ## The two numbers -/

variable {p : Problem}

/-- The text of a problem is that of its resolved clauses, if their literals and
the announced number can be written. -/
theorem toDimacs_eq (forest : p.pool.equalities.Forest) (count : Option Int)
    (header : Option Bool) :
    p.toDimacs count header =
      (Error.writing (p.announcedCount count :: p.resolved.flatten)).map fun _ => textOf
        (if header.getD p.formula.settings.header.isTrue then some (p.announcedCount count)
          else none) p.resolved := by
  rw [toDimacs, resolvedClauses_eq forest, Error.writing_cons _ p.resolved.flatten]
  generalize header.getD p.formula.settings.header.isTrue = headed
  -- The number is written twice and the literals in between, and where anything
  -- is too long there is the same failure.
  rcases Error.writing_cases [p.announcedCount count] with number | number <;>
    rcases Error.writing_cases p.resolved.flatten with body | body <;>
      cases headed <;> simp only [Outcome.ok_bind, number, body] <;> rfl

/-- Where the stored literals can be written the text is made when the announced
number can be written. -/
theorem toDimacs_eq_of_legible (forest : p.pool.equalities.Forest)
    (legible : ∀ c ∈ p.formula.clauses, ∀ lit ∈ c.literals, Decimal.Legible lit)
    (count : Option Int) (header : Option Bool) :
    p.toDimacs count header = (Error.writing [p.announcedCount count]).map fun _ => textOf
        (if header.getD p.formula.settings.header.isTrue then some (p.announcedCount count)
          else none) p.resolved := by
  have short : ∀ lit ∈ p.resolved.flatten, Decimal.Legible lit := by
    intro lit literalMem
    obtain ⟨lits, clauseMem, inClause⟩ := List.mem_flatten.mp literalMem
    exact legible_of_mem_resolved forest legible lits clauseMem lit inClause
  rw [toDimacs_eq forest, Error.writing_cons _ p.resolved.flatten,
    Error.writing_eq_ok_iff.mpr short]
  cases Error.writing [p.announcedCount count] <;> rfl

/-- Resolving a literal on a declared variable does not lead beyond the declared
variables. -/
theorem natAbs_le_of_mem_resolved (forest : p.pool.equalities.Forest) {n : Nat}
    (covered : ∀ c ∈ p.formula.clauses, ∀ lit ∈ c.literals, lit.natAbs ≤ n) :
    ∀ lits ∈ p.resolved, ∀ lit ∈ lits, lit.natAbs ≤ n := by
  intro lits clauseMem lit literalMem
  obtain ⟨c, storedMem, stored, storedLiteralMem, rfl⟩ :=
    exists_stored_of_mem_resolved clauseMem literalMem
  exact Nat.le_trans (forest.natAbs_root_le stored) (covered c storedMem stored storedLiteralMem)

/-- The text with a header and the input of a solver, for any formula whose
variables some run has led to, where the stored literals and the number of declared
variables can be written.  Both have the resolved clauses and announce how
many there are.  The text announces the number of declared variables and nothing
else, so it announces what the input does exactly when no literal of the clauses
is beyond the number in its own header.  This is so where the stored literals are
on declared variables. -/
theorem toDimacs_header_run_spec {settings : Settings} {commands : List Command} {p : Problem}
    (reached : ((fresh settings).run commands).pool = p.pool)
    (legible : ∀ c ∈ p.formula.clauses, ∀ lit ∈ c.literals, Decimal.Legible lit)
    (sizeLegible : Decimal.Legible p.pool.size) :
    ∃ text d, p.toDimacs none (some true) = .ok text ∧ p.toCnf = .ok d ∧
      text = headerLine p.pool.size d.clauseCount ++ d.clauses.flatMap clauseLine ∧
      (∀ n m, Announces text n m ↔ n = p.pool.size ∧ m = d.clauseCount) ∧
      (Announces text d.variableCount d.clauseCount ↔
        ∀ lits ∈ d.clauses, ∀ lit ∈ lits, lit.natAbs ≤ p.pool.size) ∧
      ((∀ c ∈ p.formula.clauses, ∀ lit ∈ c.literals, lit.natAbs ≤ p.pool.size) →
        Announces text d.variableCount d.clauseCount) := by
  have forest := (represents_run settings commands).forest
  rw [reached] at forest
  obtain ⟨d, made, sameClauses⟩ := exists_toCnf_eq forest
  have sameCount := ((toCnf_eq_ok_iff forest).mp made).2
  have fits : Error.writing [p.announcedCount none] = .ok () :=
    Error.writing_eq_ok_iff.mpr (List.forall_mem_singleton.mpr sizeLegible)
  have written := toDimacs_eq_of_legible forest legible none (some true)
  rw [fits, ← sameClauses] at written
  rw [← sameClauses] at sameCount
  have announced : ∀ n m,
      Announces (headerLine p.pool.size d.clauseCount ++ d.clauses.flatMap clauseLine) n m ↔
        n = p.pool.size ∧ m = d.clauseCount := by
    intro n m
    constructor
    · intro announces
      exact announces.unique (announces_headerLine _ _ _)
    · rintro ⟨rfl, rfl⟩
      exact announces_headerLine _ _ _
  have agreed :
      Announces (headerLine p.pool.size d.clauseCount ++ d.clauses.flatMap clauseLine)
          d.variableCount d.clauseCount ↔
        ∀ lits ∈ d.clauses, ∀ lit ∈ lits, lit.natAbs ≤ p.pool.size := by
    rw [announced, ← Solver.largestVariable_le_iff, sameCount]
    constructor
    · rintro ⟨equal, -⟩
      omega
    · intro covered
      exact ⟨Nat.max_eq_left covered, rfl⟩
  refine ⟨_, d, written, made, rfl, announced, agreed, ?_⟩
  intro covered
  apply agreed.mpr
  rw [sameClauses]
  exact natAbs_le_of_mem_resolved forest covered

/-- An equality between the two declared variables: the text and the input both
announce two. -/
theorem toDimacs_header_run_spec_declared :
    let p := (fresh {}).run [.declareFamily "x" (.ofInts [2]), .declareEqual (-2) 1,
      .appendClause [2, 1]]
    ∃ text d, p.toDimacs none (some true) = .ok text ∧ p.toCnf = .ok d ∧
      d.clauses = [[-1, 1]] ∧ Announces text 2 1 ∧
      Announces text d.variableCount d.clauseCount := by
  intro p
  have reached : ((fresh {}).run [.declareFamily "x" (.ofInts [2]), .declareEqual (-2) 1,
      .appendClause [2, 1]]).pool = p.pool := rfl
  obtain ⟨text, d, written, made, -, announced, -, agreed⟩ := toDimacs_header_run_spec reached
    (legible_of_short (by decide +kernel)) (Decimal.legible_of_natAbs_lt (by decide +kernel))
  have resolved : p.toCnf.map Cnf.clauses = .ok [[-1, 1]] := by decide +kernel
  rw [made] at resolved
  have sameClauses : d.clauses = [[-1, 1]] := Except.ok.inj resolved
  have covered : ∀ c ∈ p.formula.clauses, ∀ lit ∈ c.literals, lit.natAbs ≤ p.pool.size := by
    decide +kernel
  have counted : d.clauseCount = 1 := congrArg List.length sameClauses
  exact ⟨text, d, written, made, sameClauses,
    (announced 2 1).mpr ⟨by decide +kernel, counted.symm⟩, agreed covered⟩

/-- Without any declared variable the text of a clause announces none, and has a
literal beyond that, while the input of a solver announces five. -/
theorem not_announces_undeclared :
    ((fresh {}).run [.appendClause [5]]).toDimacs none (some true) =
        .ok "p cnf 0 1\n5 0\n" ∧
      ((fresh {}).run [.appendClause [5]]).toCnf.map Cnf.variableCount = .ok 5 ∧
      Announces "p cnf 0 1\n5 0\n" 0 1 ∧ ¬ Announces "p cnf 0 1\n5 0\n" 5 1 := by
  refine ⟨?_, ?_, ?_, ?_⟩ <;> decide +kernel

end Clausal.Problem
