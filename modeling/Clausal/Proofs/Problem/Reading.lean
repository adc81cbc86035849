import Clausal.Proofs.Problem.Header

/-!
# Reading the text of a problem

A zero ends each clause in the text of a problem and no literal is zero.  So
cutting the integers of a text after every zero gives the resolved clauses back,
and nothing is left over.  Two problems with one text have the same resolved
clauses.
-/

namespace Clausal

/-! ## Parts with an end -/

/-- Parts that are written one after the other, with a stop after each, are what
the stops cut, and nothing is left over. -/
theorem splitOn_flatMap_append_singleton {α : Type} [DecidableEq α] {stop : α}
    {parts : List (List α)} (free : ∀ part ∈ parts, stop ∉ part) :
    (parts.flatMap fun part => part ++ [stop]).splitOn stop = parts ++ [[]] := by
  induction parts with
  | nil => rfl
  | cons part parts ih =>
      obtain ⟨first, others⟩ := List.forall_mem_cons.mp free
      rw [List.flatMap_cons, List.append_assoc, List.singleton_append,
        List.splitOn_append_cons_self_of_not_mem first, ih others, List.cons_append]

/-- Integers that are not too long are read back from their written forms. -/
theorem Decimal.mapM_readInt_map_ofInt {ints : List Int} (legible : ∀ z ∈ ints, Legible z) :
    (ints.map ofInt).mapM readInt = .ok ints := by
  rw [Outcome.mapM_eq_ok_iff, List.map_map]
  exact List.map_congr_left fun z intMem => readInt_ofInt (legible z intMem)

namespace Problem

/-! ## The integers of a text -/

/-- The integers in front of each zero of a text, and at the end those that are
left over. -/
def readParts (text : Text) : Except Decimal.Refusal (List (List Int)) :=
  ((Text.words text).mapM Decimal.readInt).map (List.splitOn 0)

variable {clauses : List (List Int)} {lits : List Int}

/-- The words of a clause are its literals and a zero. -/
theorem words_clauseLine_append (lits : List Int) (rest : Text) :
    Text.words (clauseLine lits ++ rest) =
      (lits ++ [0]).map Decimal.ofInt ++ Text.words rest := by
  rw [clauseLine, List.append_assoc, Assignment.words_flatMap_spaced,
    Assignment.words_terminator_append, List.map_append, List.append_assoc]
  rfl

theorem words_flatMap_clauseLine (clauses : List (List Int)) :
    Text.words (clauses.flatMap clauseLine) =
      (clauses.flatMap fun lits => lits ++ [0]).map Decimal.ofInt := by
  induction clauses with
  | nil => rfl
  | cons lits clauses ih =>
      rw [List.flatMap_cons, words_clauseLine_append, ih, ← List.map_append, List.flatMap_cons]

/-- Clauses without zero are read back. -/
theorem readParts_flatMap_clauseLine (free : ∀ lits ∈ clauses, 0 ∉ lits)
    (legible : ∀ lits ∈ clauses, ∀ lit ∈ lits, Decimal.Legible lit) :
    readParts (clauses.flatMap clauseLine) = .ok (clauses ++ [[]]) := by
  have readable : ∀ z ∈ clauses.flatMap fun lits => lits ++ [0], Decimal.Legible z := by
    intro z intMem
    obtain ⟨lits, clauseMem, endedMem⟩ := List.mem_flatMap.mp intMem
    rcases List.mem_append.mp endedMem with literalMem | zeroMem
    · exact legible lits clauseMem z literalMem
    · rw [List.mem_singleton.mp zeroMem]
      exact Decimal.legible_zero
  rw [readParts, words_flatMap_clauseLine, Decimal.mapM_readInt_map_ofInt readable]
  exact congrArg Except.ok (splitOn_flatMap_append_singleton free)

example : readParts (clauseLine [-5, 9] ++ clauseLine []) = .ok [[-5, 9], [], []] := by
  decide +kernel

/-- Clauses without zero that have one text are the same, however long their
literals are. -/
theorem eq_of_flatMap_clauseLine_eq {others : List (List Int)}
    (free : ∀ lits ∈ clauses, 0 ∉ lits) (otherFree : ∀ lits ∈ others, 0 ∉ lits)
    (sameText : clauses.flatMap clauseLine = others.flatMap clauseLine) : clauses = others := by
  -- The words are compared and not what is read from them, which fails for
  -- integers that are too long.
  have sameWords := congrArg Text.words sameText
  rw [words_flatMap_clauseLine, words_flatMap_clauseLine] at sameWords
  have sameParts := congrArg (List.splitOn 0) (Decimal.ofInt_injective.list_map sameWords)
  rw [splitOn_flatMap_append_singleton free, splitOn_flatMap_append_singleton otherFree]
    at sameParts
  exact List.append_cancel_right sameParts

/-! ## The lines of a text -/

/-- The line of a clause without its end. -/
def unended (lits : List Int) : Text :=
  lits.flatMap Assignment.spaced ++ Decimal.ofInt 0

theorem clauseLine_eq (lits : List Int) : clauseLine lits = unended lits ++ [Text.newline] := by
  rw [clauseLine, Assignment.terminator_eq, unended, List.append_assoc]

theorem newline_not_mem_unended (lits : List Int) : Text.newline ∉ unended lits := by
  have blank : Text.isBlank Text.newline = true := by decide
  have absent : ∀ z, Text.newline ∉ Decimal.ofInt z := fun z =>
    (Decimal.isWord_ofInt z).not_mem blank
  have apart : Text.newline ≠ Text.space := by decide
  simp [unended, Assignment.spaced, absent, apart]

/-- Every clause has a line of its own. -/
theorem splitOn_newline_flatMap_clauseLine (clauses : List (List Int)) :
    (clauses.flatMap clauseLine).splitOn Text.newline = clauses.map unended ++ [[]] := by
  have free : ∀ line ∈ clauses.map unended, Text.newline ∉ line :=
    List.forall_mem_map.mpr fun lits _ => newline_not_mem_unended lits
  have lines : clauses.flatMap clauseLine =
      (clauses.map unended).flatMap fun line => line ++ [Text.newline] := by
    rw [List.flatMap_map, funext clauseLine_eq]
  rw [lines, splitOn_flatMap_append_singleton free]

/-- The line of a clause has this clause and nothing else. -/
theorem readParts_unended (free : 0 ∉ lits) (legible : ∀ lit ∈ lits, Decimal.Legible lit) :
    readParts (unended lits) = .ok [lits, []] := by
  have sameWords : Text.words (unended lits) = Text.words ([lits].flatMap clauseLine) := by
    rw [List.flatMap_singleton, clauseLine_eq, Text.words_append_blank _ (by decide)]
    exact (List.append_nil _).symm
  rw [readParts, sameWords]
  exact readParts_flatMap_clauseLine (List.forall_mem_singleton.mpr free)
    (List.forall_mem_singleton.mpr legible)

/-- A text without its first line, if that is a header. -/
def body (headed : Bool) (text : Text) : Text :=
  if headed then (text.dropWhile (· ≠ Text.newline)).tail else text

/-- Without its header, if it has one, the text of some clauses is their
lines. -/
theorem body_textOf (headed : Bool) (count : Int) (clauses : List (List Int)) :
    body headed (textOf (if headed then some count else none) clauses) =
      clauses.flatMap clauseLine := by
  cases headed with
  | false => rfl
  | true =>
      change ((headerLine count clauses.length ++ _).dropWhile (· ≠ Text.newline)).tail = _
      rw [headerLine_append, Text.dropWhile_append_cons (newline_not_mem_heading _ _),
        List.tail_cons]

/-- The first line of a text with a header is the header. -/
theorem takeWhile_textOf (count : Int) (clauses : List (List Int)) :
    (textOf (some count) clauses).takeWhile (· ≠ Text.newline) = heading count clauses.length := by
  change (headerLine count clauses.length ++ _).takeWhile (· ≠ Text.newline) = _
  rw [headerLine_append, Text.takeWhile_append_cons (newline_not_mem_heading _ _)]

/-! ## The text of a problem -/

variable {p : Problem}

theorem zero_not_mem_resolved (forest : p.pool.equalities.Forest) :
    ∀ lits ∈ p.resolved, 0 ∉ lits := fun lits clauseMem zeroMem =>
  ne_zero_of_mem_resolved forest lits clauseMem 0 zeroMem rfl

/-- Texts without header that are the same have the same resolved clauses. -/
theorem resolvedClauses_eq_of_toDimacs {q : Problem} (forest : p.pool.equalities.Forest)
    (otherForest : q.pool.equalities.Forest) {count otherCount : Option Int} {text : Text}
    (written : p.toDimacs count (some false) = .ok text)
    (otherWritten : q.toDimacs otherCount (some false) = .ok text) :
    q.resolvedClauses = .ok p.resolved := by
  rw [toDimacs_eq forest, Outcome.map_eq_ok_iff] at written
  rw [toDimacs_eq otherForest, Outcome.map_eq_ok_iff] at otherWritten
  obtain ⟨_, -, sameText⟩ := written
  obtain ⟨_, -, rfl⟩ := otherWritten
  rw [resolvedClauses_eq otherForest, eq_of_flatMap_clauseLine_eq (zero_not_mem_resolved forest)
    (zero_not_mem_resolved otherForest) sameText]

/-- The text of any formula whose literals are not too long and whose variables
some run has led to, with any number of variables and with or without a header.
There is one if the number of variables is not too long, whether or not it stands
in a header.  Without the header the integers of the text, cut after every zero,
are the resolved clauses in their order, and nothing is left over.  Each clause has
a line of its own.  The header has the number of variables that is asked for and
the number of the clauses that are read.  Another formula over variables that a
run has led to has the same text without header only if it has the same resolved
clauses. -/
theorem toDimacs_run_spec {settings : Settings} {commands : List Command} {p : Problem}
    (reached : ((fresh settings).run commands).pool = p.pool)
    (legible : ∀ c ∈ p.formula.clauses, ∀ lit ∈ c.literals, Decimal.Legible lit)
    (count : Option Int) (header : Option Bool) {headed : Bool}
    (wanted : header.getD p.formula.settings.header.isTrue = headed) :
    (∀ e, p.toDimacs count header = .error e ↔
      e = .numberTooLong ∧ ¬ Decimal.Legible (p.announcedCount count)) ∧
    (Decimal.Legible (p.announcedCount count) → ∃ text clauses lines,
      p.toDimacs count header = .ok text ∧ p.resolvedClauses = .ok clauses ∧
      readParts (body headed text) = .ok (clauses ++ [[]]) ∧
      (body headed text).splitOn Text.newline = lines ++ [[]] ∧
      List.Forall₂ (fun line lits => readParts line = .ok [lits, []]) lines clauses ∧
      (headed = true → Text.words (text.takeWhile (· ≠ Text.newline)) =
        [Text.ofString "p", Text.ofString "cnf", Decimal.ofInt (p.announcedCount count),
          Decimal.ofNat clauses.length])) ∧
    ∀ {otherSettings others} {q : Problem},
      ((fresh otherSettings).run others).pool = q.pool → ∀ otherCount text,
        p.toDimacs count (some false) = .ok text →
          q.toDimacs otherCount (some false) = .ok text →
            q.resolvedClauses = p.resolvedClauses := by
  have forest := (represents_run settings commands).forest
  rw [reached] at forest
  have made := toDimacs_eq_of_legible forest legible count header
  rw [wanted] at made
  refine ⟨?failure, ?success, ?unique⟩
  case failure =>
    intro e
    rw [made, Outcome.map_eq_error_iff, Error.writing_eq_error_iff, List.forall_mem_singleton]
  case success =>
    intro countLegible
    have free := zero_not_mem_resolved forest
    have readable := legible_of_mem_resolved forest legible
    rw [Error.writing_eq_ok_iff.mpr (List.forall_mem_singleton.mpr countLegible)] at made
    refine ⟨_, p.resolved, p.resolved.map unended, made, resolvedClauses_eq forest, ?clauses,
      ?lines, ?eachLine, ?announced⟩
    case clauses =>
      rw [body_textOf]
      exact readParts_flatMap_clauseLine free readable
    case lines =>
      rw [body_textOf]
      exact splitOn_newline_flatMap_clauseLine p.resolved
    case eachLine =>
      rw [List.forall₂_map_left_iff, List.forall₂_same]
      intro lits clauseMem
      exact readParts_unended (free lits clauseMem) (readable lits clauseMem)
    case announced =>
      rintro rfl
      rw [if_pos rfl, takeWhile_textOf]
      exact words_heading _ _
  case unique =>
    intro otherSettings others q otherReached otherCount text written otherWritten
    have otherForest := (represents_run otherSettings others).forest
    rw [otherReached] at otherForest
    rw [resolvedClauses_eq forest]
    exact resolvedClauses_eq_of_toDimacs forest otherForest written otherWritten

/-- A literal that an equality replaces, an empty clause and a number of variables
that is negative. -/
theorem toDimacs_run_spec_empty :
    let p := (fresh {}).run [.appendClause [7, -9], .declareEqual 7 (-5), .appendClause []]
    p.toDimacs (some (-3)) (some true) = .ok "p cnf -3 2\n-5 -9 0\n0\n" ∧
      p.resolvedClauses = .ok [[-5, -9], []] ∧
      readParts (body true "p cnf -3 2\n-5 -9 0\n0\n") = .ok [[-5, -9], [], []] ∧
      ∀ q : Problem, q.pool = p.pool → q.toDimacs none (some false) = .ok "-5 -9 0\n0\n" →
        q.resolvedClauses = .ok [[-5, -9], []] := by
  intro p
  have reached : ((fresh {}).run [.appendClause [7, -9], .declareEqual 7 (-5),
      .appendClause []]).pool = p.pool := rfl
  obtain ⟨-, success, unique⟩ := toDimacs_run_spec reached
    (legible_of_short (by decide +kernel)) (some (-3)) (some true) rfl
  obtain ⟨text, clauses, lines, written, resolved, parts, -⟩ :=
    success (Decimal.legible_of_natAbs_lt (by decide))
  have text_eq : p.toDimacs (some (-3)) (some true) = .ok "p cnf -3 2\n-5 -9 0\n0\n" := by
    decide +kernel
  have body_eq : p.toDimacs (some (-3)) (some false) = .ok "-5 -9 0\n0\n" := by decide +kernel
  have clauses_eq : p.resolvedClauses = .ok [[-5, -9], []] := by decide +kernel
  cases written.symm.trans text_eq
  cases resolved.symm.trans clauses_eq
  exact ⟨text_eq, clauses_eq, parts, fun q samePool sameText =>
    (unique samePool.symm none _ body_eq sameText).trans clauses_eq⟩

/-- A number of variables that is too long is not announced, and there is no text
all the same. -/
theorem not_toDimacs_every_count :
    ¬ ∀ count : Int, ∃ text, (fresh {}).toDimacs (some count) (some false) = .ok text := by
  intro every
  obtain ⟨text, written⟩ := every Decimal.overlong
  have refused : (fresh {}).toDimacs (some Decimal.overlong) (some false) =
      .error .numberTooLong := by decide +kernel
  rw [refused] at written
  contradiction

end Problem

end Clausal
