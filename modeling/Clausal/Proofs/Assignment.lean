import Clausal.Assignment
import Clausal.Proofs.Writing

/-!
# Answers read back

The literals of a written answer are its words, one each, after the word that it
starts with.  Reading stops at the first zero, the one that ends the list or one
among the literals, so what comes back are the literals before the first zero.
The words are the same with other blanks between them, and what comes after the
zero is not looked at.
-/

namespace Clausal.Assignment

/-- Literals with a space after each are words of their own. -/
theorem words_flatMap_spaced (lits : List Int) (rest : Text) :
    Text.words (lits.flatMap spaced ++ rest) = lits.map Decimal.ofInt ++ Text.words rest := by
  induction lits with
  | nil => rfl
  | cons lit lits ih =>
      have opened : (lit :: lits).flatMap spaced ++ rest =
          Decimal.ofInt lit ++ Text.space :: (lits.flatMap spaced ++ rest) := by
        simp [spaced]
      rw [opened, Text.words_append_blank _ (by decide), (Decimal.isWord_ofInt lit).words_eq, ih]
      rfl

/-- A list of literals ends with a written zero. -/
theorem terminator_eq : terminator = Decimal.ofInt 0 ++ [Text.newline] := by
  have zero : Decimal.ofInt 0 = [Decimal.digit 0] := Decimal.ofNat_of_lt (by decide)
  rw [zero]
  decide

theorem words_terminator_append (rest : Text) :
    Text.words (terminator ++ rest) = Decimal.ofInt 0 :: Text.words rest := by
  rw [terminator_eq, List.append_assoc, List.singleton_append,
    Text.words_append_blank _ (by decide), (Decimal.isWord_ofInt 0).words_eq]
  rfl

/-- The words of a written answer with literals, and of a text after it. -/
theorem words_written_append (lits : List Int) (rest : Text) :
    Text.words (written (some lits) ++ rest) =
      satisfiable :: (lits.map Decimal.ofInt ++ Decimal.ofInt 0 :: Text.words rest) := by
  have opened : written (some lits) ++ rest =
      satisfiable ++ Text.newline :: (lits.flatMap spaced ++ (terminator ++ rest)) := by
    simp [written]
  have heading : Text.words satisfiable = [satisfiable] := by decide
  rw [opened, Text.words_append_blank _ (by decide), heading, words_flatMap_spaced,
    words_terminator_append]
  rfl

/-- Written literals are read up to the first zero. -/
theorem readLiterals_map_append {lits : List Int}
    (legible : ∀ lit ∈ lits.takeWhile (· ≠ 0), Decimal.Legible lit) (rest : List Text) :
    readLiterals (lits.map Decimal.ofInt ++ Decimal.ofInt 0 :: rest) =
      .ok (lits.takeWhile (· ≠ 0)) := by
  induction lits with
  | nil =>
      rw [List.map_nil, List.nil_append, readLiterals, Decimal.readInt_ofInt Decimal.legible_zero]
      rfl
  | cons lit lits ih =>
      by_cases ends : lit = 0
      · subst ends
        rw [List.map_cons, List.cons_append, readLiterals,
          Decimal.readInt_ofInt Decimal.legible_zero]
        rfl
      · have kept : (lit :: lits).takeWhile (· ≠ 0) = lit :: lits.takeWhile (· ≠ 0) :=
          List.takeWhile_cons_of_pos (decide_eq_true ends)
        rw [kept] at legible ⊢
        have first := legible lit List.mem_cons_self
        have others := ih fun other later => legible other (List.mem_cons_of_mem lit later)
        rw [List.map_cons, List.cons_append, readLiterals, Decimal.readInt_ofInt first]
        dsimp only
        rw [if_neg ends, others]
        rfl

/-- A written answer is read up to its first zero, with any gaps, with blanks in
front of it and with any text behind it. -/
theorem parse_respaced {lits : List Int}
    (legible : ∀ lit ∈ lits.takeWhile (· ≠ 0), Decimal.Legible lit) {blanks text : Text}
    (blank : ∀ n ∈ blanks, Text.isBlank n = true)
    (respaced : Text.Respaced (written (some lits)) text) (rest : Text) :
    parse (blanks ++ text ++ rest) = .ok (some (lits.takeWhile (· ≠ 0))) := by
  have sameWords : Text.words (blanks ++ text ++ rest) =
      satisfiable :: (lits.map Decimal.ofInt ++ Decimal.ofInt 0 :: Text.words rest) := by
    rw [List.append_assoc, Text.words_blanks_append blank, (respaced.append rest).words_eq,
      words_written_append]
  rw [parse, sameWords]
  dsimp only
  rw [if_pos rfl, readLiterals_map_append legible]
  rfl

/-- An answer is written where none of its literals is too long. -/
theorem format_eq_of_legible {answer : Option (List Int)}
    (legible : ∀ lit ∈ answer.getD [], Decimal.Legible lit) :
    format answer = .ok (written answer) := by
  rw [format, Error.writing_eq_ok_iff.mpr legible]
  rfl

/-- An answer that has been written is read back up to its first zero. -/
theorem parse_written {answer : Option (List Int)}
    (legible : ∀ lits ∈ answer, ∀ lit ∈ lits.takeWhile (· ≠ 0), Decimal.Legible lit) :
    parse (written answer) = .ok (answer.map (List.takeWhile (· ≠ 0))) := by
  cases answer with
  | none => decide
  | some lits =>
      have whole := parse_respaced (legible lits rfl) (List.forall_mem_nil _)
        (Text.Respaced.refl (written (some lits))) []
      rw [List.nil_append, List.append_nil] at whole
      exact whole

end Clausal.Assignment
