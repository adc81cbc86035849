import Clausal.Proofs.Assignment
import Clausal.Proofs.Decimal.Script
import Mathlib.Data.List.Forall2

/-!
# The grammar of answers

An answer has the word that it starts with, then words for literals other than zero,
and then a word for zero, each a numeral; anything may follow.  The numerals that are
read are not only those in ASCII: digits of other sets and underscores are read as
well.  A text that starts with the right word and is no answer either has a word that
is no numeral before any zero, or it has no zero.
-/

namespace Clausal.Assignment

open Decimal (Script)

/-! ## Answers -/

/-- The words denote the literals one by one, and none of these is zero. -/
def Literals (script : Script) (tokens : List Text) (lits : List Int) : Prop :=
  List.Forall₂ script.Denotes tokens lits ∧ 0 ∉ lits

/-- The text is an answer with these literals, its numerals in the given script. -/
def Answers (script : Script) (text : Text) (lits : List Int) : Prop :=
  ∃ front zero rest, Text.words text = satisfiable :: (front ++ zero :: rest) ∧
    Literals script front lits ∧ script.Denotes zero 0

/-- The text starts like an answer and is none, with the error that says so: the
first word that is no numeral, with no zero before it, or that there is no zero. -/
inductive Malformed (text : Text) : Error → Prop
  | stray {front rest : List Text} {token : Text} {lits : List Int}
      (split : Text.words text = satisfiable :: (front ++ token :: rest))
      (literals : Literals .unicode front lits)
      (noNumeral : ∀ z, ¬ Script.unicode.Denotes token z) : Malformed text (.strayToken token)
  | unended {tokens : List Text} {lits : List Int}
      (split : Text.words text = satisfiable :: tokens)
      (literals : Literals .unicode tokens lits) : Malformed text .missingTerminator

/-! ## Reading words -/

variable {script : Script} {text token : Text} {tokens front : List Text} {lits : List Int}

/-- A word is read as the integer that it denotes. -/
theorem readInt_word_eq_ok_iff (isWord : Text.IsWord token) {z : Int} :
    Decimal.readInt token = .ok z ↔ Script.unicode.Denotes token z := by
  rw [Decimal.readInt_eq_ok_iff, isWord.trimBy_isWhiteSpace]

/-- Literals in front are read one by one before what follows them. -/
theorem readLiterals_append (areWords : ∀ token ∈ front, Text.IsWord token)
    (literals : Literals .unicode front lits) (rest : List Text) :
    readLiterals (front ++ rest) = (readLiterals rest).map (lits ++ ·) := by
  obtain ⟨denote, nonzero⟩ := literals
  induction denote with
  | nil =>
      rw [List.nil_append]
      cases readLiterals rest <;> rfl
  | @cons token lit front lits denotes _ ih =>
      obtain ⟨isWord, areWords⟩ := List.forall_mem_cons.mp areWords
      rw [List.mem_cons, not_or] at nonzero
      obtain ⟨ne, nonzero⟩ := nonzero
      rw [List.cons_append, readLiterals, (readInt_word_eq_ok_iff isWord).mpr denotes]
      dsimp only
      rw [if_neg (Ne.symm ne), ih areWords nonzero]
      cases readLiterals rest <;> rfl

theorem readLiterals_zero (isWord : Text.IsWord token) (denotes : Script.unicode.Denotes token 0)
    (rest : List Text) : readLiterals (token :: rest) = .ok [] := by
  rw [readLiterals, (readInt_word_eq_ok_iff isWord).mpr denotes]
  rfl

theorem readLiterals_stray (isWord : Text.IsWord token)
    (noNumeral : ∀ z, ¬ Script.unicode.Denotes token z) (rest : List Text) :
    readLiterals (token :: rest) = .error (.strayToken token) := by
  rw [readLiterals]
  cases read : Decimal.readInt token with
  | error e => rfl
  | ok z => exact absurd ((readInt_word_eq_ok_iff isWord).mp read) (noNumeral z)

/-- Any words are literals up to their end, to the first zero or to the first word
that is no numeral. -/
theorem exists_literals (tokens : List Text) :
    ∃ front lits, Literals .unicode front lits ∧
      (tokens = front ∨ ∃ token rest, tokens = front ++ token :: rest ∧
        (Script.unicode.Denotes token 0 ∨ ∀ z, ¬ Script.unicode.Denotes token z)) := by
  induction tokens with
  | nil => exact ⟨[], [], ⟨.nil, List.not_mem_nil⟩, Or.inl rfl⟩
  | cons token tokens ih =>
      by_cases stop : Script.unicode.Denotes token 0 ∨ ∀ z, ¬ Script.unicode.Denotes token z
      · exact ⟨[], [], ⟨.nil, List.not_mem_nil⟩, Or.inr ⟨token, tokens, rfl, stop⟩⟩
      · rw [not_or, not_forall_not] at stop
        obtain ⟨notZero, lit, denotes⟩ := stop
        obtain ⟨front, lits, ⟨denote, nonzero⟩, ends⟩ := ih
        have ne : 0 ≠ lit := by
          rintro rfl
          exact notZero denotes
        have nonzero : 0 ∉ lit :: lits := by
          rw [List.mem_cons, not_or]
          exact ⟨ne, nonzero⟩
        refine ⟨token :: front, lit :: lits, ⟨.cons denotes denote, nonzero⟩, ?_⟩
        obtain rfl | ⟨other, rest, rfl, stop⟩ := ends
        · exact Or.inl rfl
        · exact Or.inr ⟨other, rest, rfl, stop⟩

/-! ## Reading texts -/

theorem parse_of_words (split : Text.words text = satisfiable :: tokens) :
    parse text = (readLiterals tokens).map some := by
  rw [parse, split]
  exact if_pos rfl

theorem isWord_of_words_eq (split : Text.words text = satisfiable :: tokens) :
    ∀ token ∈ tokens, Text.IsWord token := fun _ mem =>
  Text.isWord_of_mem_words (split ▸ List.mem_cons_of_mem _ mem)

theorem Answers.parse_eq (answers : Answers .unicode text lits) : parse text = .ok (some lits) := by
  obtain ⟨front, zero, rest, split, literals, denotes⟩ := answers
  obtain ⟨inFront, later⟩ := List.forall_mem_append.mp (isWord_of_words_eq split)
  have ends := readLiterals_zero (later zero List.mem_cons_self) denotes rest
  rw [parse_of_words split, readLiterals_append inFront literals, ends]
  simp [Except.map]

theorem Malformed.parse_eq {e : Error} (malformed : Malformed text e) : parse text = .error e := by
  cases malformed with
  | @stray front rest token lits split literals noNumeral =>
      obtain ⟨inFront, later⟩ := List.forall_mem_append.mp (isWord_of_words_eq split)
      have stops := readLiterals_stray (later token List.mem_cons_self) noNumeral rest
      rw [parse_of_words split, readLiterals_append inFront literals, stops]
      rfl
  | @unended tokens lits split literals =>
      have whole := readLiterals_append (isWord_of_words_eq split) literals []
      rw [List.append_nil] at whole
      rw [parse_of_words split, whole]
      rfl

/-- Another first word, or none at all. -/
theorem parse_of_head? (other : (Text.words text).head? ≠ some satisfiable) :
    parse text = .ok none := by
  rw [parse]
  cases split : Text.words text with
  | nil => rfl
  | cons first rest =>
      have ne : first ≠ satisfiable := by
        rintro rfl
        exact other (by rw [split]; rfl)
      exact if_neg ne

/-- A text does not start like an answer, or it is an answer, or it is a malformed
one. -/
theorem answers_or_malformed (text : Text) :
    (Text.words text).head? ≠ some satisfiable ∨ (∃ lits, Answers .unicode text lits) ∨
      ∃ e, Malformed text e := by
  by_cases starts : (Text.words text).head? = some satisfiable
  · obtain ⟨tokens, split⟩ := List.head?_eq_some_iff.mp starts
    obtain ⟨front, lits, literals, ends⟩ := exists_literals tokens
    obtain rfl | ⟨token, rest, rfl, zero | noNumeral⟩ := ends
    · exact Or.inr (Or.inr ⟨_, .unended split literals⟩)
    · exact Or.inr (Or.inl ⟨lits, front, token, rest, split, literals, zero⟩)
    · exact Or.inr (Or.inr ⟨_, .stray split literals noNumeral⟩)
  · exact Or.inl starts

/-! ## Answers in ASCII -/

/-- Literals in ASCII are those whose words have nothing but signs and ASCII
digits. -/
theorem literals_ascii_iff :
    Literals .ascii front lits ↔
      (∀ token ∈ front, ∀ n ∈ token, Decimal.IsPlain n) ∧ Literals .unicode front lits := by
  have denotes_eq : Script.ascii.Denotes = fun token z =>
      (∀ n ∈ token, Decimal.IsPlain n) ∧ Script.unicode.Denotes token z := by
    funext token z
    exact propext Script.denotes_ascii_iff
  rw [Literals, Literals, denotes_eq, List.forall₂_and_left, and_assoc]

/-- An answer in ASCII is an answer whose words up to the zero have nothing but
signs and ASCII digits. -/
theorem answers_ascii_iff :
    Answers .ascii text lits ↔ Answers .unicode text lits ∧
      ∀ token ∈ (Text.words text).tail.take (lits.length + 1),
        ∀ n ∈ token, Decimal.IsPlain n := by
  have read : ∀ {front rest : List Text} {zero : Text},
      Text.words text = satisfiable :: (front ++ zero :: rest) → Literals .unicode front lits →
        (Text.words text).tail.take (lits.length + 1) = front ++ [zero] := by
    intro front rest zero split literals
    have upToZero : front ++ zero :: rest = (front ++ [zero]) ++ rest := by
      rw [List.append_assoc, List.singleton_append]
    have length : lits.length + 1 = (front ++ [zero]).length := by
      rw [List.length_append, literals.1.length_eq, List.length_singleton]
    rw [split, List.tail_cons, upToZero, length, List.take_left]
  constructor
  · rintro ⟨front, zero, rest, split, literals, denotes⟩
    obtain ⟨plain, literals⟩ := literals_ascii_iff.mp literals
    obtain ⟨plainZero, denotes⟩ := Script.denotes_ascii_iff.mp denotes
    refine ⟨⟨front, zero, rest, split, literals, denotes⟩, ?_⟩
    rw [read split literals, List.forall_mem_append, List.forall_mem_singleton]
    exact ⟨plain, plainZero⟩
  · rintro ⟨⟨front, zero, rest, split, literals, denotes⟩, plain⟩
    rw [read split literals, List.forall_mem_append, List.forall_mem_singleton] at plain
    exact ⟨front, zero, rest, split, literals_ascii_iff.mpr ⟨plain.1, literals⟩,
      Script.denotes_ascii_iff.mpr ⟨plain.2, denotes⟩⟩

/-! ## What is accepted -/

theorem parse_eq_none_iff :
    parse text = .ok none ↔ (Text.words text).head? ≠ some satisfiable := by
  refine ⟨?_, parse_of_head?⟩
  intro parsed
  obtain other | ⟨lits, answers⟩ | ⟨e, malformed⟩ := answers_or_malformed text
  · exact other
  · cases answers.parse_eq.symm.trans parsed
  · cases malformed.parse_eq.symm.trans parsed

theorem parse_eq_some_iff : parse text = .ok (some lits) ↔ Answers .unicode text lits := by
  refine ⟨?_, Answers.parse_eq⟩
  intro parsed
  obtain other | ⟨others, answers⟩ | ⟨e, malformed⟩ := answers_or_malformed text
  · cases (parse_of_head? other).symm.trans parsed
  · cases answers.parse_eq.symm.trans parsed
    exact answers
  · cases malformed.parse_eq.symm.trans parsed

theorem parse_eq_error_iff {e : Error} : parse text = .error e ↔ Malformed text e := by
  refine ⟨?_, Malformed.parse_eq⟩
  intro parsed
  obtain other | ⟨lits, answers⟩ | ⟨e, malformed⟩ := answers_or_malformed text
  · cases (parse_of_head? other).symm.trans parsed
  · cases answers.parse_eq.symm.trans parsed
  · cases malformed.parse_eq.symm.trans parsed
    exact malformed

/-- Every text is taken for no assignment, for an answer or for a malformed one, and
for nothing else.  The answers in ASCII are accepted with their literals, and those
are all answers that have nothing but signs and ASCII digits up to the zero. -/
theorem parse_grammar_spec (text : Text) :
    (parse text = .ok none ↔ (Text.words text).head? ≠ some satisfiable) ∧
      (∀ lits, parse text = .ok (some lits) ↔ Answers .unicode text lits) ∧
      (∀ e, parse text = .error e ↔ Malformed text e) ∧
      ∀ lits, Answers .ascii text lits ↔ parse text = .ok (some lits) ∧
        ∀ token ∈ (Text.words text).tail.take (lits.length + 1),
          ∀ n ∈ token, Decimal.IsPlain n := by
  refine ⟨parse_eq_none_iff, fun lits => parse_eq_some_iff, fun e => parse_eq_error_iff, ?_⟩
  intro lits
  rw [answers_ascii_iff, parse_eq_some_iff]

/-- An underscore between two digits is read, although no ASCII numeral has one. -/
theorem not_answers_ascii_underscore :
    parse "SAT 1_0 0" = .ok (some [10]) ∧ ∀ lits, ¬ Answers .ascii "SAT 1_0 0" lits := by
  refine ⟨by decide +kernel, ?_⟩
  intro lits answers
  obtain ⟨answers, plain⟩ := answers_ascii_iff.mp answers
  have read : parse "SAT 1_0 0" = .ok (some [10]) := by decide +kernel
  cases answers.parse_eq.symm.trans read
  have underscore := plain "1_0" (by decide) Text.underscore (by decide)
  contradiction

end Clausal.Assignment
