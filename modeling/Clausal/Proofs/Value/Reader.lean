import Clausal.Value.Reader
import Clausal.Proofs.Outcome
import Mathlib.Tactic.SplitIfs

/-!
# Texts that are too much for the reader

The reader gives up where an integer has too many digits or where too many lists and
records are open at a time.  Each digit and each opening bracket is a character of its
own, so a text must be longer than the limit to be refused for one of these reasons.
-/

namespace Clausal.Value

/-! ## Tokens -/

namespace Token

/-- The token opens a list or a record. -/
def opens : Token → Bool
  | .openList => true
  | .openRecord => true
  | _ => false

/-- If the token is an oversized integer, it has more digits than are allowed, but not
more than this many. -/
def Fits (length : Nat) (t : Token) : Prop :=
  ∀ digits, t = .oversized digits → Decimal.digitLimit < digits ∧ digits ≤ length

/-- What a word of this length can be or end with: a token that opens nothing and
fits. -/
structure InWord (length : Nat) (t : Token) : Prop where
  opens_eq : t.opens = false
  fits : t.Fits length

/-- How many of some tokens open a list or a record. -/
def opened (tokens : List Placed) : Nat :=
  tokens.countP (·.token.opens)

variable {cs : List Char} {t : Token} {length start : Nat}

theorem opened_append (first second : List Placed) :
    opened (first ++ second) = opened first + opened second :=
  List.countP_append

theorem opened_eq_zero {tokens : List Placed} (inWord : ∀ u ∈ tokens, u.token.InWord length) :
    opened tokens = 0 :=
  List.countP_eq_zero.mpr fun u mem => by simp [(inWord u mem).opens_eq]

theorem Fits.mono {longer : Nat} (fits : t.Fits length) (le : length ≤ longer) :
    t.Fits longer := by
  intro digits oversized
  obtain ⟨tooMany, within⟩ := fits digits oversized
  exact ⟨tooMany, Nat.le_trans within le⟩

theorem inWord_scalar (v : Value) : (Token.scalar v).InWord length :=
  ⟨rfl, nofun⟩

theorem inWord_stray : Token.stray.InWord length :=
  ⟨rfl, nofun⟩

theorem inWord_broken (fault : Fault) (offset : Nat) : (Token.broken fault offset).InWord length :=
  ⟨rfl, nofun⟩

theorem inWord_ofInteger (negative : Bool) {whole : List Char} (shorter : whole.length ≤ length) :
    (ofInteger negative whole).InWord length := by
  rw [ofInteger]
  by_cases tooLong : Decimal.digitLimit < whole.length
  · rw [if_pos tooLong]
    refine ⟨rfl, ?_⟩
    intro digits same
    cases same
    exact ⟨tooLong, shorter⟩
  · rw [if_neg tooLong]
    exact inWord_scalar _

theorem inWord_andRest (inWord : t.InWord length) (word rest : List Char) :
    ∀ u ∈ andRest start t word rest, u.token.InWord length := by
  rw [andRest]
  cases rest.isEmpty with
  | true => exact List.forall_mem_singleton.mpr inWord
  | false =>
      exact List.forall_mem_cons.mpr ⟨inWord, List.forall_mem_singleton.mpr inWord_stray⟩

theorem length_wholeDigits_le (cs : List Char) : (wholeDigits cs).length ≤ cs.length := by
  unfold wholeDigits
  split
  · simp
  · exact (List.takeWhile_prefix _).length_le

/-- A number has its tokens from its own characters. -/
theorem inWord_ofNumber (start : Nat) (cs : List Char) :
    ∀ t ∈ ofNumber start cs, t.token.InWord cs.length := by
  unfold ofNumber
  split
  next negative unsigned signed =>
    have shorter : unsigned.length ≤ cs.length := by
      split at signed
      · cases signed
        simp
      · cases signed
        exact Nat.le_refl _
    have wholeShorter := Nat.le_trans (length_wholeDigits_le unsigned) shorter
    dsimp only
    split_ifs
    · exact List.forall_mem_singleton.mpr inWord_stray
    · exact inWord_andRest (inWord_ofInteger negative wholeShorter) _ _
    · exact inWord_andRest (inWord_scalar _) _ _

theorem inWord_ofBareWord (start : Nat) (cs : List Char) :
    ∀ t ∈ ofBareWord start cs, t.token.InWord cs.length := by
  rw [ofBareWord]
  split
  · exact inWord_andRest (inWord_scalar _) _ _
  · exact inWord_ofNumber start cs

/-! ## The token machine -/

/-- How many characters of a word are held back. -/
def State.held : State → Nat
  | .bareWord _ chars => chars.length
  | _ => 0

/-- What one character may make of a state that holds back this many: tokens of which
at most one opens something, an oversized integer from what was held back, and a state
that holds back one more at most. -/
structure Makes (held : Nat) (made : List Placed × State) : Prop where
  opened_le : opened made.1 ≤ 1
  fits : ∀ t ∈ made.1, t.token.Fits held
  further : made.2.held ≤ held + 1

theorem makes_nothing {held : Nat} {s : State} (further : s.held ≤ held + 1) :
    Makes held ([], s) :=
  ⟨Nat.zero_le 1, List.forall_mem_nil _, further⟩

theorem makes_one {held : Nat} {s : State} (notOversized : ∀ digits, t ≠ .oversized digits)
    (further : s.held ≤ held + 1) : Makes held ([⟨start, t⟩], s) where
  opened_le := List.countP_le_length
  fits := List.forall_mem_singleton.mpr fun digits same => absurd same (notOversized digits)
  further := further

theorem makes_stepBetween (i : Nat) (c : Char) : Makes 0 (stepBetween i c) := by
  rw [stepBetween]
  split_ifs
  · exact makes_nothing (Nat.zero_le _)
  · exact makes_one nofun (Nat.zero_le _)
  · exact makes_one nofun (Nat.zero_le _)
  · exact makes_one nofun (Nat.zero_le _)
  · exact makes_one nofun (Nat.zero_le _)
  · exact makes_one nofun (Nat.zero_le _)
  · exact makes_one nofun (Nat.zero_le _)
  · exact makes_nothing (Nat.zero_le _)
  · exact makes_nothing (Nat.le_refl _)
  · exact makes_one nofun (Nat.zero_le _)

theorem makes_step (s : State) (i : Nat) (c : Char) : Makes s.held (step s i c) := by
  cases s with
  | between => exact makes_stepBetween i c
  | bareWord start chars =>
      rw [step]
      split_ifs
      · exact makes_nothing (Nat.le_refl _)
      · obtain ⟨openedHere, fits, further⟩ := makes_stepBetween i c
        have word := inWord_ofBareWord start chars.reverse
        rw [List.length_reverse] at word
        dsimp only
        refine ⟨?_, ?_, Nat.le_trans further (Nat.le_add_left 1 _)⟩
        · rw [opened_append, opened_eq_zero word, Nat.zero_add]
          exact openedHere
        · rw [List.forall_mem_append]
          exact ⟨fun t mem => (word t mem).fits, fun t mem => (fits t mem).mono (Nat.zero_le _)⟩
  | quoted start points justEscaped =>
      rw [step]
      split_ifs
      · exact makes_one nofun (Nat.zero_le _)
      · exact makes_nothing (Nat.zero_le _)
      · exact makes_one nofun (Nat.zero_le _)
      · exact makes_nothing (Nat.zero_le _)
  | escape start points =>
      rw [step]
      split_ifs
      · exact makes_nothing (Nat.zero_le _)
      · cases escaped? c with
        | none => exact makes_one nofun (Nat.zero_le _)
        | some n => exact makes_nothing (Nat.zero_le _)
  | unicodeEscape mark start points owed sofar =>
      rw [step]
      cases hexadecimal? c with
      | none => exact makes_one nofun (Nat.zero_le _)
      | some d =>
          dsimp only
          split_ifs
          · exact makes_nothing (Nat.zero_le _)
          · exact makes_nothing (Nat.zero_le _)
  | lost => exact makes_nothing (Nat.zero_le _)

/-- The tokens that a text makes from a state and an offset on. -/
def after (s : State) (i : Nat) : List Char → List Placed
  | [] => finish s
  | c :: cs => (step s i c).1 ++ after (step s i c).2 (i + 1) cs

theorem ofChars_eq_after (cs : List Char) : ofChars cs = after .between 0 cs := by
  have folded : ∀ (cs : List Char) (i : Nat) (made : List Placed × State),
      let last := (cs.zipIdx i).foldl
        (fun made e => ((step made.2 e.2 e.1).1.reverse ++ made.1, (step made.2 e.2 e.1).2)) made
      last.1.reverse ++ finish last.2 = made.1.reverse ++ after made.2 i cs := by
    intro cs
    induction cs with
    | nil =>
        intro i made
        rfl
    | cons c cs ih =>
        intro i made
        have later := ih (i + 1) ((step made.2 i c).1.reverse ++ made.1, (step made.2 i c).2)
        dsimp only at later
        rw [List.reverse_append, List.reverse_reverse, List.append_assoc] at later
        exact later
  exact folded cs 0 ([], .between)

/-- What the end of a text completes opens nothing. -/
theorem inWord_finish (s : State) : ∀ t ∈ finish s, t.token.InWord s.held := by
  cases s with
  | bareWord start chars =>
      have word := inWord_ofBareWord start chars.reverse
      rw [List.length_reverse] at word
      exact word
  | between => exact List.forall_mem_nil _
  | lost => exact List.forall_mem_nil _
  | quoted start points justEscaped =>
      cases justEscaped <;> exact List.forall_mem_singleton.mpr (inWord_broken _ _)
  | _ => exact List.forall_mem_singleton.mpr (inWord_broken _ _)

/-- A text has a character for every bracket that it opens and for every digit of an
oversized integer.  The induction is on what is left of the text, and what is held back
counts for its digits. -/
theorem after_spec (s : State) (i : Nat) (cs : List Char) :
    opened (after s i cs) ≤ cs.length ∧
      ∀ t ∈ after s i cs, t.token.Fits (s.held + cs.length) := by
  induction cs generalizing s i with
  | nil =>
      have word := inWord_finish s
      exact ⟨Nat.le_of_eq (opened_eq_zero word), fun t mem => (word t mem).fits⟩
  | cons c cs ih =>
      obtain ⟨openedHere, fits, further⟩ := makes_step s i c
      obtain ⟨openedLater, fitsLater⟩ := ih (step s i c).2 (i + 1)
      rw [after, opened_append, List.length_cons, List.forall_mem_append]
      refine ⟨by omega, fun t mem => (fits t mem).mono (by omega), ?_⟩
      intro t mem
      exact (fitsLater t mem).mono (by omega)

/-- The tokens of a text open no more than it has characters, and an oversized integer
among them has its digits in the text. -/
theorem ofChars_spec (cs : List Char) :
    opened (ofChars cs) ≤ cs.length ∧ ∀ t ∈ ofChars cs, t.token.Fits cs.length := by
  have spec := after_spec .between 0 cs
  have held : State.between.held = 0 := rfl
  rw [held, Nat.zero_add] at spec
  rw [ofChars_eq_after]
  exact spec

end Token

/-! ## The reader -/

namespace Reader

/-- What a token may lead to where these lists and records are open: a state with at
most itself more on the stack, or an error for the reason that it is oversized or opens
one too many. -/
def Bounded (room : Nat) (stack : List Frame) (t : Token) : Except Unreadable State → Prop
  | .ok after => after.stack.length ≤ stack.length + t.opens.toNat
  | .error (.oversized digits) => t = .oversized digits
  | .error (.tooDeep _) => t.opens = true ∧ room ≤ stack.length
  | .error _ => True

variable {room : Nat} {stack : List Frame}

theorem length_stack_complete (stack : List Frame) (v : Value) :
    (State.complete stack v).stack.length = stack.length := by
  cases stack with
  | nil => rfl
  | cons frame stack => cases frame <;> rfl

theorem bounded_close (room : Nat) (stack : List Frame) (t : Token.Placed) :
    Bounded room stack t.token (State.close stack t) := by
  unfold State.close
  split
  · rw [Bounded, length_stack_complete]
    simp
    omega
  · rw [Bounded, length_stack_complete]
    simp
    omega
  · trivial

theorem bounded_begin (room : Nat) (stack : List Frame) (t : Token.Placed) :
    Bounded room stack t.token (State.begin room stack t) := by
  obtain ⟨offset, t⟩ := t
  cases t with
  | scalar v => exact Nat.le_of_eq (length_stack_complete stack v)
  | openList =>
      rw [State.begin]
      dsimp only
      split_ifs with tooDeep
      · exact ⟨rfl, tooDeep⟩
      · exact Nat.le_refl _
  | openRecord =>
      rw [State.begin]
      dsimp only
      split_ifs with tooDeep
      · exact ⟨rfl, tooDeep⟩
      · exact Nat.le_refl _
  | oversized digits => rfl
  | _ => trivial

theorem bounded_key (room : Nat) (stack : List Frame) (t : Token.Placed) :
    Bounded room stack t.token (State.key stack t) := by
  unfold State.key
  split
  · exact Nat.le_add_right _ _
  · trivial
  · trivial

theorem bounded_step (room : Nat) (s : State) (t : Token.Placed) :
    Bounded room s.stack t.token (s.step room t) := by
  unfold State.step
  split
  · exact bounded_begin room s.stack t
  · split
    · exact bounded_close room s.stack t
    · exact bounded_begin room s.stack t
  · exact bounded_key room s.stack t
  · split
    · exact bounded_close room s.stack t
    · exact bounded_key room s.stack t
  · split
    · exact Nat.le_add_right _ _
    · trivial
  · split
    · exact Nat.le_add_right _ _
    · exact Nat.le_add_right _ _
    · exact bounded_close room s.stack t
  · trivial

/-- A whole run gives up only at a token that is oversized, or when more lists and
records have been opened than there is room for. -/
theorem foldlM_step_eq_error {tokens : List Token.Placed} {s : State} {e : Unreadable}
    (failed : tokens.foldlM (State.step room) s = .error e) :
    (∀ digits, e = .oversized digits → ∃ t ∈ tokens, t.token = .oversized digits) ∧
      ∀ kind, e = .tooDeep kind → room < s.stack.length + Token.opened tokens := by
  induction tokens generalizing s with
  | nil => contradiction
  | cons t tokens ih =>
      have bounded := bounded_step room s t
      have counted : Token.opened (t :: tokens) = t.token.opens.toNat + Token.opened tokens := by
        rw [Token.opened, Token.opened, List.countP_cons, Nat.add_comm]
        cases t.token.opens <;> rfl
      rw [List.foldlM_cons] at failed
      cases stepped : s.step room t with
      | error first =>
          rw [stepped] at bounded failed
          cases failed
          constructor
          · rintro digits rfl
            exact ⟨t, List.mem_cons_self, bounded⟩
          · rintro kind rfl
            obtain ⟨opens, tooDeep⟩ := bounded
            rw [counted, opens, Bool.toNat_true]
            omega
      | ok after =>
          rw [stepped] at bounded failed
          obtain ⟨oversized, tooDeep⟩ := ih failed
          constructor
          · intro digits same
            obtain ⟨u, later, found⟩ := oversized digits same
            exact ⟨u, List.mem_cons_of_mem t later, found⟩
          · intro kind same
            have later := tooDeep kind same
            rw [Bounded] at bounded
            rw [counted]
            omega

end Reader

/-- A text that is not read breaks the grammar, or the machine stops at one of its
tokens. -/
theorem exists_run_of_read {room : Nat} {cs : List Char} {e : Unreadable}
    (failed : read room cs = .error e) :
    (∃ fault offset, e = .fault fault offset) ∨
      (Token.ofChars cs).foldlM (Reader.State.step room) {} = .error e := by
  rw [read] at failed
  split_ifs at failed
  · cases failed
    exact Or.inl ⟨_, _, rfl⟩
  · cases run : (Token.ofChars cs).foldlM (Reader.State.step room) {} with
    | error first =>
        rw [run] at failed
        cases failed
        exact Or.inr rfl
    | ok last =>
        rw [run, Outcome.ok_bind, Reader.State.finish] at failed
        split at failed
        · contradiction
        · cases failed
          exact Or.inl ⟨_, _, rfl⟩

/-- Only a text with more characters than an integer may have digits is refused for an
integer. -/
theorem digitLimit_lt_of_read {room : Nat} {cs : List Char} {digits : Nat}
    (failed : read room cs = .error (.oversized digits)) : Decimal.digitLimit < cs.length := by
  obtain ⟨fault, offset, other⟩ | run := exists_run_of_read failed
  · contradiction
  · obtain ⟨t, mem, oversized⟩ := (Reader.foldlM_step_eq_error run).1 digits rfl
    obtain ⟨tooMany, within⟩ := (Token.ofChars_spec cs).2 t mem digits oversized
    exact Nat.lt_of_lt_of_le tooMany within

/-- Only a text with more characters than there may be lists and records open is
refused for these. -/
theorem room_lt_of_read {room : Nat} {cs : List Char} {kind : String}
    (failed : read room cs = .error (.tooDeep kind)) : room < cs.length := by
  obtain ⟨fault, offset, other⟩ | run := exists_run_of_read failed
  · contradiction
  · have opened := (Reader.foldlM_step_eq_error run).2 kind rfl
    rw [List.length_nil, Nat.zero_add] at opened
    exact Nat.lt_of_lt_of_le opened (Token.ofChars_spec cs).1

end Clausal.Value
