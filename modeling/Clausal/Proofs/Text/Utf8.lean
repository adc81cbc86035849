import Clausal.Text.Utf8
import Clausal.Proofs.Outcome
import Mathlib.Tactic.SplitIfs

/-!
# Octets of characters

A sequence of octets is decoded exactly when it is the encoding of some characters,
and then into these.  Every state of the decoder has a language, the octets that may
still come together with the characters that they complete, and reading one more
octet leads to the language of what is left.
-/

namespace Clausal.Text.Utf8

/-! ## Octets of one character -/

/-- An octet may come next in a sequence that has begun. -/
def Pending.Allows (p : Pending) (b : UInt8) : Prop :=
  (if p.taken = 1 then isSecond p.start b.toNat else isContinuation b.toNat) = true

/-- The octets that a sequence is still owed, and the number that it spells with
them.  Each adds its six lower bits to the number so far. -/
inductive Pending.Ends : Pending → List UInt8 → Nat → Prop
  | last {p : Pending} {b : UInt8} {n : Nat} (owed : p.owed = 1) (allowed : p.Allows b)
      (number : n + 0x80 = p.sofar * 0x40 + b.toNat) : p.Ends [b] n
  | more {p : Pending} {b : UInt8} {tail : List UInt8} {m n : Nat} (owed : p.owed ≠ 1)
      (allowed : p.Allows b) (number : m + 0x80 = p.sofar * 0x40 + b.toNat)
      (ends : Ends ⟨p.start, p.taken + 1, p.owed - 1, m⟩ tail n) : p.Ends (b :: tail) n

/-- The sequence that an octet begins, which is still owed this many. -/
def begin (b : UInt8) (owed : Nat) : Pending :=
  ⟨b.toNat, 1, owed, leadingBits b.toNat⟩

/-- An octet and those after it spell a number. -/
inductive Spells (b : UInt8) : List UInt8 → Nat → Prop
  | alone (single : following b.toNat = some 0) : Spells b [] b.toNat
  | several {owed : Nat} {tail : List UInt8} {n : Nat}
      (several : following b.toNat = some (owed + 1)) (ends : (begin b (owed + 1)).Ends tail n) :
      Spells b tail n

variable {p : Pending} {b : UInt8} {tail : List UInt8} {n : Nat}

theorem Pending.ends_of_owed_one (owed : p.owed = 1) :
    p.Ends tail n ↔
      ∃ b, p.Allows b ∧ tail = [b] ∧ n + 0x80 = p.sofar * 0x40 + b.toNat := by
  constructor
  · intro ends
    cases ends with
    | last _ allowed number => exact ⟨_, allowed, rfl, number⟩
    | more several => exact absurd owed several
  · rintro ⟨b, allowed, rfl, number⟩
    exact .last owed allowed number

theorem Pending.ends_of_owed_more (owed : p.owed ≠ 1) :
    p.Ends tail n ↔
      ∃ b rest m, p.Allows b ∧ tail = b :: rest ∧ m + 0x80 = p.sofar * 0x40 + b.toNat ∧
        Ends ⟨p.start, p.taken + 1, p.owed - 1, m⟩ rest n := by
  constructor
  · intro ends
    cases ends with
    | last single => exact absurd single owed
    | more _ allowed number ends => exact ⟨_, _, _, allowed, rfl, number, ends⟩
  · rintro ⟨b, rest, m, allowed, rfl, number, ends⟩
    exact .more owed allowed number ends

theorem isContinuation_iff {k : Nat} : isContinuation k = true ↔ 0x80 ≤ k ∧ k ≤ 0xBF := by
  simp [isContinuation]

theorem isSecond_iff {start k : Nat} :
    isSecond start k = true ↔ (0x80 ≤ k ∧ k ≤ 0xBF) ∧ (start = 0xE0 → 0xA0 ≤ k) ∧
      (start = 0xED → k < 0xA0) ∧ (start = 0xF0 → 0x90 ≤ k) ∧ (start = 0xF4 → k < 0x90) := by
  simp only [isSecond, Bool.and_eq_true, isContinuation_iff]
  split_ifs <;> simp <;> omega

theorem following_eq_some_iff {k owed : Nat} :
    following k = some owed ↔ (k < 0x80 ∧ owed = 0) ∨ ((0xC2 ≤ k ∧ k < 0xE0) ∧ owed = 1) ∨
      ((0xE0 ≤ k ∧ k < 0xF0) ∧ owed = 2) ∨ ((0xF0 ≤ k ∧ k < 0xF5) ∧ owed = 3) := by
  simp only [following, Bool.and_eq_true, decide_eq_true_eq]
  split_ifs <;> simp <;> omega

/-- The four lengths of a sequence, with the ranges of its octets and the number that
it spells. -/
inductive Ranges (b : UInt8) : List UInt8 → Nat → Prop
  | one {n : Nat} (start : b.toNat < 0x80) (number : n = b.toNat) : Ranges b [] n
  | two {x : UInt8} {n : Nat} (start : 0xC2 ≤ b.toNat ∧ b.toNat < 0xE0)
      (second : 0x80 ≤ x.toNat ∧ x.toNat ≤ 0xBF)
      (number : n + 0x3080 = b.toNat * 0x40 + x.toNat) : Ranges b [x] n
  | three {x y : UInt8} {n : Nat} (start : 0xE0 ≤ b.toNat ∧ b.toNat < 0xF0)
      (second : 0x80 ≤ x.toNat ∧ x.toNat ≤ 0xBF) (third : 0x80 ≤ y.toNat ∧ y.toNat ≤ 0xBF)
      (number : n + 0xE2080 = b.toNat * 0x1000 + x.toNat * 0x40 + y.toNat)
      (valid : 0x800 ≤ n ∧ (n < 0xD800 ∨ 0xDFFF < n)) : Ranges b [x, y] n
  | four {x y z : UInt8} {n : Nat} (start : 0xF0 ≤ b.toNat ∧ b.toNat < 0xF5)
      (second : 0x80 ≤ x.toNat ∧ x.toNat ≤ 0xBF) (third : 0x80 ≤ y.toNat ∧ y.toNat ≤ 0xBF)
      (fourth : 0x80 ≤ z.toNat ∧ z.toNat ≤ 0xBF)
      (number : n + 0x3C82080 = b.toNat * 0x40000 + x.toNat * 0x1000 + y.toNat * 0x40 + z.toNat)
      (valid : 0x10000 ≤ n ∧ n < 0x110000) : Ranges b [x, y, z] n

theorem leadingBits_add {k : Nat} :
    (0xC2 ≤ k ∧ k < 0xE0 → leadingBits k + 0xC0 = k) ∧
      (0xE0 ≤ k ∧ k < 0xF0 → leadingBits k + 0xE0 = k) ∧
      (0xF0 ≤ k ∧ k < 0xF5 → leadingBits k + 0xF0 = k) := by
  unfold leadingBits
  split_ifs <;> omega

/-- There is a number so far after an octet that continues a sequence. -/
theorem exists_further {k : Nat} (continues : 0x80 ≤ k ∧ k ≤ 0xBF) (sofar : Nat) :
    ∃ m, m + 0x80 = sofar * 0x40 + k :=
  ⟨sofar * 0x40 + k - 0x80, by omega⟩

/-- What is allowed after a start octet keeps the number in its range. -/
theorem Spells.ranges (spells : Spells b tail n) : Ranges b tail n := by
  obtain ⟨bitsOfTwo, bitsOfThree, bitsOfFour⟩ := leadingBits_add (k := b.toNat)
  cases spells with
  | alone single =>
      have start := following_eq_some_iff.mp single
      exact .one (by omega) rfl
  | several several ends =>
      obtain ⟨-, k⟩ | ⟨start, k⟩ | ⟨start, k⟩ | ⟨start, k⟩ := following_eq_some_iff.mp several
      · contradiction
      · obtain rfl := Nat.succ.inj k
        obtain ⟨x, second, rfl, number⟩ := (Pending.ends_of_owed_one rfl).mp ends
        have bits := bitsOfTwo start
        obtain ⟨second, -⟩ := isSecond_iff.mp second
        simp only [begin] at number
        exact .two start second (by omega)
      · obtain rfl := Nat.succ.inj k
        obtain ⟨x, _, m, second, rfl, number, ends⟩ :=
          (Pending.ends_of_owed_more (by simp [begin])).mp ends
        obtain ⟨y, third, rfl, further⟩ := (Pending.ends_of_owed_one rfl).mp ends
        have bits := bitsOfThree start
        obtain ⟨second, overlong, surrogate, -⟩ := isSecond_iff.mp second
        have third := isContinuation_iff.mp third
        simp only [begin] at number overlong surrogate further
        exact .three start second third (by omega) (by omega)
      · obtain rfl := Nat.succ.inj k
        obtain ⟨x, _, m, second, rfl, number, ends⟩ :=
          (Pending.ends_of_owed_more (by simp [begin])).mp ends
        obtain ⟨y, _, l, third, rfl, further, ends⟩ :=
          (Pending.ends_of_owed_more (by simp [begin])).mp ends
        obtain ⟨z, fourth, rfl, last⟩ := (Pending.ends_of_owed_one rfl).mp ends
        have bits := bitsOfFour start
        obtain ⟨second, -, -, overlong, beyond⟩ := isSecond_iff.mp second
        have third := isContinuation_iff.mp third
        have fourth := isContinuation_iff.mp fourth
        simp only [begin] at number overlong beyond further last
        exact .four start second third fourth (by omega) (by omega)

/-- A number in its range has a second octet that is allowed. -/
theorem Ranges.spells (ranges : Ranges b tail n) : Spells b tail n := by
  obtain ⟨bitsOfTwo, bitsOfThree, bitsOfFour⟩ := leadingBits_add (k := b.toNat)
  cases ranges with
  | one start number =>
      subst number
      exact .alone (following_eq_some_iff.mpr (Or.inl ⟨start, rfl⟩))
  | two start second number =>
      have bits := bitsOfTwo start
      have following := following_eq_some_iff.mpr (Or.inr (Or.inl ⟨start, rfl⟩))
      refine .several following (.last rfl (isSecond_iff.mpr ⟨second, ?_⟩) ?_)
      · simp only [begin]
        omega
      · simp only [begin]
        omega
  | three start second third number valid =>
      have bits := bitsOfThree start
      have following := following_eq_some_iff.mpr (Or.inr (Or.inr (Or.inl ⟨start, rfl⟩)))
      obtain ⟨m, first⟩ := exists_further second (leadingBits b.toNat)
      refine .several following (.more (by simp [begin]) (isSecond_iff.mpr ⟨second, ?_⟩) first
        (.last rfl (isContinuation_iff.mpr third) ?_))
      · simp only [begin]
        omega
      · simp only
        omega
  | four start second third fourth number valid =>
      have bits := bitsOfFour start
      have following := following_eq_some_iff.mpr (Or.inr (Or.inr (Or.inr ⟨start, rfl⟩)))
      obtain ⟨m, first⟩ := exists_further second (leadingBits b.toNat)
      obtain ⟨l, further⟩ := exists_further third m
      refine .several following (.more (by simp [begin]) (isSecond_iff.mpr ⟨second, ?_⟩) first
        (.more (by simp [begin]) (isContinuation_iff.mpr third) further
          (.last rfl (isContinuation_iff.mpr fourth) ?_)))
      · simp only [begin]
        omega
      · simp only
        omega

/-! ## Characters -/

/-- The octets of a number in the ranges, as the encoding of a character has them. -/
theorem Ranges.encoded {c : Char} (ranges : Ranges b tail c.toNat) :
    String.utf8EncodeChar c = b :: tail := by
  have point : c.val.toNat = c.toNat := rfl
  simp only [String.utf8EncodeChar, point]
  generalize c.toNat = n at ranges
  cases ranges with
  | one start number => rw [if_pos (by omega), number, UInt8.ofNat_toNat]
  | @two x n start second number =>
      have first : n / 64 % 32 + 192 = b.toNat := by omega
      have last : n % 64 + 128 = x.toNat := by omega
      rw [if_neg (by omega), if_pos (by omega), first, last, UInt8.ofNat_toNat, UInt8.ofNat_toNat]
  | @three x y n start second third number valid =>
      have first : n / 4096 % 16 + 224 = b.toNat := by omega
      have middle : n / 64 % 64 + 128 = x.toNat := by omega
      have last : n % 64 + 128 = y.toNat := by omega
      rw [if_neg (by omega), if_neg (by omega), if_pos (by omega), first, middle, last]
      simp only [UInt8.ofNat_toNat]
  | @four x y z n start second third fourth number valid =>
      have first : n / 262144 % 8 + 240 = b.toNat := by omega
      have high : n / 4096 % 64 + 128 = x.toNat := by omega
      have low : n / 64 % 64 + 128 = y.toNat := by omega
      have last : n % 64 + 128 = z.toNat := by omega
      rw [if_neg (by omega), if_neg (by omega), if_neg (by omega), first, high, low, last]
      simp only [UInt8.ofNat_toNat]

theorem exists_octet {k : Nat} (isOctet : k < 0x100) : ∃ b : UInt8, b.toNat = k :=
  ⟨UInt8.ofNat k, UInt8.toNat_ofNat_of_lt' isOctet⟩

/-- Every character has octets in the ranges. -/
theorem exists_ranges (c : Char) : ∃ b tail, Ranges b tail c.toNat := by
  have valid : c.toNat < 0xD800 ∨ 0xDFFF < c.toNat ∧ c.toNat < 0x110000 := c.valid
  generalize c.toNat = n at valid
  obtain ⟨last, lastEq⟩ := exists_octet (k := n % 0x40 + 0x80) (by omega)
  obtain ⟨low, lowEq⟩ := exists_octet (k := n / 0x40 % 0x40 + 0x80) (by omega)
  by_cases one : n < 0x80
  · obtain ⟨b, start⟩ := exists_octet (k := n) (by omega)
    exact ⟨b, [], .one (by omega) start.symm⟩
  by_cases two : n < 0x800
  · obtain ⟨b, start⟩ := exists_octet (k := n / 0x40 + 0xC0) (by omega)
    exact ⟨b, [last], .two (by omega) (by omega) (by omega)⟩
  by_cases three : n < 0x10000
  · obtain ⟨b, start⟩ := exists_octet (k := n / 0x1000 + 0xE0) (by omega)
    exact ⟨b, [low, last],
      .three (by omega) (by omega) (by omega) (by omega) (by omega)⟩
  · obtain ⟨b, start⟩ := exists_octet (k := n / 0x40000 + 0xF0) (by omega)
    obtain ⟨high, highEq⟩ := exists_octet (k := n / 0x1000 % 0x40 + 0x80) (by omega)
    exact ⟨b, [high, low, last],
      .four (by omega) (by omega) (by omega) (by omega) (by omega) (by omega)⟩

/-- The ranges are those of the encoding of a character. -/
theorem utf8EncodeChar_eq_iff {c : Char} :
    String.utf8EncodeChar c = b :: tail ↔ Spells b tail c.toNat := by
  constructor
  · intro encoded
    obtain ⟨_, _, ranges⟩ := exists_ranges c
    obtain ⟨rfl, rfl⟩ := List.cons.inj (ranges.encoded.symm.trans encoded)
    exact ranges.spells
  · intro spells
    exact spells.ranges.encoded

/-- What octets spell is the number of a character. -/
theorem Spells.toNat_ofNat (spells : Spells b tail n) : (Char.ofNat n).toNat = n := by
  have valid : n.isValidChar := by
    change n < 0xD800 ∨ 0xDFFF < n ∧ n < 0x110000
    have bound := b.toNat_lt
    cases spells.ranges with
    | one start number => omega
    | two start second number => omega
    | three start second third number valid => omega
    | four start second third fourth number valid => omega
  rw [Char.ofNat, dif_pos valid]
  rfl

/-! ## The decoder -/

/-- What may still come after a state, with the characters of the whole. -/
def State.Language (s : State) (octets : List UInt8) (cs : List Char) : Prop :=
  match s.pending with
  | none => ∃ more, octets = more.flatMap String.utf8EncodeChar ∧ cs = s.chars.reverse ++ more
  | some p => ∃ tail n more, octets = tail ++ more.flatMap String.utf8EncodeChar ∧ p.Ends tail n ∧
      cs = s.chars.reverse ++ Char.ofNat n :: more

/-- The encoding of characters that starts with an octet starts with the octets of one
character. -/
theorem cons_eq_flatMap_iff {octets : List UInt8} {cs front : List Char} :
    (∃ more, b :: octets = more.flatMap String.utf8EncodeChar ∧ cs = front ++ more) ↔
      ∃ tail n more, octets = tail ++ more.flatMap String.utf8EncodeChar ∧ Spells b tail n ∧
        cs = front ++ Char.ofNat n :: more := by
  constructor
  · rintro ⟨more, split, rfl⟩
    cases more with
    | nil => contradiction
    | cons c more =>
        obtain ⟨_, _, ranges⟩ := exists_ranges c
        have encoded := ranges.encoded
        rw [List.flatMap_cons, encoded, List.cons_append] at split
        obtain ⟨rfl, rfl⟩ := List.cons.inj split
        refine ⟨_, c.toNat, more, rfl, ranges.spells, ?_⟩
        rw [Char.ofNat_toNat]
  · rintro ⟨tail, n, more, rfl, spells, rfl⟩
    have encoded : String.utf8EncodeChar (Char.ofNat n) = b :: tail :=
      utf8EncodeChar_eq_iff.mpr (spells.toNat_ofNat.symm ▸ spells)
    exact ⟨Char.ofNat n :: more, by rw [List.flatMap_cons, encoded, List.cons_append], rfl⟩

theorem Pending.Allows.continues (allowed : p.Allows b) : 0x80 ≤ b.toNat ∧ b.toNat ≤ 0xBF := by
  unfold Pending.Allows at allowed
  split_ifs at allowed
  · exact (isSecond_iff.mp allowed).1
  · exact isContinuation_iff.mp allowed

/-- An octet that a sequence allows takes it further or completes it. -/
theorem State.step_of_allows {s : State} (pending : s.pending = some p) (allowed : p.Allows b)
    {m : Nat} (number : m + 0x80 = p.sofar * 0x40 + b.toNat) :
    s.step b.toNat = .ok (if p.owed = 1 then ⟨s.position + 1, Char.ofNat m :: s.chars, none⟩
      else ⟨s.position + 1, s.chars, some ⟨p.start, p.taken + 1, p.owed - 1, m⟩⟩) := by
  have range := allowed.continues
  have sofar : p.sofar * 0x40 + (b.toNat - 0x80) = m := by omega
  unfold Pending.Allows at allowed
  rw [State.step, pending]
  simp only [allowed, sofar, Bool.not_true, Bool.false_eq_true, if_false]
  split_ifs <;> rfl

theorem State.step_of_not_allows {s : State} (pending : s.pending = some p)
    (refused : ¬ p.Allows b) : ∃ defect, s.step b.toNat = .error defect := by
  unfold Pending.Allows at refused
  rw [State.step, pending]
  simp [refused]

/-- Between characters an octet is a character or begins one, unless it cannot start
one. -/
theorem State.step_between {s : State} (pending : s.pending = none) :
    (following b.toNat = none ∧ ∃ defect, s.step b.toNat = .error defect) ∨
      (following b.toNat = some 0 ∧
        s.step b.toNat = .ok ⟨s.position + 1, Char.ofNat b.toNat :: s.chars, none⟩) ∨
      ∃ owed, following b.toNat = some (owed + 1) ∧
        s.step b.toNat = .ok ⟨s.position + 1, s.chars, some (begin b (owed + 1))⟩ := by
  rw [State.step, pending]
  cases following b.toNat with
  | none => exact Or.inl ⟨rfl, _, rfl⟩
  | some owed =>
      cases owed with
      | zero => exact Or.inr (Or.inl ⟨rfl, rfl⟩)
      | succ owed => exact Or.inr (Or.inr ⟨owed, rfl, rfl⟩)

variable {s : State} {octets : List UInt8} {cs : List Char}

/-- Between characters, one more octet leads from what may come after a state to what
may come after the next one. -/
theorem State.language_cons_of_none (pending : s.pending = none) :
    s.Language (b :: octets) cs ↔
      ∃ after, s.step b.toNat = .ok after ∧ after.Language octets cs := by
  simp only [State.Language, pending]
  rw [cons_eq_flatMap_iff]
  obtain ⟨starts, defect, failed⟩ | ⟨starts, stepped⟩ | ⟨owed, starts, stepped⟩ :=
    State.step_between (b := b) pending
  · constructor
    · rintro ⟨tail, n, more, rfl, spells, rfl⟩
      cases spells with
      | alone single => cases starts.symm.trans single
      | several several => cases starts.symm.trans several
    · rintro ⟨after, succeeded, -⟩
      cases failed.symm.trans succeeded
  · constructor
    · rintro ⟨tail, n, more, rfl, spells, rfl⟩
      cases spells with
      | alone => exact ⟨_, stepped, more, rfl, by simp⟩
      | several several => cases starts.symm.trans several
    · rintro ⟨after, succeeded, language⟩
      cases stepped.symm.trans succeeded
      obtain ⟨more, rfl, rfl⟩ := language
      exact ⟨[], b.toNat, more, rfl, .alone starts, by simp⟩
  · constructor
    · rintro ⟨tail, n, more, rfl, spells, rfl⟩
      cases spells with
      | alone single => cases starts.symm.trans single
      | several several ends =>
          cases starts.symm.trans several
          exact ⟨_, stepped, tail, n, more, rfl, ends, rfl⟩
    · rintro ⟨after, succeeded, language⟩
      cases stepped.symm.trans succeeded
      obtain ⟨tail, n, more, rfl, ends, rfl⟩ := language
      exact ⟨tail, n, more, rfl, .several starts ends, rfl⟩

/-- The same in a sequence that has begun. -/
theorem State.language_cons_of_some (pending : s.pending = some p) :
    s.Language (b :: octets) cs ↔
      ∃ after, s.step b.toNat = .ok after ∧ after.Language octets cs := by
  simp only [State.Language, pending]
  constructor
  · rintro ⟨tail, n, more, split, ends, rfl⟩
    cases ends with
    | last owed allowed number =>
        obtain ⟨rfl, rfl⟩ := List.cons.inj split
        refine ⟨_, State.step_of_allows pending allowed number, ?_⟩
        rw [if_pos owed]
        exact ⟨more, rfl, by simp⟩
    | more owed allowed number ends =>
        obtain ⟨rfl, rfl⟩ := List.cons.inj split
        refine ⟨_, State.step_of_allows pending allowed number, ?_⟩
        rw [if_neg owed]
        exact ⟨_, n, more, rfl, ends, rfl⟩
  · rintro ⟨after, succeeded, language⟩
    by_cases allowed : p.Allows b
    · obtain ⟨m, number⟩ := exists_further allowed.continues p.sofar
      have stepped := State.step_of_allows pending allowed number
      cases stepped.symm.trans succeeded
      by_cases owed : p.owed = 1
      · rw [if_pos owed] at language
        obtain ⟨more, rfl, rfl⟩ := language
        exact ⟨[b], m, more, rfl, .last owed allowed number, by simp⟩
      · rw [if_neg owed] at language
        obtain ⟨tail, n, more, rfl, ends, rfl⟩ := language
        exact ⟨b :: tail, n, more, rfl, .more owed allowed number ends, rfl⟩
    · obtain ⟨defect, failed⟩ := State.step_of_not_allows pending allowed
      cases failed.symm.trans succeeded

theorem State.language_cons :
    s.Language (b :: octets) cs ↔
      ∃ after, s.step b.toNat = .ok after ∧ after.Language octets cs := by
  cases pending : s.pending with
  | none => exact State.language_cons_of_none pending
  | some p => exact State.language_cons_of_some pending

/-- At the end of the octets there are the characters read, unless a sequence is owed
more. -/
theorem State.language_nil :
    s.Language [] cs ↔ s.finish = .ok cs := by
  rw [State.finish]
  cases pending : s.pending with
  | none =>
      simp only [State.Language, pending]
      constructor
      · rintro ⟨more, split, rfl⟩
        cases more with
        | nil => simp
        | cons c more =>
            obtain ⟨_, _, ranges⟩ := exists_ranges c
            rw [List.flatMap_cons, ranges.encoded] at split
            contradiction
      · intro finished
        cases finished
        exact ⟨[], rfl, by simp⟩
  | some p =>
      simp only [State.Language, pending]
      constructor
      · rintro ⟨tail, n, more, split, ends, rfl⟩
        cases ends <;> contradiction
      · intro finished
        contradiction

/-- Octets are decoded into the characters that they are the encoding of. -/
theorem decode_eq_ok_iff :
    decode octets = .ok cs ↔ octets = cs.flatMap String.utf8EncodeChar := by
  have runs : ∀ (octets : List UInt8) (s : State),
      (octets.foldlM (fun s b => s.step b.toNat) s >>= State.finish) = .ok cs ↔
        s.Language octets cs := by
    intro octets
    induction octets with
    | nil =>
        intro s
        exact State.language_nil.symm
    | cons b octets ih =>
        intro s
        rw [State.language_cons, List.foldlM_cons, bind_assoc, Outcome.bind_eq_ok_iff]
        simp only [ih]
  have start := runs octets {}
  rw [decode, start, State.Language]
  simp

end Clausal.Text.Utf8
