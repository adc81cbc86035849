import Clausal.Proofs.Decimal
import Clausal.Proofs.Outcome

/-!
# The numerals that are read

A numeral is a sign, which may be left out, and digits, the most significant one
first.  In the script that is read these are digits of any set, and an underscore
may stand between two of them.  The script of ASCII has ten digits and nothing to
put between them, and what is written in it is read as the same number.
-/

namespace Clausal.Decimal

/-! ## Scripts -/

/-- A way of writing numbers: the value of each digit, and whether an underscore
may stand between two digits. -/
structure Script where
  value? : Nat → Option Nat
  grouped : Bool

namespace Script

/-- The ten digits of ASCII one after the other. -/
def ascii : Script where
  value? := fun n => if isDigit n then some (n - digit 0) else none
  grouped := false

/-- Digits of all sets, also with underscores. -/
def unicode : Script where
  value? := Decimal.value?
  grouped := true

/-- A text spells a number in a script: each further digit multiplies the number
by ten and adds its own value. -/
inductive Spells (script : Script) : Text → Nat → Prop
  | single {d k : Nat} (value : script.value? d = some k) : script.Spells [d] k
  | next {t : Text} {n d k : Nat} (before : script.Spells t n)
      (value : script.value? d = some k) : script.Spells (t ++ [d]) (10 * n + k)
  | group {t : Text} {n d k : Nat} (grouped : script.grouped = true)
      (before : script.Spells t n) (value : script.value? d = some k) :
      script.Spells (t ++ [Text.underscore, d]) (10 * n + k)

/-- A text denotes an integer in a script: it is a numeral of at most `digitLimit`
digits, with at most one sign in front. -/
inductive Denotes (script : Script) : Text → Int → Prop
  | unsigned {t : Text} {n : Nat} (spells : script.Spells t n)
      (fits : (withoutUnderscores t).length ≤ digitLimit) : script.Denotes t n
  | plus {t : Text} {n : Nat} (spells : script.Spells t n)
      (fits : (withoutUnderscores t).length ≤ digitLimit) : script.Denotes (Text.plus :: t) n
  | minus {t : Text} {n : Nat} (spells : script.Spells t n)
      (fits : (withoutUnderscores t).length ≤ digitLimit) : script.Denotes (Text.minus :: t) (-n)

end Script

/-! ## What is read -/

variable {t : Text} {n d k : Nat}

/-- An underscore is not a digit. -/
theorem ne_underscore_of_value?_eq_some (value : value? d = some k) : d ≠ Text.underscore := by
  rintro rfl
  have noValue : value? Text.underscore = none := by decide
  rw [noValue] at value
  contradiction

theorem isNumeral_of_value?_eq_some (value : value? d = some k) : isNumeral d = true := by
  simp [isNumeral, value]

/-- What may stand inside a numeral may be added at its end. -/
theorem isGrouped_append {inside : Bool} {u : Text} (before : isGrouped inside t = true)
    (after : isGrouped true u = true) : isGrouped inside (t ++ u) = true := by
  induction t generalizing inside with
  | nil =>
      obtain rfl : inside = true := before
      exact after
  | cons d t ih =>
      rw [List.cons_append, isGrouped]
      rw [isGrouped] at before
      by_cases separates : d = Text.underscore
      · rw [if_pos separates, Bool.and_eq_true] at before ⊢
        exact ⟨before.1, ih before.2⟩
      · rw [if_neg separates] at before ⊢
        exact ih before

@[simp]
theorem withoutUnderscores_append (t u : Text) :
    withoutUnderscores (t ++ u) = withoutUnderscores t ++ withoutUnderscores u :=
  List.filter_append t u

theorem withoutUnderscores_singleton (value : value? d = some k) :
    withoutUnderscores [d] = [d] := by
  simp [withoutUnderscores, ne_underscore_of_value?_eq_some value]

theorem withoutUnderscores_underscore (t : Text) :
    withoutUnderscores (Text.underscore :: t) = withoutUnderscores t := by
  simp [withoutUnderscores]

/-- A numeral has nothing but digits and underscores, these stand singly between
digits, and without them its digits make the number. -/
theorem Script.Spells.readable (spells : Script.unicode.Spells t n) :
    (∀ d ∈ t, isNumeral d = true) ∧ isGrouped false t = true ∧
      numberOf (withoutUnderscores t) = n := by
  induction spells with
  | @single d k value =>
      have apart := ne_underscore_of_value?_eq_some value
      refine ⟨by simpa using isNumeral_of_value?_eq_some value, by simp [isGrouped, apart], ?_⟩
      rw [withoutUnderscores_singleton value]
      exact (numberOf_append [] value).trans (by simp [numberOf])
  | @next t n d k before value ih =>
      obtain ⟨numeral, grouped, number⟩ := ih
      have apart := ne_underscore_of_value?_eq_some value
      refine ⟨?_, isGrouped_append grouped (by simp [isGrouped, apart]), ?_⟩
      · simpa [or_imp, forall_and] using ⟨numeral, isNumeral_of_value?_eq_some value⟩
      · rw [withoutUnderscores_append, withoutUnderscores_singleton value,
          numberOf_append _ value, number]
  | @group t n d k _ before value ih =>
      obtain ⟨numeral, grouped, number⟩ := ih
      have apart := ne_underscore_of_value?_eq_some value
      have separator : isNumeral Text.underscore = true := by decide
      refine ⟨?_, isGrouped_append grouped (by simp [isGrouped, apart]), ?_⟩
      · simpa [or_imp, forall_and] using
          ⟨numeral, separator, isNumeral_of_value?_eq_some value⟩
      · rw [withoutUnderscores_append, withoutUnderscores_underscore,
          withoutUnderscores_singleton value, numberOf_append _ value, number]

/-- What has been read of a numeral: a number, after which a digit or an underscore
may come, or nothing or an underscore, after which a digit must come. -/
def Begun : Bool → Text → Nat → Prop
  | true, t, n => Script.unicode.Spells t n
  | false, t, n => (t = [] ∧ n = 0) ∨ ∃ u, t = u ++ [Text.underscore] ∧ Script.unicode.Spells u n

/-- One more digit. -/
theorem Begun.digit {inside : Bool} (begun : Begun inside t n) (value : value? d = some k) :
    Script.unicode.Spells (t ++ [d]) (10 * n + k) := by
  cases inside with
  | true => exact .next begun value
  | false =>
      obtain ⟨rfl, rfl⟩ | ⟨u, rfl, spells⟩ := begun
      · have alone : Script.unicode.Spells [d] k := .single value
        simpa using alone
      · simpa using Script.Spells.group rfl spells value

/-- Reading on to the end of a numeral.  The induction is on what is left, and what
has been read is kept with its number. -/
theorem Begun.spells {inside : Bool} {rest : Text} (begun : Begun inside t n)
    (numeral : ∀ d ∈ rest, isNumeral d = true) (grouped : isGrouped inside rest = true) :
    Script.unicode.Spells (t ++ rest)
      ((withoutUnderscores rest).foldl (fun sofar d => 10 * sofar + (value? d).getD 0) n) := by
  induction rest generalizing inside t n with
  | nil =>
      obtain rfl : inside = true := grouped
      rw [List.append_nil]
      exact begun
  | cons d rest ih =>
      obtain ⟨first, others⟩ := List.forall_mem_cons.mp numeral
      rw [isGrouped] at grouped
      by_cases separates : d = Text.underscore
      · subst separates
        rw [if_pos rfl, Bool.and_eq_true] at grouped
        obtain ⟨rfl, grouped⟩ := grouped
        have waiting : Begun false (t ++ [Text.underscore]) n := Or.inr ⟨t, rfl, begun⟩
        simpa [withoutUnderscores_underscore] using ih waiting others grouped
      · rw [if_neg separates] at grouped
        obtain ⟨k, value⟩ : ∃ k, value? d = some k := by
          simpa [isNumeral, separates, Option.isSome_iff_exists] using first
        have further : Begun true (t ++ [d]) (10 * n + k) := begun.digit value
        simpa [withoutUnderscores, separates, value] using ih further others grouped

/-- An unsigned numeral is read as the number that it spells. -/
theorem readNat_eq_ok_iff :
    readNat t = .ok n ↔
      Script.unicode.Spells t n ∧ (withoutUnderscores t).length ≤ digitLimit := by
  constructor
  · intro read
    rw [readNat] at read
    split_ifs at read with ungrouped tooLong followed
    have run : t.takeWhile isNumeral = t :=
      (List.takeWhile_prefix isNumeral).eq_of_length_le (Nat.not_lt.mp followed)
    rw [run] at ungrouped tooLong read
    have numeral := List.takeWhile_eq_self_iff.mp run
    have nothing : Begun false [] 0 := Or.inl ⟨rfl, rfl⟩
    have spells := nothing.spells numeral (by simpa using ungrouped)
    obtain rfl := Except.ok.inj read
    exact ⟨spells, Nat.not_lt.mp tooLong⟩
  · rintro ⟨spells, fits⟩
    obtain ⟨numeral, grouped, number⟩ := spells.readable
    have run : t.takeWhile isNumeral = t := List.takeWhile_eq_self_iff.mpr numeral
    rw [readNat, run, grouped, number]
    simp [Nat.not_lt.mpr fits]

/-- The sign of a text comes off it, if there is one. -/
theorem splitSign_cases (t : Text) :
    (∃ u, t = Text.minus :: u ∧ splitSign t = (true, u)) ∨
      (∃ u, t = Text.plus :: u ∧ splitSign t = (false, u)) ∨ splitSign t = (false, t) := by
  cases t with
  | nil => exact Or.inr (Or.inr rfl)
  | cons d u =>
      rw [splitSign]
      split_ifs with isMinus isPlus
      · exact Or.inl ⟨u, by rw [isMinus], rfl⟩
      · exact Or.inr (Or.inl ⟨u, by rw [isPlus], rfl⟩)
      · exact Or.inr (Or.inr rfl)

/-- Neither sign belongs to an unsigned numeral. -/
theorem Script.Spells.splitSign_eq (spells : Script.unicode.Spells t n) :
    splitSign t = (false, t) := by
  have numeral := spells.readable.1
  obtain ⟨u, rfl, -⟩ | ⟨u, rfl, -⟩ | unsigned := splitSign_cases t
  · have sign := numeral Text.minus List.mem_cons_self
    contradiction
  · have sign := numeral Text.plus List.mem_cons_self
    contradiction
  · exact unsigned

/-- An integer is read where what comes after its sign spells a number. -/
theorem readInt_eq_ok_iff_spells {u : Text} {negative : Bool}
    (signed : splitSign (Text.trimBy Text.isWhiteSpace t) = (negative, u)) {z : Int} :
    readInt t = .ok z ↔ ∃ n : Nat, Script.unicode.Spells u n ∧
      (withoutUnderscores u).length ≤ digitLimit ∧ (if negative then -(n : Int) else n) = z := by
  rw [readInt, signed]
  dsimp only
  constructor
  · intro read
    cases unsigned : readNat u with
    | error e =>
        rw [unsigned] at read
        contradiction
    | ok n =>
        obtain ⟨spells, fits⟩ := readNat_eq_ok_iff.mp unsigned
        rw [unsigned] at read
        exact ⟨n, spells, fits, Except.ok.inj read⟩
  · rintro ⟨n, spells, fits, rfl⟩
    rw [readNat_eq_ok_iff.mpr ⟨spells, fits⟩]
    rfl

/-- An integer is read from exactly the texts that denote it, white space around
them apart. -/
theorem readInt_eq_ok_iff {z : Int} :
    readInt t = .ok z ↔ Script.unicode.Denotes (Text.trimBy Text.isWhiteSpace t) z := by
  constructor
  · intro read
    obtain ⟨u, text, signed⟩ | ⟨u, text, signed⟩ | signed :=
      splitSign_cases (Text.trimBy Text.isWhiteSpace t)
    · obtain ⟨n, spells, fits, rfl⟩ := (readInt_eq_ok_iff_spells signed).mp read
      rw [text]
      exact .minus spells fits
    · obtain ⟨n, spells, fits, rfl⟩ := (readInt_eq_ok_iff_spells signed).mp read
      rw [text]
      exact .plus spells fits
    · obtain ⟨n, spells, fits, rfl⟩ := (readInt_eq_ok_iff_spells signed).mp read
      exact .unsigned spells fits
  · intro denotes
    generalize text : Text.trimBy Text.isWhiteSpace t = u at denotes
    cases denotes with
    | unsigned spells fits =>
        have signed := spells.splitSign_eq
        rw [← text] at signed
        exact (readInt_eq_ok_iff_spells signed).mpr ⟨_, text ▸ spells, text ▸ fits, rfl⟩
    | @plus u _ spells fits =>
        have signed : splitSign (Text.plus :: u) = (false, u) := rfl
        rw [← text] at signed
        exact (readInt_eq_ok_iff_spells signed).mpr ⟨_, spells, fits, rfl⟩
    | @minus u _ spells fits =>
        have signed : splitSign (Text.minus :: u) = (true, u) := rfl
        rw [← text] at signed
        exact (readInt_eq_ok_iff_spells signed).mpr ⟨_, spells, fits, rfl⟩

/-! ## What is read in ASCII -/

/-- A sign or an ASCII digit: what is needed to write any integer. -/
def IsPlain (n : Nat) : Prop :=
  n = Text.plus ∨ n = Text.minus ∨ isDigit n = true

instance : DecidablePred IsPlain :=
  fun _ => inferInstanceAs (Decidable (_ ∨ _ ∨ _))

theorem Script.ascii_value?_eq_some_iff :
    Script.ascii.value? d = some k ↔ isDigit d = true ∧ Decimal.value? d = some k := by
  by_cases plain : isDigit d = true
  · have range : 0x30 ≤ d ∧ d ≤ 0x39 := by simpa [isDigit] using plain
    have same : d = digit (d - digit 0) := by
      simp only [Decimal.digit]
      omega
    have value : Decimal.value? d = some (d - digit 0) := by
      have own := value?_digit (n := d - digit 0) (by simp only [Decimal.digit]; omega)
      rwa [← same] at own
    simp [Script.ascii, plain, value]
  · simp [Script.ascii, plain]

/-- What is spelled in ASCII is what is spelled with ASCII digits alone. -/
theorem Script.spells_ascii_iff :
    Script.ascii.Spells t n ↔ Script.unicode.Spells t n ∧ ∀ d ∈ t, isDigit d = true := by
  constructor
  · intro spells
    induction spells with
    | single value =>
        obtain ⟨plain, value⟩ := ascii_value?_eq_some_iff.mp value
        exact ⟨.single value, by simpa using plain⟩
    | next _ value ih =>
        obtain ⟨plain, value⟩ := ascii_value?_eq_some_iff.mp value
        exact ⟨.next ih.1 value, by simpa [or_imp, forall_and] using ⟨ih.2, plain⟩⟩
    | group grouped => contradiction
  · rintro ⟨spells, plain⟩
    induction spells with
    | single value =>
        exact .single (ascii_value?_eq_some_iff.mpr ⟨plain _ List.mem_cons_self, value⟩)
    | next _ value ih =>
        have both := List.forall_mem_append.mp plain
        exact .next (ih both.1)
          (ascii_value?_eq_some_iff.mpr ⟨both.2 _ List.mem_cons_self, value⟩)
    | group _ _ _ _ =>
        have underscore := plain Text.underscore (by simp)
        contradiction

/-- What is denoted in ASCII is what is denoted with signs and ASCII digits
alone. -/
theorem Script.denotes_ascii_iff {z : Int} :
    Script.ascii.Denotes t z ↔ (∀ n ∈ t, IsPlain n) ∧ Script.unicode.Denotes t z := by
  have plain_of_digits : ∀ {u : Text}, (∀ d ∈ u, isDigit d = true) → ∀ n ∈ u, IsPlain n :=
    fun digits n mem => Or.inr (Or.inr (digits n mem))
  have digits_of_plain : ∀ {u : Text} {m : Nat}, Script.unicode.Spells u m →
      (∀ n ∈ u, IsPlain n) → Script.ascii.Spells u m := by
    intro u m spells plain
    refine spells_ascii_iff.mpr ⟨spells, ?_⟩
    intro d mem
    have numeral := spells.readable.1 d mem
    obtain rfl | rfl | digits := plain d mem
    · contradiction
    · contradiction
    · exact digits
  constructor
  · intro denotes
    cases denotes with
    | unsigned spells fits =>
        obtain ⟨spells, digits⟩ := spells_ascii_iff.mp spells
        exact ⟨plain_of_digits digits, .unsigned spells fits⟩
    | plus spells fits =>
        obtain ⟨spells, digits⟩ := spells_ascii_iff.mp spells
        exact ⟨List.forall_mem_cons.mpr ⟨Or.inl rfl, plain_of_digits digits⟩, .plus spells fits⟩
    | minus spells fits =>
        obtain ⟨spells, digits⟩ := spells_ascii_iff.mp spells
        exact ⟨List.forall_mem_cons.mpr ⟨Or.inr (Or.inl rfl), plain_of_digits digits⟩,
          .minus spells fits⟩
  · rintro ⟨plain, denotes⟩
    cases denotes with
    | unsigned spells fits => exact .unsigned (digits_of_plain spells plain) fits
    | plus spells fits =>
        exact .plus (digits_of_plain spells (List.forall_mem_cons.mp plain).2) fits
    | minus spells fits =>
        exact .minus (digits_of_plain spells (List.forall_mem_cons.mp plain).2) fits

end Clausal.Decimal
