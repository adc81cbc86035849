import Clausal.Text.Blank

/-!
# Words written one after the other

A blank separates: the words of two texts with a blank between them are those of
the first and then those of the second.  A text that is not empty and has no
blanks is one word.  It does not matter which blanks there are between two words
and how many.
-/

namespace Clausal.Text

/-! ## Words -/

variable {t : Text}

/-- What comes before the first blank, and the words after it, go on into a
second text only past its blank. -/
theorem headAndWords_append_blank (t : Text) {n : Nat} (blank : isBlank n = true) (rest : Text) :
    headAndWords (t ++ n :: rest) =
      ((headAndWords t).1, (headAndWords t).2 ++ words rest) := by
  induction t with
  | nil => simp [headAndWords, words, blank]
  | cons m t ih =>
      rw [List.cons_append, headAndWords, headAndWords, ih]
      by_cases separates : isBlank m = true
      · by_cases empty : (headAndWords t).1.isEmpty = true
        · simp [separates, empty]
        · simp [separates, empty]
      · simp [separates]

/-- The words of two texts with a blank between them. -/
theorem words_append_blank (t : Text) {n : Nat} (blank : isBlank n = true) (rest : Text) :
    words (t ++ n :: rest) = words t ++ words rest := by
  rw [words, headAndWords_append_blank t blank rest]
  by_cases empty : (headAndWords t).1.isEmpty = true
  · simp [words.eq_1 t, empty]
  · simp [words.eq_1 t, empty]

/-- A text that is one word: it is not empty and has no blanks. -/
structure IsWord (t : Text) : Prop where
  ne_nil : t ≠ []
  not_blank : ∀ n ∈ t, isBlank n = false

/-- A text without blanks comes before the first blank as a whole. -/
theorem headAndWords_of_not_blank (notBlank : ∀ n ∈ t, isBlank n = false) :
    headAndWords t = (t, []) := by
  induction t with
  | nil => rfl
  | cons n t ih =>
      have first := notBlank n List.mem_cons_self
      have others := ih fun m later => notBlank m (List.mem_cons_of_mem n later)
      rw [headAndWords, others, first]
      rfl

theorem IsWord.words_eq (isWord : IsWord t) : words t = [t] := by
  rw [words, headAndWords_of_not_blank isWord.not_blank]
  simp [isWord.ne_nil]

/-- Before the first blank there is no blank, and after it there are words. -/
theorem isWord_of_mem_headAndWords (t : Text) :
    (∀ n ∈ (headAndWords t).1, isBlank n = false) ∧ ∀ w ∈ (headAndWords t).2, IsWord w := by
  induction t with
  | nil => simp [headAndWords]
  | cons n t ih =>
      obtain ⟨head, tail⟩ := ih
      rw [headAndWords]
      by_cases separates : isBlank n = true
      · by_cases empty : (headAndWords t).1.isEmpty = true
        · simpa [separates, empty] using tail
        · have first : IsWord (headAndWords t).1 := ⟨by simpa using empty, head⟩
          simpa [separates, empty] using ⟨first, tail⟩
      · simpa [separates] using ⟨head, tail⟩

/-- The words of a text are words. -/
theorem isWord_of_mem_words {w : Text} (wordMem : w ∈ words t) : IsWord w := by
  obtain ⟨head, tail⟩ := isWord_of_mem_headAndWords t
  rw [words] at wordMem
  by_cases empty : (headAndWords t).1.isEmpty = true
  · exact tail w (by simpa [empty] using wordMem)
  · have found : w = (headAndWords t).1 ∨ w ∈ (headAndWords t).2 := by
      simpa [empty] using wordMem
    obtain rfl | later := found
    · exact ⟨by simpa using empty, head⟩
    · exact tail w later

/-- A word has no blank. -/
theorem IsWord.not_mem (isWord : IsWord t) {n : Nat} (blank : isBlank n = true) : n ∉ t := by
  intro mem
  rw [isWord.not_blank n mem] at blank
  contradiction

/-! ## Other blanks -/

/-- Blanks, at least one of them: what separates two words. -/
structure IsGap (t : Text) : Prop where
  ne_nil : t ≠ []
  blank : ∀ n ∈ t, isBlank n = true

theorem words_blanks_append {blanks : Text} (blank : ∀ n ∈ blanks, isBlank n = true)
    (rest : Text) : words (blanks ++ rest) = words rest := by
  induction blanks with
  | nil => rfl
  | cons n blanks ih =>
      obtain ⟨first, others⟩ := List.forall_mem_cons.mp blank
      rw [List.cons_append, words_cons_blank _ first, ih others]

/-- Nothing comes before a gap at the front of a text. -/
theorem headAndWords_gap_append {gap : Text} (isGap : IsGap gap) (rest : Text) :
    headAndWords (gap ++ rest) = ([], words rest) := by
  obtain ⟨n, blanks, rfl⟩ := List.exists_cons_of_ne_nil isGap.ne_nil
  obtain ⟨first, others⟩ := List.forall_mem_cons.mp isGap.blank
  rw [← words_blanks_append others rest]
  simp [headAndWords, words, first]

/-- The second text is the first one with other gaps: what is not blank is the
same, and where there are blanks there are others, but not none. -/
inductive Respaced : Text → Text → Prop
  | nil : Respaced [] []
  | point {n : Nat} {t u : Text} (notBlank : isBlank n = false) (others : Respaced t u) :
      Respaced (n :: t) (n :: u)
  | gap {g h t u : Text} (isGap : IsGap g) (otherGap : IsGap h) (others : Respaced t u) :
      Respaced (g ++ t) (h ++ u)

namespace Respaced

theorem refl (t : Text) : Respaced t t := by
  induction t with
  | nil => exact .nil
  | cons n t ih =>
      cases blank : isBlank n with
      | false => exact .point blank ih
      | true =>
          have single : IsGap [n] := ⟨List.cons_ne_nil n [], by simpa using blank⟩
          exact .gap single single ih

theorem append {t u : Text} (respaced : Respaced t u) (rest : Text) :
    Respaced (t ++ rest) (u ++ rest) := by
  induction respaced with
  | nil => exact refl rest
  | point notBlank _ ih => exact .point notBlank ih
  | gap isGap otherGap _ ih =>
      rw [List.append_assoc, List.append_assoc]
      exact .gap isGap otherGap ih

/-- With other gaps a text still has the same words. -/
theorem words_eq {t u : Text} (respaced : Respaced t u) : words u = words t := by
  have same : headAndWords u = headAndWords t := by
    induction respaced with
    | nil => rfl
    | point _ _ ih => rw [headAndWords, headAndWords, ih]
    | gap isGap otherGap _ ih =>
        rw [headAndWords_gap_append isGap, headAndWords_gap_append otherGap, words, words, ih]
  rw [words, words, same]

end Respaced

/-! ## Ends -/

/-- Up to the first stop a text is what was written in front of it. -/
theorem takeWhile_append_cons {stop : Nat} (notMem : stop ∉ t) (rest : Text) :
    (t ++ stop :: rest).takeWhile (· ≠ stop) = t := by
  have kept : ∀ n ∈ t, decide (n ≠ stop) = true := fun n mem =>
    decide_eq_true (ne_of_mem_of_not_mem mem notMem)
  rw [List.takeWhile_append_of_pos kept, List.takeWhile_cons_of_neg (by simp), List.append_nil]

/-- From the first stop on a text is what was written from there on. -/
theorem dropWhile_append_cons {stop : Nat} (notMem : stop ∉ t) (rest : Text) :
    (t ++ stop :: rest).dropWhile (· ≠ stop) = stop :: rest := by
  have dropped : ∀ n ∈ t, decide (n ≠ stop) = true := fun n mem =>
    decide_eq_true (ne_of_mem_of_not_mem mem notMem)
  rw [List.dropWhile_append_of_pos dropped, List.dropWhile_cons_of_neg (by simp)]

theorem dropWhile_eq_self {drop : Nat → Bool} (keeps : ∀ n ∈ t, drop n = false) :
    t.dropWhile drop = t := by
  cases t with
  | nil => rfl
  | cons n rest => exact List.dropWhile_cons_of_neg (by simp [keeps n List.mem_cons_self])

/-- A text that has nothing of what is to go keeps its ends. -/
theorem trimBy_eq_self {drop : Nat → Bool} (keeps : ∀ n ∈ t, drop n = false) :
    trimBy drop t = t := by
  have keepsReverse : ∀ n ∈ t.reverse, drop n = false := fun n mem =>
    keeps n (List.mem_reverse.mp mem)
  rw [trimBy, dropWhile_eq_self keeps, dropWhile_eq_self keepsReverse, List.reverse_reverse]

/-- A word has no white space at its ends. -/
theorem IsWord.trimBy_isWhiteSpace (isWord : IsWord t) : trimBy isWhiteSpace t = t := by
  apply trimBy_eq_self
  intro n mem
  have notBlank := isWord.not_blank n mem
  rw [isBlank, Bool.or_eq_false_iff] at notBlank
  exact notBlank.1

end Clausal.Text
