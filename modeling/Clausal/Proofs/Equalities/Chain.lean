import Clausal.Proofs.Equalities.Forest
import Clausal.Proofs.Writing

/-!
# Chains of any map

A map that is given entry by entry need not be a forest.  The chain of a literal
may then grow in magnitude, and it may come back to a literal that it has passed,
be that the first one or not.  Of all chains one of two things is true: they end
at a literal without an entry, or they repeat a literal.  Resolution finds out
which, after no more entries than the map has, and the two exclude each other.
That a literal is repeated is reported with that literal, unless it is too long to
be written.
-/

namespace Clausal.Equalities

variable {m : Equalities} {start lit target : Int} {n : Nat}

/-- The literal that a chain has reached after some entries, `none` if it has
ended before. -/
def chain (m : Equalities) (start : Int) : Nat → Option Int
  | 0 => some start
  | n + 1 => (m.chain start n).bind m.find?

/-- After some entries a chain is at a literal without an entry. -/
def EndsAfter (m : Equalities) (start : Int) (n : Nat) (last : Int) : Prop :=
  m.chain start n = some last ∧ m.find? last = none

/-- The literals that a chain passes before it has taken some entries are
different from each other. -/
def DistinctBelow (m : Equalities) (start : Int) (n : Nat) : Prop :=
  ∀ ⦃i j⦄, i < j → j < n → m.chain start i ≠ m.chain start j

/-- After some entries a chain is at a literal that it has passed before, and
this has not happened earlier. -/
structure ReturnsAfter (m : Equalities) (start : Int) (n : Nat) (repeated : Int) : Prop where
  reached : m.chain start n = some repeated
  passed : ∃ i < n, m.chain start i = some repeated
  distinct : m.DistinctBelow start n

/-! ## Chains that end and chains that come back -/

theorem chain_succ (m : Equalities) (start : Int) (n : Nat) :
    m.chain start (n + 1) = (m.chain start n).bind m.find? :=
  rfl

/-- A chain goes on from the literal that it has reached. -/
theorem chain_add (m : Equalities) (start : Int) (i n : Nat) :
    m.chain start (i + n) = (m.chain start i).bind fun lit => m.chain lit n := by
  induction n with
  | zero => simp [chain]
  | succ n ih =>
      rw [← Nat.add_assoc, chain_succ, ih, Option.bind_assoc]
      rfl

/-- There is nothing behind the end of a chain. -/
theorem EndsAfter.chain_eq_none (ends : m.EndsAfter start n lit) {k : Nat} (beyond : n < k) :
    m.chain start k = none := by
  rcases Nat.exists_eq_add_of_lt beyond with ⟨d, rfl⟩
  rw [Nat.add_assoc, Nat.add_comm d, chain_add, ends.1]
  change m.chain lit (1 + d) = none
  rw [chain_add, chain_succ, chain]
  simp [ends.2]

/-- A chain has one end. -/
theorem EndsAfter.eq (ends : m.EndsAfter start n lit) {k : Nat}
    (otherEnd : m.EndsAfter start k target) : lit = target := by
  rcases Nat.lt_trichotomy n k with before | rfl | behind
  · have nothing := ends.chain_eq_none before
    rw [otherEnd.1] at nothing
    contradiction
  · exact Option.some.inj (ends.1.symm.trans otherEnd.1)
  · have nothing := otherEnd.chain_eq_none behind
    rw [ends.1] at nothing
    contradiction

/-- A chain first comes back at one place. -/
theorem ReturnsAfter.eq (returns : m.ReturnsAfter start n lit) {k : Nat}
    (otherReturn : m.ReturnsAfter start k target) : lit = target := by
  rcases Nat.lt_trichotomy n k with before | rfl | behind
  · rcases returns.passed with ⟨i, earlier, passed⟩
    exact absurd (passed.trans returns.reached.symm) (otherReturn.distinct earlier before)
  · exact Option.some.inj (returns.reached.symm.trans otherReturn.reached)
  · rcases otherReturn.passed with ⟨i, earlier, passed⟩
    exact absurd (passed.trans otherReturn.reached.symm) (returns.distinct earlier behind)

/-- A literal that its own chain comes back to is met again and again. -/
theorem chain_mul_eq_some {period : Nat} (back : m.chain lit period = some lit) (k : Nat) :
    m.chain lit (k * period) = some lit := by
  induction k with
  | zero => simp [chain]
  | succ k ih =>
      rw [Nat.succ_mul, chain_add, ih]
      exact back

/-- A chain that comes back has no end. -/
theorem ReturnsAfter.not_endsAfter (returns : m.ReturnsAfter start n lit) (k : Nat)
    (last : Int) : ¬ m.EndsAfter start k last := by
  intro ends
  rcases returns.passed with ⟨i, earlier, passed⟩
  rcases Nat.exists_eq_add_of_lt earlier with ⟨d, rfl⟩
  have back : m.chain lit (d + 1) = some lit := by
    have again := returns.reached
    rw [Nat.add_assoc, chain_add, passed] at again
    exact again
  -- far enough round the loop the chain is past its end
  have far : k < i + (k + 1) * (d + 1) := by
    calc
      k < (k + 1) * 1 := by simp
      _ ≤ (k + 1) * (d + 1) := Nat.mul_le_mul_left _ (Nat.le_add_left 1 d)
      _ ≤ i + (k + 1) * (d + 1) := Nat.le_add_left _ i
  have there : m.chain start (i + (k + 1) * (d + 1)) = some lit := by
    rw [chain_add, passed]
    exact chain_mul_eq_some back (k + 1)
  rw [ends.chain_eq_none far] at there
  contradiction

/-! ## What following a chain keeps -/

/-- Where resolution is on its way along a chain: the visited literals are those
that it has passed, each once, and the entries of the others are still to come. -/
structure Underway (m : Equalities) (start : Int) (visited : List Int) (n : Nat) (lit : Int) :
    Prop where
  reached : m.chain start n = some lit
  mem_visited_iff : ∀ v, v ∈ visited ↔ ∃ i < n, m.chain start i = some v
  distinct : m.DistinctBelow start n
  counted : n + m.unvisited visited ≤ m.size

namespace Underway

variable {visited : List Int}

theorem atStart (m : Equalities) (start : Int) : m.Underway start [] 0 start where
  reached := rfl
  mem_visited_iff := by simp
  distinct := by
    intro i j _ below
    exact absurd below (Nat.not_lt_zero j)
  counted := by
    rw [Nat.zero_add]
    exact List.length_filter_le _ _

theorem within (underway : m.Underway start visited n lit) : n ≤ m.size :=
  Nat.le_trans (Nat.le_add_right n _) underway.counted

/-- One entry on, the literal that it leads from has been visited. -/
theorem step (underway : m.Underway start visited n lit) (fresh : lit ∉ visited)
    (found : m.find? lit = some target) :
    m.Underway start (lit :: visited) (n + 1) target where
  reached := by
    rw [chain_succ, underway.reached]
    exact found
  mem_visited_iff := by
    intro v
    rw [List.mem_cons, underway.mem_visited_iff]
    constructor
    · rintro (rfl | ⟨i, below, passed⟩)
      · exact ⟨n, Nat.lt_succ_self n, underway.reached⟩
      · exact ⟨i, Nat.lt_succ_of_lt below, passed⟩
    · rintro ⟨i, below, passed⟩
      rcases Nat.lt_succ_iff_lt_or_eq.mp below with earlier | rfl
      · exact Or.inr ⟨i, earlier, passed⟩
      · exact Or.inl (Option.some.inj (passed.symm.trans underway.reached))
  distinct := by
    intro i j before below
    rcases Nat.lt_succ_iff_lt_or_eq.mp below with earlier | rfl
    · exact underway.distinct before earlier
    · intro same
      apply fresh
      rw [underway.mem_visited_iff]
      exact ⟨i, before, same.trans underway.reached⟩
  counted := by
    have fewer := unvisited_cons_lt fresh found
    have counted := underway.counted
    omega

/-- From any place on a chain resolution gets to its end or to the literal that
it first comes back to. -/
theorem follow_cases (underway : m.Underway start visited n lit) :
    ∃ k ≤ m.size, ∃ reached,
      m.EndsAfter start k reached ∧ m.follow start visited lit = .ok reached ∨
        m.ReturnsAfter start k reached ∧
          m.follow start visited lit = .error (Error.equalityLoop start reached).raised := by
  induction hleft : m.unvisited visited using Nat.strongRecOn generalizing visited n lit with
  | ind left ih =>
      by_cases seen : lit ∈ visited
      · refine ⟨n, underway.within, lit, Or.inr ⟨⟨underway.reached, ?_, underway.distinct⟩, ?_⟩⟩
        · exact (underway.mem_visited_iff lit).mp seen
        · rw [follow, if_pos seen]
      · cases found : m.find? lit with
        | none =>
            exact ⟨n, underway.within, lit,
              Or.inl ⟨⟨underway.reached, found⟩, follow_of_find?_none seen found⟩⟩
        | some target =>
            have fewer := unvisited_cons_lt seen found
            rw [hleft] at fewer
            rw [follow_of_find?_some seen found]
            exact ih _ fewer (underway.step seen found) rfl

end Underway

/-! ## Resolution -/

/-- Resolution gives the literal at which a chain ends or reports the one that it
first comes back to, and has followed no more entries than there are. -/
theorem resolve_cases (m : Equalities) (nonzero : lit ≠ 0) :
    ∃ n ≤ m.size, ∃ reached,
      m.EndsAfter lit n reached ∧ m.resolve lit = .ok reached ∨
        m.ReturnsAfter lit n reached ∧
          m.resolve lit = .error (Error.equalityLoop lit reached).raised := by
  rw [resolve_of_ne_zero nonzero]
  exact (Underway.atStart m lit).follow_cases

theorem raised_equalityLoop_eq_iff {repeated : Int} {e : Error} :
    e = (Error.equalityLoop start repeated).raised ↔
      e = .equalityLoop start repeated ∧ Decimal.Legible start ∧ Decimal.Legible repeated ∨
        e = .numberTooLong ∧ ¬ (Decimal.Legible start ∧ Decimal.Legible repeated) := by
  have members : (∀ z ∈ (Error.equalityLoop start repeated).integers, Decimal.Legible z) ↔
      Decimal.Legible start ∧ Decimal.Legible repeated := by
    rw [Error.integers, List.forall_mem_cons, List.forall_mem_singleton]
  rw [eq_comm, Error.raised_eq_iff, members]

/-- Whatever the entries are, resolution of a literal gives the literal of its
chain that has no entry, if there is one.  Otherwise it fails and names the first
literal of the chain that repeats an earlier one, where both literals can be
written; where one of them is too long, it fails for that.  One of the two ends is
reached after no more entries than the map has. -/
theorem resolve_chain_spec (m : Equalities) (nonzero : lit ≠ 0) :
    (∀ last, m.resolve lit = .ok last ↔ ∃ n, m.EndsAfter lit n last) ∧
      (∀ e, m.resolve lit = .error e ↔ (∀ n last, ¬ m.EndsAfter lit n last) ∧
        ∃ n repeated, m.ReturnsAfter lit n repeated ∧
          (e = .equalityLoop lit repeated ∧ Decimal.Legible lit ∧ Decimal.Legible repeated ∨
            e = .numberTooLong ∧ ¬ (Decimal.Legible lit ∧ Decimal.Legible repeated))) ∧
      ∃ n ≤ m.size, ∃ reached,
        m.EndsAfter lit n reached ∨ m.ReturnsAfter lit n reached := by
  rcases m.resolve_cases nonzero with ⟨n, within, reached, ⟨ends, given⟩ | ⟨returns, refused⟩⟩
  · refine ⟨?ended, ?reported, n, within, reached, Or.inl ends⟩
    case ended =>
      intro last
      rw [given, Except.ok.injEq]
      constructor
      · rintro rfl
        exact ⟨n, ends⟩
      · rintro ⟨k, otherEnd⟩
        exact ends.eq otherEnd
    case reported =>
      intro e
      rw [given]
      constructor
      · intro impossible
        contradiction
      · rintro ⟨endless, -⟩
        exact absurd ends (endless n reached)
  · refine ⟨?ended, ?reported, n, within, reached, Or.inr returns⟩
    case ended =>
      intro last
      rw [refused]
      constructor
      · intro impossible
        contradiction
      · rintro ⟨k, ends⟩
        exact absurd ends (returns.not_endsAfter k last)
    case reported =>
      intro e
      rw [refused, Except.error.injEq, eq_comm]
      constructor
      · intro told
        exact ⟨returns.not_endsAfter, n, reached, returns, raised_equalityLoop_eq_iff.mp told⟩
      · rintro ⟨-, k, repeated, otherReturn, told⟩
        rw [returns.eq otherReturn]
        exact raised_equalityLoop_eq_iff.mpr told

/-- A chain that grows, comes back to its second literal and never to its first
one, and a chain of the same map that leads out of it. -/
theorem resolve_chain_spec_second :
    let m := ofList [(4, -7), (-7, 9), (9, -7), (5, 12)]
    m.resolve 4 = .error (.equalityLoop 4 (-7)) ∧ m.resolve 5 = .ok 12 := by
  intro m
  have returns : m.ReturnsAfter 4 3 (-7) := by
    have apart : ∀ j < 3, ∀ i < j, m.chain 4 i ≠ m.chain 4 j := by decide
    refine ⟨by decide, ⟨1, by decide, by decide⟩, ?_⟩
    intro i j before below
    exact apart j below i before
  have legible : Decimal.Legible 4 ∧ Decimal.Legible (-7) :=
    ⟨Decimal.legible_of_natAbs_lt (by decide), Decimal.legible_of_natAbs_lt (by decide)⟩
  constructor
  · exact ((m.resolve_chain_spec (by decide)).2.1 _).mpr
      ⟨returns.not_endsAfter, 3, -7, returns, Or.inl ⟨rfl, legible⟩⟩
  · exact ((m.resolve_chain_spec (by decide)).1 12).mpr ⟨1, by decide, by decide⟩

/-- A loop whose literal is too long to be named. -/
theorem not_resolve_names_repeated :
    ¬ ∀ (m : Equalities) (lit : Int), lit ≠ 0 → (∃ last, m.resolve lit = .ok last) ∨
      ∃ n repeated, m.ReturnsAfter lit n repeated ∧
        m.resolve lit = .error (.equalityLoop lit repeated) := by
  intro named
  have tooLong : (ofList [(Decimal.overlong, Decimal.overlong)]).resolve Decimal.overlong =
      .error .numberTooLong := by decide +kernel
  obtain ⟨last, ended⟩ | ⟨n, repeated, -, told⟩ :=
    named (ofList [(Decimal.overlong, Decimal.overlong)]) Decimal.overlong (by decide +kernel)
  · rw [tooLong] at ended
    cases ended
  · rw [tooLong] at told
    cases told

end Clausal.Equalities
