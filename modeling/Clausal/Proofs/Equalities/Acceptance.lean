import Mathlib.Data.Sym.Sym2
import Clausal.Proofs.Equalities.Congruence
import Clausal.Proofs.Equalities.Report

/-!
# Which declarations are accepted

A declaration is refused where it names zero or would make a literal equal to
its opposite.  The second happens only when no valuation meets everything that
has been declared, so several declarations are accepted exactly when their
literals are not zero and some valuation meets them together with the earlier
ones.  Neither this condition nor the roots afterwards depend on the order of
the pairs or of their sides.  Where the literals can be written, the calls that
declare them succeed under the same condition.
-/

namespace Clausal.Equalities

variable {m : Equalities}

namespace Forest

/-- Literals that some respecting valuation makes equal can be declared equal. -/
theorem exists_declare_eq (forest : m.Forest) {x y : Int} (xNe : x ≠ 0) (yNe : y ≠ 0)
    {s : Valuation} (respected : m.RespectedBy s)
    (equal : Literal.holds s x = Literal.holds s y) : ∃ after, m.declare x y = .ok after := by
  have notOpposite : m.root x ≠ -m.root y := by
    intro opposite
    have rootNe : m.root y ≠ 0 := mt forest.root_eq_zero_iff.mp yNe
    have flipped := Literal.holds_neg s rootNe
    rw [← opposite, forest.holds_root respected, forest.holds_root respected, equal] at flipped
    exact Bool.not_ne_self _ flipped.symm
  rw [forest.declare_eq xNe yNe, if_neg notOpposite]
  split
  · exact ⟨_, rfl⟩
  · exact ⟨_, rfl⟩

/-- Pairs that some respecting valuation makes equal can be declared one after
the other. -/
theorem exists_declareAll_eq (forest : m.Forest) {pairs : List (Int × Int)}
    (nonzero : ∀ e ∈ pairs, e.1 ≠ 0 ∧ e.2 ≠ 0) {s : Valuation} (respected : m.RespectedBy s)
    (equal : ∀ e ∈ pairs, Literal.holds s e.1 = Literal.holds s e.2) :
    ∃ after, m.declareAll pairs = .ok after := by
  induction pairs generalizing m with
  | nil => exact ⟨m, rfl⟩
  | cons pair rest ih =>
      obtain ⟨⟨xNe, yNe⟩, restNonzero⟩ := List.forall_mem_cons.mp nonzero
      obtain ⟨pairEqual, restEqual⟩ := List.forall_mem_cons.mp equal
      obtain ⟨middle, declared⟩ := forest.exists_declare_eq xNe yNe respected pairEqual
      have middleRespected := (forest.respectedBy_declare declared).mpr ⟨respected, pairEqual⟩
      rw [declareAll_cons_of_declare declared]
      exact ih (forest.declare declared) restNonzero middleRespected restEqual

end Forest

/-- Some pairs of literals can be met together with the ones that are held, and
one more pair cannot be met together with all of them. -/
structure Conflicts (held front : List (Int × Int)) (x y : Int) : Prop where
  front_ne_zero : ∀ e ∈ front, e.1 ≠ 0 ∧ e.2 ≠ 0
  left_ne_zero : x ≠ 0
  right_ne_zero : y ≠ 0
  met : ∃ s : Valuation, ∀ e ∈ held ++ front, Literal.holds s e.1 = Literal.holds s e.2
  unmet : ¬ ∃ s : Valuation, ∀ e ∈ held ++ front ++ [(x, y)],
    Literal.holds s e.1 = Literal.holds s e.2

/-! ## Order of pairs and sides -/

/-- The same pairs in any order and with either side first. -/
def Rearranges (pairs others : List (Int × Int)) : Prop :=
  (pairs.map fun e => s(e.1, e.2)).Perm (others.map fun e => s(e.1, e.2))

/-- What is symmetric holds of some pairs when it holds of them in another
order. -/
theorem Rearranges.forall_mem_iff {pairs others : List (Int × Int)}
    (rearranges : Rearranges pairs others) {R : Int → Int → Prop} (symmetric : Std.Symm R) :
    (∀ e ∈ pairs, R e.1 e.2) ↔ ∀ e ∈ others, R e.1 e.2 := by
  have unordered : ∀ list : List (Int × Int), (∀ e ∈ list, R e.1 e.2) ↔
      ∀ z ∈ list.map (fun e => s(e.1, e.2)), z ∈ Sym2.fromRel symmetric := by
    intro list
    rw [List.forall_mem_map]
    exact Iff.rfl
  rw [unordered, unordered]
  exact forall_congr' fun z => imp_congr_left rearranges.mem_iff

namespace Represents

variable {pairs more others : List (Int × Int)}

/-- Further declarations are accepted exactly when they do not name zero and
some valuation meets all declarations together. -/
theorem exists_declareAll_eq_iff (represents : m.Represents pairs) :
    (∃ after, m.declareAll more = .ok after) ↔ (∀ e ∈ more, e.1 ≠ 0 ∧ e.2 ≠ 0) ∧
      ∃ s : Valuation, ∀ e ∈ pairs ++ more, Literal.holds s e.1 = Literal.holds s e.2 := by
  constructor
  · rintro ⟨after, declared⟩
    have extended := represents.declareAll declared
    have respected := extended.forest.respectedBy_throughRoots fun _ => false
    exact ⟨(List.forall_mem_append.mp extended.ne_zero).2, _,
      extended.respectedBy_iff.mp respected⟩
  · rintro ⟨nonzero, s, equal⟩
    obtain ⟨earlier, later⟩ := List.forall_mem_append.mp equal
    exact represents.forest.exists_declareAll_eq nonzero
      (represents.respectedBy_iff.mpr earlier) later

/-- One more declaration is refused because of the earlier ones exactly where it
cannot be met together with them. -/
theorem declare_eq_oppositeLiterals_iff (represents : m.Represents pairs) {x y : Int}
    (xNe : x ≠ 0) (yNe : y ≠ 0) :
    m.declare x y = .error (Error.oppositeLiterals x y).raised ↔
      ¬ ∃ s : Valuation, ∀ e ∈ pairs ++ [(x, y)],
        Literal.holds s e.1 = Literal.holds s e.2 := by
  have accepted : (∃ after, m.declareAll [(x, y)] = .ok after) ↔ _ :=
    represents.exists_declareAll_eq_iff
  rw [List.forall_mem_singleton, and_iff_right ⟨xNe, yNe⟩, declareAll_singleton] at accepted
  rw [← accepted, represents.forest.declare_eq xNe yNe]
  split
  · simp
  · split <;> simp

/-- A call that declares further pairs which can be written succeeds exactly when
they do not name zero and some valuation meets all declarations together. -/
theorem snd_enterAll_eq_ok_iff (represents : m.Represents pairs) (legible : LegiblePairs more) :
    (m.enterAll more).2 = .ok () ↔ (∀ e ∈ more, e.1 ≠ 0 ∧ e.2 ≠ 0) ∧
      ∃ s : Valuation, ∀ e ∈ pairs ++ more, Literal.holds s e.1 = Literal.holds s e.2 := by
  rw [← represents.exists_declareAll_eq_iff, represents.forest.snd_enterAll legible,
    Outcome.map_eq_ok_iff]
  simp only [and_true]

/-- Further declarations are refused because two literals are opposites exactly
where these are the first that cannot be met together with all before. -/
theorem declareAll_eq_oppositeLiterals_iff (represents : m.Represents pairs)
    (legible : LegiblePairs more) {x y : Int} :
    m.declareAll more = .error (.oppositeLiterals x y) ↔
      ∃ front back, more = front ++ (x, y) :: back ∧ Conflicts pairs front x y := by
  constructor
  · intro refused
    obtain ⟨front, u, v, back, middle, rfl, accepted, last⟩ := exists_declare_eq_error refused
    obtain ⟨uLegible, vLegible⟩ := legible (u, v) (by simp)
    have extended := represents.declareAll accepted
    have same : x = u ∧ y = v := by
      rcases extended.forest.eq_of_declare_eq_error last with zero | opposite
      · contradiction
      · rw [raised_oppositeLiterals uLegible vLegible, Error.oppositeLiterals.injEq] at opposite
        exact opposite
    obtain ⟨rfl, rfl⟩ := same
    have nonzero : x ≠ 0 ∧ y ≠ 0 := by
      by_contra zero
      rw [extended.forest.declare_of_eq_zero (by omega)] at last
      cases last
    rw [← raised_oppositeLiterals uLegible vLegible] at last
    obtain ⟨frontNe, met⟩ := represents.exists_declareAll_eq_iff.mp ⟨middle, accepted⟩
    exact ⟨front, back, rfl, {
      front_ne_zero := frontNe
      left_ne_zero := nonzero.1
      right_ne_zero := nonzero.2
      met := met
      unmet := (extended.declare_eq_oppositeLiterals_iff nonzero.1 nonzero.2).mp last }⟩
  · rintro ⟨front, back, rfl, conflicts⟩
    obtain ⟨xLegible, yLegible⟩ := legible (x, y) (by simp)
    obtain ⟨middle, accepted⟩ :=
      represents.exists_declareAll_eq_iff.mpr ⟨conflicts.front_ne_zero, conflicts.met⟩
    have last := ((represents.declareAll accepted).declare_eq_oppositeLiterals_iff
      conflicts.left_ne_zero conflicts.right_ne_zero).mpr conflicts.unmet
    rw [raised_oppositeLiterals xLegible yLegible] at last
    exact declareAll_append_of_error accepted last

/-- Further declarations with a zero are refused for it, or because two literals
are opposites. -/
theorem declareAll_of_zero (represents : m.Represents pairs) (legible : LegiblePairs more)
    {e : Int × Int} (pairMem : e ∈ more) (zero : e.1 = 0 ∨ e.2 = 0) :
    m.declareAll more = .error .zeroLiteral ∨
      ∃ x y, m.declareAll more = .error (.oppositeLiterals x y) := by
  cases outcome : m.declareAll more with
  | ok after =>
      have nonzero := (represents.exists_declareAll_eq_iff.mp ⟨after, outcome⟩).1 e pairMem
      omega
  | error failure =>
      rcases represents.forest.eq_of_declareAll_eq_error legible outcome with rfl | ⟨x, y, rfl⟩
      · exact Or.inl rfl
      · exact Or.inr ⟨x, y, rfl⟩

/-- Whether further declarations are accepted does not depend on their order. -/
theorem exists_declareAll_eq_iff_of_rearranges (represents : m.Represents pairs)
    (rearranges : Rearranges more others) :
    (∃ after, m.declareAll more = .ok after) ↔ ∃ after, m.declareAll others = .ok after := by
  have nonzero := rearranges.forall_mem_iff (R := fun x y => x ≠ 0 ∧ y ≠ 0) ⟨fun _ _ => And.symm⟩
  have equal : ∀ s : Valuation, _ := fun s => rearranges.forall_mem_iff
    (R := fun x y => Literal.holds s x = Literal.holds s y) ⟨fun _ _ => Eq.symm⟩
  simp only [represents.exists_declareAll_eq_iff, List.forall_mem_append, nonzero, equal]

/-- The roots after further declarations do not depend on their order either. -/
theorem root_eq_root_of_rearranges (represents : m.Represents pairs)
    (rearranges : Rearranges more others) {after otherAfter : Equalities}
    (declared : m.declareAll more = .ok after)
    (otherDeclared : m.declareAll others = .ok otherAfter) (lit : Int) :
    otherAfter.root lit = after.root lit := by
  have follows : ∀ all : List (Int × Int), _ := fun all =>
    rearranges.forall_mem_iff (R := Follows (pairs ++ all)) ⟨fun _ _ => Follows.symm⟩
  have joined : ∀ given all : List (Int × Int),
      (∀ e ∈ given, Follows (pairs ++ all) e.1 e.2) →
        ∀ e ∈ pairs ++ given, Follows (pairs ++ all) e.1 e.2 := by
    intro given all later
    rw [List.forall_mem_append]
    exact ⟨fun e earlier => .declared (List.mem_append_left all earlier), later⟩
  apply (represents.declareAll declared).root_eq_root_of_forall
    (represents.declareAll otherDeclared)
  · apply joined
    exact (follows more).mp fun e later => .declared (List.mem_append_right pairs later)
  · apply joined
    exact (follows others).mpr fun e later => .declared (List.mem_append_right pairs later)

/-- A call that declares further pairs which can be written succeeds for them in
any order or in none. -/
theorem snd_enterAll_eq_ok_iff_of_rearranges (represents : m.Represents pairs)
    (legible : LegiblePairs more) (rearranges : Rearranges more others) :
    (m.enterAll more).2 = .ok () ↔ (m.enterAll others).2 = .ok () := by
  have otherLegible : LegiblePairs others := (rearranges.forall_mem_iff
    (R := fun x y => Decimal.Legible x ∧ Decimal.Legible y) ⟨fun _ _ => And.symm⟩).mp legible
  rw [represents.snd_enterAll_eq_ok_iff legible, represents.snd_enterAll_eq_ok_iff otherLegible,
    ← represents.exists_declareAll_eq_iff, ← represents.exists_declareAll_eq_iff]
  exact represents.exists_declareAll_eq_iff_of_rearranges rearranges

theorem resolve_eq_resolve_of_rearranges (represents : m.Represents pairs)
    (rearranges : Rearranges more others) {after otherAfter : Equalities}
    (declared : m.declareAll more = .ok after)
    (otherDeclared : m.declareAll others = .ok otherAfter) (lit : Int) :
    otherAfter.resolve lit = after.resolve lit := by
  by_cases litZero : lit = 0
  · rw [litZero]
    rfl
  · rw [(represents.declareAll declared).forest.resolve_eq litZero,
      (represents.declareAll otherDeclared).forest.resolve_eq litZero,
      represents.root_eq_root_of_rearranges rearranges declared otherDeclared]

end Represents

end Clausal.Equalities
