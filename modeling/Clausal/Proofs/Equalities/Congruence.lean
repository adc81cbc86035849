import Clausal.Proofs.Equalities.Declaration

/-!
# What follows from equalities

Declared equalities hold, and so does what follows from them because equality
is reflexive, symmetric and transitive and because opposites of equal literals
are equal.  `Follows` is the closure under these rules.  A forest represents
some equalities when two literals have one root exactly if their equality
follows; declarations keep this up, so that roots do not depend on the order in
which the equalities were declared.
-/

namespace Clausal.Equalities

/-- The equality of two literals follows from some declared equalities. -/
inductive Follows (pairs : List (Int × Int)) : Int → Int → Prop
  | declared {x y : Int} : (x, y) ∈ pairs → Follows pairs x y
  | refl (x : Int) : Follows pairs x x
  | symm {x y : Int} : Follows pairs x y → Follows pairs y x
  | trans {x y z : Int} : Follows pairs x y → Follows pairs y z → Follows pairs x z
  | neg {x y : Int} : Follows pairs x y → Follows pairs (-x) (-y)

namespace Follows

/-- What follows from consequences of some equalities follows from these. -/
theorem of_forall {pairs others : List (Int × Int)}
    (consequences : ∀ e ∈ pairs, Follows others e.1 e.2) {x y : Int}
    (follows : Follows pairs x y) : Follows others x y := by
  induction follows with
  | declared pairMem => exact consequences _ pairMem
  | refl x => exact .refl x
  | symm _ ih => exact ih.symm
  | trans _ _ first second => exact first.trans second
  | neg _ ih => exact ih.neg

/-- More equalities have more consequences. -/
theorem mono {pairs more : List (Int × Int)} (subset : ∀ e ∈ pairs, e ∈ more) {x y : Int}
    (follows : Follows pairs x y) : Follows more x y :=
  follows.of_forall fun e pairMem => .declared (subset e pairMem)

/-- Without equalities only the same literals are equal. -/
theorem eq_of_nil {x y : Int} (follows : Follows [] x y) : x = y := by
  induction follows with
  | declared pairMem => exact absurd pairMem List.not_mem_nil
  | refl x => rfl
  | symm _ ih => exact ih.symm
  | trans _ _ first second => exact first.trans second
  | neg _ ih => rw [ih]

end Follows

/-- A forest in which two literals have the same root exactly when their
equality follows from the given ones. -/
structure Represents (m : Equalities) (pairs : List (Int × Int)) : Prop where
  forest : m.Forest
  ne_zero : ∀ e ∈ pairs, e.1 ≠ 0 ∧ e.2 ≠ 0
  root_eq_iff : ∀ x y, m.root x = m.root y ↔ Follows pairs x y

namespace Represents

variable {m : Equalities} {pairs : List (Int × Int)}

theorem empty : Represents {} [] where
  forest := forest_empty
  ne_zero := by simp
  root_eq_iff := by
    intro x y
    rw [root_of_find?_none rfl, root_of_find?_none rfl]
    constructor
    · rintro rfl
      exact .refl x
    · exact Follows.eq_of_nil

/-- A literal equals its root. -/
theorem follows_root (represents : m.Represents pairs) (lit : Int) :
    Follows pairs lit (m.root lit) :=
  (represents.root_eq_iff lit (m.root lit)).mp (represents.forest.root_root lit).symm

/-- A declaration adds what follows from it and from the earlier ones. -/
theorem declare (represents : m.Represents pairs) {after : Equalities} {x y : Int}
    (declared : m.declare x y = .ok after) : after.Represents (pairs ++ [(x, y)]) where
  forest := represents.forest.declare declared
  ne_zero := by
    rcases represents.forest.declare_cases declared with ⟨xNe, yNe, -⟩
    rw [List.forall_mem_append, List.forall_mem_singleton]
    exact ⟨represents.ne_zero, xNe, yNe⟩
  root_eq_iff := by
    have forest := represents.forest
    have afterForest := forest.declare declared
    have earlier : ∀ {a b}, Follows pairs a b → Follows (pairs ++ [(x, y)]) a b :=
      Follows.mono (by simp +contextual)
    have joined : Follows (pairs ++ [(x, y)]) (m.root x) (m.root y) :=
      ((earlier (represents.follows_root x)).symm.trans (.declared (by simp))).trans
        (earlier (represents.follows_root y))
    rcases forest.root_declare declared with ⟨source, target, ends, moved⟩
    have linked : Follows (pairs ++ [(x, y)]) source target := by
      rcases ends with ⟨rfl, rfl⟩ | ⟨rfl, rfl⟩
      · exact joined
      · exact joined.symm
    -- A root stays or moves along the link, so a literal equals its new root.
    have reaches : ∀ lit, Follows (pairs ++ [(x, y)]) lit (after.root lit) := by
      intro lit
      have old := earlier (represents.follows_root lit)
      rw [moved]
      split
      · rename_i atSource
        rw [atSource] at old
        exact old.trans linked
      · split
        · rename_i atOpposite
          rw [atOpposite] at old
          exact old.trans linked.neg
        · exact old
    intro a b
    constructor
    · intro same
      have first := reaches a
      rw [same] at first
      exact first.trans (reaches b).symm
    · intro follows
      induction follows with
      | @declared a b pairMem =>
          rcases List.mem_append.mp pairMem with old | new
          · have same := (represents.root_eq_iff a b).mpr (.declared old)
            rw [moved, moved, same]
          · cases List.mem_singleton.mp new
            exact forest.root_eq_of_declare declared
      | refl a => rfl
      | symm _ ih => exact ih.symm
      | trans _ _ first second => exact first.trans second
      | neg _ ih => rw [afterForest.root_neg, afterForest.root_neg, ih]

/-- Several declarations add what follows from them. -/
theorem declareAll (represents : m.Represents pairs) {after : Equalities}
    {more : List (Int × Int)} (declared : m.declareAll more = .ok after) :
    after.Represents (pairs ++ more) :=
  declareAll_induction (fun _ _ _ _ _ before made => before.declare made) represents declared

/-- The root is the one literal of least magnitude among those that equal a
given one. -/
theorem eq_root_or_natAbs_lt (represents : m.Represents pairs) {lit other : Int}
    (follows : Follows pairs lit other) :
    other = m.root lit ∨ (m.root lit).natAbs < other.natAbs := by
  rw [(represents.root_eq_iff lit other).mpr follows]
  rcases represents.forest.root_eq_or_natAbs_lt other with same | below
  · exact Or.inl same.symm
  · exact Or.inr below

/-- Roots depend only on the consequences of what is declared. -/
theorem root_eq_root_of_forall (represents : m.Represents pairs) {n : Equalities}
    {others : List (Int × Int)} (otherRepresents : n.Represents others)
    (consequences : ∀ e ∈ others, Follows pairs e.1 e.2)
    (otherConsequences : ∀ e ∈ pairs, Follows others e.1 e.2) (lit : Int) :
    n.root lit = m.root lit := by
  have here : Follows pairs lit (n.root lit) :=
    (otherRepresents.follows_root lit).of_forall consequences
  have there : Follows others lit (m.root lit) :=
    (represents.follows_root lit).of_forall otherConsequences
  rcases represents.eq_root_or_natAbs_lt here with equal | below
  · exact equal
  · rcases otherRepresents.eq_root_or_natAbs_lt there with equal | above
    · exact equal.symm
    · exact absurd above (Nat.lt_asymm below)

/-- Roots depend only on what is declared, not on how often and in which order. -/
theorem root_eq_root (represents : m.Represents pairs) {n : Equalities}
    {others : List (Int × Int)} (otherRepresents : n.Represents others)
    (same : ∀ e, e ∈ others ↔ e ∈ pairs) (lit : Int) : n.root lit = m.root lit :=
  represents.root_eq_root_of_forall otherRepresents
    (fun e otherMem => .declared ((same e).mp otherMem))
    (fun e pairMem => .declared ((same e).mpr pairMem)) lit

/-- Where the pairs are equal, so is what follows from them. -/
theorem holds_eq_of_follows (represents : m.Represents pairs) {s : Valuation}
    (equal : ∀ e ∈ pairs, Literal.holds s e.1 = Literal.holds s e.2) {x y : Int}
    (follows : Follows pairs x y) : Literal.holds s x = Literal.holds s y := by
  induction follows with
  | declared pairMem => exact equal _ pairMem
  | refl x => rfl
  | symm _ ih => exact ih.symm
  | trans _ _ first second => exact first.trans second
  | @neg x y follows ih =>
      have sameRoot := (represents.root_eq_iff x y).mpr follows
      have zeroIff : x = 0 ↔ y = 0 := by
        rw [← represents.forest.root_eq_zero_iff, sameRoot, represents.forest.root_eq_zero_iff]
      by_cases xZero : x = 0
      · rw [xZero, zeroIff.mp xZero]
      · rw [Literal.holds_neg s xZero, Literal.holds_neg s (mt zeroIff.mpr xZero), ih]

/-- A valuation respects the map exactly where the declared pairs are equal. -/
theorem respectedBy_iff (represents : m.Represents pairs) {s : Valuation} :
    m.RespectedBy s ↔ ∀ e ∈ pairs, Literal.holds s e.1 = Literal.holds s e.2 := by
  have forest := represents.forest
  constructor
  · rintro respected ⟨x, y⟩ pairMem
    have sameRoot := (represents.root_eq_iff x y).mpr (.declared pairMem)
    rw [← forest.holds_root respected x, sameRoot, forest.holds_root respected y]
  · rintro equal ⟨lit, target⟩ entryMem
    have sameRoot := forest.root_of_find?_some (forest.visible _ entryMem)
    exact represents.holds_eq_of_follows equal ((represents.root_eq_iff lit target).mp sameRoot)

end Represents

end Clausal.Equalities
