import Clausal.Equalities

/-!
# Chains of equalities as a forest

The maps that declarations build are forests: every entry leads to a literal of
smaller magnitude, and opposite literals lead to opposite ones.  In a forest
every chain ends, so each literal has a root, the literal that stands for it,
and resolution finds it.

A link between two roots hangs the one tree, and the opposite of it, below the
other.  The main statements are that a link keeps the forest and how it moves
the roots.
-/

namespace Clausal.Equalities

/-- What the entries of a map made by declarations have in common. -/
structure Forest (m : Equalities) : Prop where
  /-- No entry leads to zero, and every one leads to a smaller magnitude. -/
  descends : ∀ ⦃lit target⦄, m.find? lit = some target →
    target ≠ 0 ∧ target.natAbs < lit.natAbs
  /-- Opposite literals lead to opposite ones. -/
  odd : ∀ lit, m.find? (-lit) = (m.find? lit).map fun target => -target
  /-- No entry is hidden by a newer one. -/
  visible : ∀ e ∈ m.entries, m.find? e.1 = some e.2

/-- The literal that stands for a given one, and zero for zero. -/
def root (m : Equalities) (lit : Int) : Int :=
  match m.resolve lit with
  | .ok r => r
  | .error _ => lit

/-! ## Following a chain -/

variable {m : Equalities}

theorem follow_of_find?_none {start lit : Int} {visited : List Int}
    (fresh : lit ∉ visited) (leaf : m.find? lit = none) :
    m.follow start visited lit = .ok lit := by
  rw [follow, if_neg fresh]
  split
  · rfl
  · rename_i found
    rw [leaf] at found
    contradiction

theorem follow_of_find?_some {start lit target : Int} {visited : List Int}
    (fresh : lit ∉ visited) (found : m.find? lit = some target) :
    m.follow start visited lit = m.follow start (lit :: visited) target := by
  rw [follow, if_neg fresh]
  split
  · rename_i leaf
    rw [found] at leaf
    contradiction
  · rename_i other otherFound
    rw [found] at otherFound
    cases otherFound
    rfl

namespace Forest

/-- Induction along the chain of a literal, from the literal that ends it. -/
theorem chain_induction (forest : m.Forest) {motive : Int → Prop}
    (leaf : ∀ lit, m.find? lit = none → motive lit)
    (step : ∀ lit target, m.find? lit = some target → motive target → motive lit)
    (lit : Int) : motive lit := by
  induction hsize : lit.natAbs using Nat.strongRecOn generalizing lit with
  | ind size ih =>
      cases found : m.find? lit with
      | none => exact leaf lit found
      | some target =>
          have smaller := (forest.descends found).2
          exact step lit target found (ih target.natAbs (by omega) target rfl)

/-- A chain ends at the same literal whatever has been visited, as long as it
was larger. -/
theorem exists_follow_eq (forest : m.Forest) (lit : Int) :
    ∃ r, ∀ start visited, (∀ v ∈ visited, lit.natAbs < v.natAbs) →
      m.follow start visited lit = .ok r := by
  induction lit using forest.chain_induction with
  | leaf lit found =>
      apply Exists.intro lit
      intro start visited larger
      have fresh : lit ∉ visited := fun litMem => Nat.lt_irrefl _ (larger lit litMem)
      exact follow_of_find?_none fresh found
  | step lit target found ih =>
      rcases ih with ⟨r, follows⟩
      apply Exists.intro r
      intro start visited larger
      have fresh : lit ∉ visited := fun litMem => Nat.lt_irrefl _ (larger lit litMem)
      rw [follow_of_find?_some fresh found]
      apply follows
      intro v visitedMem
      have smaller := (forest.descends found).2
      rcases List.mem_cons.mp visitedMem with rfl | earlier
      · exact smaller
      · exact Nat.lt_trans smaller (larger v earlier)

end Forest

/-! ## Roots -/

theorem resolve_of_ne_zero {lit : Int} (hne : lit ≠ 0) :
    m.resolve lit = m.follow lit [] lit := by
  rw [resolve, Literal.require_of_ne_zero hne]
  rfl

@[simp]
theorem root_zero (m : Equalities) : m.root 0 = 0 :=
  rfl

theorem root_of_find?_none {lit : Int} (leaf : m.find? lit = none) : m.root lit = lit := by
  by_cases hzero : lit = 0
  · subst hzero
    exact root_zero m
  · rw [root, resolve_of_ne_zero hzero, follow_of_find?_none List.not_mem_nil leaf]

namespace Forest

/-- In a forest every literal resolves, and to its root. -/
theorem resolve_eq (forest : m.Forest) {lit : Int} (hne : lit ≠ 0) :
    m.resolve lit = .ok (m.root lit) := by
  rcases forest.exists_follow_eq lit with ⟨r, follows⟩
  have resolved : m.resolve lit = .ok r := by
    rw [resolve_of_ne_zero hne]
    exact follows lit [] (by simp)
  rw [root, resolved]

/-- A literal with an entry has the root of what it leads to. -/
theorem root_of_find?_some (forest : m.Forest) {lit target : Int}
    (found : m.find? lit = some target) : m.root lit = m.root target := by
  have descent := forest.descends found
  have litNe : lit ≠ 0 := by
    rintro rfl
    exact Nat.not_lt_zero _ descent.2
  rcases forest.exists_follow_eq target with ⟨r, follows⟩
  have targetResolved : m.resolve target = .ok r := by
    rw [resolve_of_ne_zero descent.1]
    exact follows target [] (by simp)
  have litResolved : m.resolve lit = .ok r := by
    rw [resolve_of_ne_zero litNe, follow_of_find?_some List.not_mem_nil found]
    apply follows
    intro v visitedMem
    rw [List.mem_singleton.mp visitedMem]
    exact descent.2
  rw [root, root, litResolved, targetResolved]

/-- A root leads nowhere. -/
@[simp]
theorem find?_root (forest : m.Forest) (lit : Int) : m.find? (m.root lit) = none := by
  induction lit using forest.chain_induction with
  | leaf lit leaf =>
      rw [root_of_find?_none leaf]
      exact leaf
  | step lit target found ih =>
      rw [forest.root_of_find?_some found]
      exact ih

@[simp]
theorem root_root (forest : m.Forest) (lit : Int) : m.root (m.root lit) = m.root lit :=
  root_of_find?_none (forest.find?_root lit)

/-- Opposite literals have opposite roots. -/
@[simp]
theorem root_neg (forest : m.Forest) (lit : Int) : m.root (-lit) = -m.root lit := by
  induction lit using forest.chain_induction with
  | leaf lit leaf =>
      have oppositeLeaf : m.find? (-lit) = none := by
        rw [forest.odd, leaf]
        rfl
      rw [root_of_find?_none leaf, root_of_find?_none oppositeLeaf]
  | step lit target found ih =>
      have oppositeFound : m.find? (-lit) = some (-target) := by
        rw [forest.odd, found]
        rfl
      rw [forest.root_of_find?_some found, forest.root_of_find?_some oppositeFound, ih]

/-- A root is the literal itself or of smaller magnitude. -/
theorem root_eq_or_natAbs_lt (forest : m.Forest) (lit : Int) :
    m.root lit = lit ∨ (m.root lit).natAbs < lit.natAbs := by
  induction lit using forest.chain_induction with
  | leaf lit leaf => exact Or.inl (root_of_find?_none leaf)
  | step lit target found ih =>
      have smaller := (forest.descends found).2
      rw [forest.root_of_find?_some found]
      rcases ih with same | below
      · rw [same]
        exact Or.inr smaller
      · exact Or.inr (Nat.lt_trans below smaller)

theorem natAbs_root_le (forest : m.Forest) (lit : Int) :
    (m.root lit).natAbs ≤ lit.natAbs := by
  rcases forest.root_eq_or_natAbs_lt lit with same | below
  · exact Nat.le_of_eq (congrArg Int.natAbs same)
  · exact Nat.le_of_lt below

@[simp]
theorem root_eq_zero_iff (forest : m.Forest) {lit : Int} : m.root lit = 0 ↔ lit = 0 := by
  induction lit using forest.chain_induction with
  | leaf lit leaf => rw [root_of_find?_none leaf]
  | step lit target found ih =>
      have descent := forest.descends found
      rw [forest.root_of_find?_some found, ih]
      constructor
      · exact fun targetZero => absurd targetZero descent.1
      · rintro rfl
        exact absurd descent.2 (Nat.not_lt_zero _)

/-- The variable of a root is a root. -/
theorem root_natAbs_root (forest : m.Forest) (lit : Int) :
    m.root (m.root lit).natAbs = (m.root lit).natAbs := by
  rcases Int.natAbs_eq (m.root lit) with positive | negative
  · rw [← positive, forest.root_root]
  · have opposite : ((m.root lit).natAbs : Int) = -m.root lit := by omega
    rw [opposite, forest.root_neg, forest.root_root]

end Forest

/-! ## Linking two roots -/

/-- A link that may be added to a forest: between two roots, to the one of
smaller magnitude. -/
structure Admits (m : Equalities) (l : Link) : Prop where
  source_leaf : m.find? l.source = none
  target_leaf : m.find? l.target = none
  target_ne : l.target ≠ 0
  descends : l.target.natAbs < l.source.natAbs

theorem Admits.source_ne {l : Link} (admits : m.Admits l) : l.source ≠ 0 :=
  Int.natAbs_pos.mp (Nat.zero_lt_of_lt admits.descends)

/-- The source of a link is not its own opposite. -/
theorem Admits.source_ne_neg {l : Link} (admits : m.Admits l) : l.source ≠ -l.source := by
  have sourceNe := admits.source_ne
  omega

section

variable {l : Link} {lit : Int}

/-- A link shows at the opposite of its source. -/
theorem find?_link_neg_source (m : Equalities) (l : Link) :
    (m.link l).find? (-l.source) = some (-l.target) := by
  rw [link, find?_insert, if_pos rfl]

theorem Admits.find?_link_source (admits : m.Admits l) :
    (m.link l).find? l.source = some l.target := by
  rw [link, find?_insert, find?_insert, if_neg admits.source_ne_neg, if_pos rfl]

/-- A link shows nowhere else. -/
theorem find?_link_of_ne (notSource : lit ≠ l.source) (notOpposite : lit ≠ -l.source) :
    (m.link l).find? lit = m.find? lit := by
  rw [link, find?_insert, find?_insert, if_neg notOpposite, if_neg notSource]

end

@[simp]
theorem forest_empty : ({} : Equalities).Forest where
  descends := by simp
  odd := by simp
  visible := by simp

/-- A literal without an entry gets one in front of the others. -/
theorem entries_insert {key : Int} (absent : m.find? key = none) (target : Int) :
    (m.insert key target).entries = (key, target) :: m.entries := by
  rw [insert, Association.without_eq_self absent]

namespace Forest

variable {l : Link}

theorem find?_neg_source (forest : m.Forest) (admits : m.Admits l) :
    m.find? (-l.source) = none := by
  rw [forest.odd, admits.source_leaf]
  rfl

/-- What leads to another literal is neither the source of a link between roots
nor the opposite of it. -/
theorem ne_source_of_find?_some (forest : m.Forest) (admits : m.Admits l) {lit target : Int}
    (found : m.find? lit = some target) : lit ≠ l.source ∧ lit ≠ -l.source := by
  constructor
  · rintro rfl
    rw [admits.source_leaf] at found
    contradiction
  · rintro rfl
    rw [forest.find?_neg_source admits] at found
    contradiction

/-- A link between roots keeps what other literals lead to. -/
theorem find?_link_of_some (forest : m.Forest) (admits : m.Admits l) {lit target : Int}
    (found : m.find? lit = some target) : (m.link l).find? lit = some target := by
  obtain ⟨notSource, notOpposite⟩ := forest.ne_source_of_find?_some admits found
  rw [find?_link_of_ne notSource notOpposite]
  exact found

/-- A link between roots puts two entries in front of the others. -/
theorem entries_link (forest : m.Forest) (admits : m.Admits l) :
    (m.link l).entries = (-l.source, -l.target) :: (l.source, l.target) :: m.entries := by
  have oppositeAbsent : (m.insert l.source l.target).find? (-l.source) = none := by
    rw [find?_insert, if_neg admits.source_ne_neg.symm]
    exact forest.find?_neg_source admits
  rw [Equalities.link, entries_insert oppositeAbsent, entries_insert admits.source_leaf]

/-- The entries after a link between roots: two new ones and all older ones. -/
theorem mem_entries_link (forest : m.Forest) (admits : m.Admits l) {e : Int × Int} :
    e ∈ (m.link l).entries ↔
      e = (-l.source, -l.target) ∨ e = (l.source, l.target) ∨ e ∈ m.entries := by
  rw [forest.entries_link admits, List.mem_cons, List.mem_cons]

/-- Linking two roots keeps the forest. -/
theorem link (forest : m.Forest) (admits : m.Admits l) : (m.link l).Forest where
  descends := by
    intro lit target found
    by_cases atSource : lit = l.source
    · rw [atSource, admits.find?_link_source] at found
      cases found
      rw [atSource]
      exact ⟨admits.target_ne, admits.descends⟩
    · by_cases atOpposite : lit = -l.source
      · rw [atOpposite, find?_link_neg_source] at found
        cases found
        rw [atOpposite, Int.natAbs_neg, Int.natAbs_neg]
        exact ⟨Int.neg_ne_zero.mpr admits.target_ne, admits.descends⟩
      · rw [find?_link_of_ne atSource atOpposite] at found
        exact forest.descends found
  odd := by
    intro lit
    by_cases atSource : lit = l.source
    · rw [atSource, find?_link_neg_source, admits.find?_link_source]
      rfl
    · by_cases atOpposite : lit = -l.source
      · rw [atOpposite, Int.neg_neg, admits.find?_link_source, find?_link_neg_source,
          Option.map_some, Int.neg_neg]
      · have oppositeApart : -lit ≠ l.source := by
          intro atSourceAfterAll
          rw [← atSourceAfterAll, Int.neg_neg] at atOpposite
          exact atOpposite rfl
        rw [find?_link_of_ne oppositeApart (mt Int.neg_inj.mp atSource),
          find?_link_of_ne atSource atOpposite, forest.odd]
  visible := by
    intro e entryMem
    rcases (forest.mem_entries_link admits).mp entryMem with rfl | rfl | old
    · exact find?_link_neg_source m l
    · exact admits.find?_link_source
    · exact forest.find?_link_of_some admits (forest.visible e old)

/-- A link moves the roots of the tree that it hangs, and of the opposite tree,
and no others. -/
theorem root_link (forest : m.Forest) (admits : m.Admits l) (lit : Int) :
    (m.link l).root lit =
      if m.root lit = l.source then l.target
      else if m.root lit = -l.source then -l.target
      else m.root lit := by
  have linked := forest.link admits
  have targetRoot : (m.link l).root l.target = l.target := by
    have below := admits.descends
    apply root_of_find?_none
    rw [find?_link_of_ne (by omega) (by omega)]
    exact admits.target_leaf
  induction lit using forest.chain_induction with
  | leaf lit leaf =>
      rw [root_of_find?_none leaf]
      by_cases atSource : lit = l.source
      · rw [if_pos atSource, atSource, linked.root_of_find?_some admits.find?_link_source,
          targetRoot]
      · rw [if_neg atSource]
        by_cases atOpposite : lit = -l.source
        · rw [if_pos atOpposite, atOpposite,
            linked.root_of_find?_some (find?_link_neg_source m l), linked.root_neg, targetRoot]
        · rw [if_neg atOpposite, root_of_find?_none]
          rw [find?_link_of_ne atSource atOpposite]
          exact leaf
  | step lit target found ih =>
      have stillFound := forest.find?_link_of_some admits found
      rw [linked.root_of_find?_some stillFound, forest.root_of_find?_some found, ih]

end Forest

end Clausal.Equalities
