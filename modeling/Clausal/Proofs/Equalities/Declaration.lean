import Clausal.Proofs.Equalities.Forest

/-!
# Declaring equalities

`declare` is what a declaration makes of a map, whatever becomes of its report.
What it does to a forest is said once, in `linkFor_eq` and `declare_cases`: it
refuses zero and literals with opposite roots, leaves the map as it is where the
roots are the same, and links the roots otherwise.  From this follow the
valuations that respect the map afterwards, those that did so before and make the
two literals equal.
-/

namespace Clausal.Equalities

/-- Makes two literals equal. -/
def declare (m : Equalities) (x y : Int) : Except Error Equalities := do
  match ← m.linkFor x y with
  | none => pure m
  | some l => pure (m.link l)

/-- Makes the two members of every pair equal, in order. -/
def declareAll (m : Equalities) (pairs : List (Int × Int)) : Except Error Equalities :=
  pairs.foldlM (fun m p => m.declare p.1 p.2) m

variable {m : Equalities}

/-- The link between two different literals, from the one of larger magnitude. -/
def linkBetween (rx ry : Int) : Link :=
  if ry.natAbs < rx.natAbs then ⟨rx, ry⟩ else ⟨ry, rx⟩

namespace Forest

/-- Roots that are neither the same nor opposite may be linked. -/
theorem admits_linkBetween (forest : m.Forest) {x y : Int} (xNe : x ≠ 0) (yNe : y ≠ 0)
    (different : m.root x ≠ m.root y) (notOpposite : m.root x ≠ -m.root y) :
    m.Admits (linkBetween (m.root x) (m.root y)) := by
  have rootNe : m.root x ≠ 0 := mt forest.root_eq_zero_iff.mp xNe
  have otherNe : m.root y ≠ 0 := mt forest.root_eq_zero_iff.mp yNe
  rw [linkBetween]
  split
  · rename_i below
    exact ⟨forest.find?_root x, forest.find?_root y, otherNe, below⟩
  · rename_i notBelow
    have above : (m.root x).natAbs < (m.root y).natAbs := by omega
    exact ⟨forest.find?_root y, forest.find?_root x, rootNe, above⟩

/-- The link of a declaration, by the roots of its literals. -/
theorem linkFor_eq (forest : m.Forest) {x y : Int} (xNe : x ≠ 0) (yNe : y ≠ 0) :
    m.linkFor x y =
      if m.root x = m.root y then .ok none
      else if m.root x = -m.root y then .error (Error.oppositeLiterals x y).raised
      else .ok (some (linkBetween (m.root x) (m.root y))) := by
  rw [linkFor, forest.resolve_eq xNe, forest.resolve_eq yNe]
  simp only [bind, Except.bind, pure, Except.pure, linkBetween]
  split
  · rfl
  · split
    · rfl
    · split <;> rfl

theorem linkFor_zero_right (forest : m.Forest) (x : Int) :
    m.linkFor x 0 = .error .zeroLiteral := by
  by_cases xZero : x = 0
  · subst xZero
    rfl
  · rw [linkFor, forest.resolve_eq xZero]
    rfl

/-- A declaration, by the roots of its literals. -/
theorem declare_eq (forest : m.Forest) {x y : Int} (xNe : x ≠ 0) (yNe : y ≠ 0) :
    m.declare x y =
      if m.root x = m.root y then .ok m
      else if m.root x = -m.root y then .error (Error.oppositeLiterals x y).raised
      else .ok (m.link (linkBetween (m.root x) (m.root y))) := by
  rw [declare, forest.linkFor_eq xNe yNe]
  split
  · rfl
  · split <;> rfl

/-- Zero is equal to nothing. -/
theorem declare_of_eq_zero (forest : m.Forest) {x y : Int} (zero : x = 0 ∨ y = 0) :
    m.declare x y = .error .zeroLiteral := by
  rcases zero with rfl | rfl
  · rfl
  · rw [declare, forest.linkFor_zero_right]
    rfl

/-- Everything that a successful declaration can do. -/
theorem declare_cases (forest : m.Forest) {after : Equalities} {x y : Int}
    (declared : m.declare x y = .ok after) :
    x ≠ 0 ∧ y ≠ 0 ∧
      (m.root x = m.root y ∧ after = m ∨
        m.root x ≠ m.root y ∧ m.root x ≠ -m.root y ∧
          after = m.link (linkBetween (m.root x) (m.root y))) := by
  by_cases zero : x = 0 ∨ y = 0
  · rw [forest.declare_of_eq_zero zero] at declared
    contradiction
  · obtain ⟨xNe, yNe⟩ := not_or.mp zero
    rw [forest.declare_eq xNe yNe] at declared
    split at declared
    · rename_i same
      cases declared
      exact ⟨xNe, yNe, Or.inl ⟨same, rfl⟩⟩
    · rename_i different
      split at declared
      · contradiction
      · rename_i notOpposite
        cases declared
        exact ⟨xNe, yNe, Or.inr ⟨different, notOpposite, rfl⟩⟩

/-- A declaration keeps the forest. -/
theorem declare (forest : m.Forest) {after : Equalities} {x y : Int}
    (declared : m.declare x y = .ok after) : after.Forest := by
  rcases forest.declare_cases declared with
    ⟨xNe, yNe, ⟨-, rfl⟩ | ⟨different, notOpposite, rfl⟩⟩
  · exact forest
  · exact forest.link (forest.admits_linkBetween xNe yNe different notOpposite)

/-- How a declaration moves the roots: those of the one tree, and of the
opposite one, become those of the other. -/
theorem root_declare (forest : m.Forest) {after : Equalities} {x y : Int}
    (declared : m.declare x y = .ok after) :
    ∃ source target,
      (source = m.root x ∧ target = m.root y ∨ source = m.root y ∧ target = m.root x) ∧
        ∀ lit, after.root lit =
          if m.root lit = source then target
          else if m.root lit = -source then -target
          else m.root lit := by
  rcases forest.declare_cases declared with
    ⟨xNe, yNe, ⟨same, rfl⟩ | ⟨different, notOpposite, rfl⟩⟩
  · refine ⟨after.root x, after.root x, Or.inl ⟨rfl, same⟩, ?_⟩
    intro lit
    split
    · assumption
    · split
      · assumption
      · rfl
  · have admits := forest.admits_linkBetween xNe yNe different notOpposite
    refine ⟨_, _, ?_, forest.root_link admits⟩
    rw [linkBetween]
    split
    · exact Or.inl ⟨rfl, rfl⟩
    · exact Or.inr ⟨rfl, rfl⟩

/-- Literals that were declared equal have the same root. -/
theorem root_eq_of_declare (forest : m.Forest) {after : Equalities} {x y : Int}
    (declared : m.declare x y = .ok after) : after.root x = after.root y := by
  rcases forest.declare_cases declared with
    ⟨xNe, yNe, ⟨same, rfl⟩ | ⟨different, notOpposite, rfl⟩⟩
  · exact same
  · have admits := forest.admits_linkBetween xNe yNe different notOpposite
    have moved := forest.root_link admits
    by_cases below : (m.root y).natAbs < (m.root x).natAbs
    · have oppositeApart : m.root y ≠ -m.root x := by
        intro opposite
        rw [opposite, Int.neg_neg] at notOpposite
        exact notOpposite rfl
      rw [linkBetween, if_pos below] at moved ⊢
      rw [moved x, moved y, if_pos rfl, if_neg different.symm, if_neg oppositeApart]
    · rw [linkBetween, if_neg below] at moved ⊢
      rw [moved x, moved y, if_neg different, if_neg notOpposite, if_pos rfl]

/-! ## Respecting valuations -/

variable {s : Valuation}

/-- A valuation that respects a forest gives a literal the value of its root. -/
theorem holds_root (forest : m.Forest) (respected : m.RespectedBy s) (lit : Int) :
    Literal.holds s (m.root lit) = Literal.holds s lit := by
  induction lit using forest.chain_induction with
  | leaf lit leaf => rw [root_of_find?_none leaf]
  | step lit target found ih =>
      rw [forest.root_of_find?_some found, ih]
      exact (respected (lit, target) (mem_entries_of_find?_some found)).symm

/-- After a link between two roots, those valuations respect the map that did
so before and make the two equal. -/
theorem respectedBy_link (forest : m.Forest) {l : Link} (admits : m.Admits l) :
    (m.link l).RespectedBy s ↔
      m.RespectedBy s ∧ Literal.holds s l.source = Literal.holds s l.target := by
  constructor
  · intro respected
    constructor
    · intro e entryMem
      exact respected e ((forest.mem_entries_link admits).mpr (Or.inr (Or.inr entryMem)))
    · exact respected (l.source, l.target)
        ((forest.mem_entries_link admits).mpr (Or.inr (Or.inl rfl)))
  · rintro ⟨respected, equal⟩ e entryMem
    rcases (forest.mem_entries_link admits).mp entryMem with rfl | rfl | old
    · rw [Literal.holds_neg s admits.source_ne, Literal.holds_neg s admits.target_ne, equal]
    · exact equal
    · exact respected e old

/-- After a declaration those valuations respect the map that did so before and
make the two literals equal. -/
theorem respectedBy_declare (forest : m.Forest) {after : Equalities} {x y : Int}
    (declared : m.declare x y = .ok after) :
    after.RespectedBy s ↔ m.RespectedBy s ∧ Literal.holds s x = Literal.holds s y := by
  rcases forest.declare_cases declared with
    ⟨xNe, yNe, ⟨same, rfl⟩ | ⟨different, notOpposite, rfl⟩⟩
  · constructor
    · intro respected
      refine ⟨respected, ?_⟩
      rw [← forest.holds_root respected x, same, forest.holds_root respected y]
    · exact And.left
  · rw [forest.respectedBy_link (forest.admits_linkBetween xNe yNe different notOpposite)]
    apply and_congr_right
    intro respected
    rw [← forest.holds_root respected x, ← forest.holds_root respected y, linkBetween]
    split
    · rfl
    · exact eq_comm

end Forest

/-! ## Valuations of roots -/

/-- The valuation that gives every variable the value of its root. -/
def throughRoots (m : Equalities) (s : Valuation) : Valuation := fun v =>
  Literal.holds s (m.root v)

/-- Through roots a literal has the value of its root. -/
theorem Forest.holds_throughRoots (forest : m.Forest) {lit : Int} (litNe : lit ≠ 0) :
    Literal.holds (m.throughRoots s) lit = Literal.holds s (m.root lit) := by
  rw [Literal.holds, throughRoots]
  rcases Int.natAbs_eq lit with positive | negative
  · rw [if_pos (by omega), ← positive]
  · have opposite : (lit.natAbs : Int) = -lit := by omega
    have rootNe : m.root lit ≠ 0 := mt forest.root_eq_zero_iff.mp litNe
    rw [if_neg (by omega), opposite, forest.root_neg, Literal.holds_neg s rootNe, Bool.not_not]

theorem Forest.respectedBy_throughRoots (forest : m.Forest) (s : Valuation) :
    m.RespectedBy (m.throughRoots s) := by
  rintro ⟨lit, target⟩ entryMem
  have found := forest.visible _ entryMem
  have descent := forest.descends found
  have litNe : lit ≠ 0 := by omega
  rw [forest.holds_throughRoots litNe, forest.holds_throughRoots descent.1,
    forest.root_of_find?_some found]

/-! ## Several declarations -/

/-- A single declaration is one of several. -/
theorem declareAll_singleton (m : Equalities) (x y : Int) :
    m.declareAll [(x, y)] = m.declare x y := by
  rw [declareAll, List.foldlM_cons]
  cases m.declare x y with
  | error e => rfl
  | ok after => rfl

/-- After a first declaration the others follow. -/
theorem declareAll_cons_of_declare {middle : Equalities} {x y : Int}
    (declared : m.declare x y = .ok middle) (rest : List (Int × Int)) :
    m.declareAll ((x, y) :: rest) = middle.declareAll rest := by
  rw [declareAll, List.foldlM_cons, declared]
  rfl

/-- Several declarations that succeed do so one after the other. -/
theorem declareAll_cons {after : Equalities} {x y : Int} {rest : List (Int × Int)}
    (declared : m.declareAll ((x, y) :: rest) = .ok after) :
    ∃ middle, m.declare x y = .ok middle ∧ middle.declareAll rest = .ok after := by
  cases first : m.declare x y with
  | error e =>
      rw [declareAll, List.foldlM_cons, first] at declared
      contradiction
  | ok middle =>
      rw [declareAll_cons_of_declare first] at declared
      exact ⟨middle, rfl, declared⟩

/-- Several declarations are refused at the first pair that is. -/
theorem exists_declare_eq_error {pairs : List (Int × Int)} {e : Error}
    (refused : m.declareAll pairs = .error e) :
    ∃ front x y back middle, pairs = front ++ (x, y) :: back ∧
      m.declareAll front = .ok middle ∧ middle.declare x y = .error e := by
  induction pairs generalizing m with
  | nil => cases refused
  | cons pair rest ih =>
      obtain ⟨x, y⟩ := pair
      cases declared : m.declare x y with
      | error other =>
          rw [declareAll, List.foldlM_cons, declared] at refused
          cases refused
          exact ⟨[], x, y, rest, m, rfl, rfl, declared⟩
      | ok after =>
          rw [declareAll_cons_of_declare declared] at refused
          obtain ⟨front, u, v, back, middle, rfl, accepted, last⟩ := ih refused
          rw [← declareAll_cons_of_declare declared] at accepted
          exact ⟨(x, y) :: front, u, v, back, middle, rfl, accepted, last⟩

/-- After some declarations the others follow. -/
theorem declareAll_append {front : List (Int × Int)} {middle : Equalities}
    (accepted : m.declareAll front = .ok middle) (back : List (Int × Int)) :
    m.declareAll (front ++ back) = middle.declareAll back := by
  rw [declareAll, List.foldlM_append]
  change m.declareAll front >>= (·.declareAll back) = _
  rw [accepted]
  rfl

/-- What the first pair that cannot be declared fails with, all of them fail
with. -/
theorem declareAll_append_of_error {front back : List (Int × Int)} {middle : Equalities}
    {x y : Int} {e : Error} (accepted : m.declareAll front = .ok middle)
    (refused : middle.declare x y = .error e) :
    m.declareAll (front ++ (x, y) :: back) = .error e := by
  rw [declareAll_append accepted, declareAll, List.foldlM_cons, refused]
  rfl

/-- What each declaration keeps, of the map and of the pairs declared so far,
several declarations keep. -/
theorem declareAll_induction {motive : Equalities → List (Int × Int) → Prop}
    (step : ∀ m pairs x y after, motive m pairs → m.declare x y = .ok after →
      motive after (pairs ++ [(x, y)]))
    {pairs more : List (Int × Int)} {after : Equalities} (start : motive m pairs)
    (declared : m.declareAll more = .ok after) : motive after (pairs ++ more) := by
  induction more generalizing m pairs with
  | nil =>
      cases declared
      rw [List.append_nil]
      exact start
  | cons pair rest ih =>
      rcases declareAll_cons declared with ⟨middle, first, others⟩
      have extended := ih (step m pairs _ _ middle start first) others
      rw [List.append_assoc] at extended
      exact extended

namespace Forest

theorem declareAll (forest : m.Forest) {after : Equalities} {pairs : List (Int × Int)}
    (declared : m.declareAll pairs = .ok after) : after.Forest := by
  induction pairs generalizing m with
  | nil =>
      cases declared
      exact forest
  | cons pair rest ih =>
      rcases declareAll_cons declared with ⟨middle, first, others⟩
      exact ih (forest.declare first) others

/-- After several declarations those valuations respect the map that did so
before and make the members of every pair equal. -/
theorem respectedBy_declareAll (forest : m.Forest) {after : Equalities}
    {pairs : List (Int × Int)} (declared : m.declareAll pairs = .ok after) {s : Valuation} :
    after.RespectedBy s ↔
      m.RespectedBy s ∧ ∀ e ∈ pairs, Literal.holds s e.1 = Literal.holds s e.2 := by
  induction pairs generalizing m with
  | nil =>
      cases declared
      simp
  | cons pair rest ih =>
      rcases declareAll_cons declared with ⟨middle, first, others⟩
      rw [ih (forest.declare first) others, forest.respectedBy_declare first,
        List.forall_mem_cons, and_assoc]

end Forest

end Clausal.Equalities
