import Mathlib.Data.Set.Card
import Mathlib.Logic.Relation
import Clausal.Proofs.Equalities.Congruence
import Clausal.Proofs.Equalities.Report

/-!
# How the map of equalities grows

A declaration that joins two classes puts two entries in front of the others, for
the root of the one class and for its opposite, and any other declaration that is
accepted changes nothing.  So the map grows by links alone.  Entries are never
overwritten or removed, no literal has two of them, and there are twice as many
as there were declarations that joined classes.
-/

namespace Clausal.Equalities

variable {m after : Equalities} {l : Link} {pairs : List (Int × Int)} {x y lit target : Int}

/-! ## Links -/

/-- A map has got the two entries of a link, for a literal that stood for itself
and for the opposite of it. -/
structure Adds (m : Equalities) (l : Link) (after : Equalities) : Prop where
  source_root : m.resolve l.source = .ok l.source
  source_leaf : m.find? l.source = none
  opposite_leaf : m.find? (-l.source) = none
  entries_eq : after.entries = (-l.source, -l.target) :: (l.source, l.target) :: m.entries

/-- One map becomes another one by links alone. -/
def GrowsTo : Equalities → Equalities → Prop :=
  Relation.ReflTransGen fun m after => ∃ l, m.Adds l after

theorem Adds.source_ne (adds : m.Adds l after) : l.source ≠ 0 := by
  intro zero
  have resolved := adds.source_root
  rw [zero] at resolved
  contradiction

theorem Forest.adds_link (forest : m.Forest) (admits : m.Admits l) : m.Adds l (m.link l) where
  source_root := by
    rw [forest.resolve_eq admits.source_ne, root_of_find?_none admits.source_leaf]
  source_leaf := admits.source_leaf
  opposite_leaf := forest.find?_neg_source admits
  entries_eq := forest.entries_link admits

/-- A link keeps what literals lead to. -/
theorem Adds.find?_of_some (adds : m.Adds l after) (found : m.find? lit = some target) :
    after.find? lit = some target := by
  have notSource : lit ≠ l.source := by
    rintro rfl
    rw [adds.source_leaf] at found
    contradiction
  have notOpposite : lit ≠ -l.source := by
    rintro rfl
    rw [adds.opposite_leaf] at found
    contradiction
  rw [find?, adds.entries_eq, List.lookup_cons, beq_false_of_ne notOpposite, List.lookup_cons,
    beq_false_of_ne notSource]
  exact found

/-- Growth keeps what literals lead to. -/
theorem GrowsTo.find?_of_some (grows : m.GrowsTo after) (found : m.find? lit = some target) :
    after.find? lit = some target := by
  induction grows with
  | refl => exact found
  | tail _ added ih =>
      obtain ⟨l, adds⟩ := added
      exact adds.find?_of_some ih

/-! ## Declarations that join classes -/

/-- Neither that two literals are equal nor that one equals the opposite of the
other follows from some equalities. -/
def Unrelated (pairs : List (Int × Int)) (x y : Int) : Prop :=
  ¬ Follows pairs x y ∧ ¬ Follows pairs x (-y)

/-- The places of the pairs that are unrelated by those in front of them. -/
def joining (pairs : List (Int × Int)) : Set Nat :=
  {i | ∃ x y, pairs[i]? = some (x, y) ∧ Unrelated (pairs.take i) x y}

theorem joining_nil : joining [] = ∅ := by
  apply Set.eq_empty_of_forall_notMem
  rintro i ⟨x, y, placed, -⟩
  contradiction

theorem lt_length_of_mem_joining {i : Nat} (joins : i ∈ joining pairs) : i < pairs.length := by
  obtain ⟨x, y, placed, -⟩ := joins
  exact (List.getElem?_eq_some_iff.mp placed).1

theorem finite_joining (pairs : List (Int × Int)) : (joining pairs).Finite :=
  (Set.finite_lt_nat pairs.length).subset fun _ => lt_length_of_mem_joining

/-- A further pair joins classes if it is unrelated, and those in front of it do
so as before. -/
theorem mem_joining_append_singleton {i : Nat} :
    i ∈ joining (pairs ++ [(x, y)]) ↔
      i ∈ joining pairs ∨ i = pairs.length ∧ Unrelated pairs x y := by
  constructor
  · intro joins
    have within := lt_length_of_mem_joining joins
    rw [List.length_append, List.length_singleton] at within
    obtain ⟨a, b, placed, unrelated⟩ := joins
    rcases Nat.lt_succ_iff_lt_or_eq.mp within with before | rfl
    · rw [List.getElem?_append_left before] at placed
      rw [List.take_append_of_le_length before.le] at unrelated
      exact Or.inl ⟨a, b, placed, unrelated⟩
    · rw [List.getElem?_concat_length] at placed
      rw [List.take_left] at unrelated
      cases placed
      exact Or.inr ⟨rfl, unrelated⟩
  · rintro (⟨a, b, placed, unrelated⟩ | ⟨rfl, unrelated⟩)
    · have before := (List.getElem?_eq_some_iff.mp placed).1
      refine ⟨a, b, ?_, ?_⟩
      · rw [List.getElem?_append_left before, placed]
      · rw [List.take_append_of_le_length before.le]
        exact unrelated
    · refine ⟨x, y, List.getElem?_concat_length, ?_⟩
      rw [List.take_left]
      exact unrelated

/-- An unrelated pair joins classes once more. -/
theorem ncard_joining_of_unrelated (unrelated : Unrelated pairs x y) :
    (joining (pairs ++ [(x, y)])).ncard = (joining pairs).ncard + 1 := by
  have isNew : pairs.length ∉ joining pairs := fun joins =>
    Nat.lt_irrefl _ (lt_length_of_mem_joining joins)
  have inserted : joining (pairs ++ [(x, y)]) = Insert.insert pairs.length (joining pairs) := by
    ext i
    rw [mem_joining_append_singleton, Set.mem_insert_iff, or_comm, and_iff_left unrelated]
  rw [inserted, Set.ncard_insert_of_notMem isNew (finite_joining pairs)]

/-- A pair that follows from the others joins nothing. -/
theorem joining_of_follows (follows : Follows pairs x y) :
    joining (pairs ++ [(x, y)]) = joining pairs := by
  have related : ¬ Unrelated pairs x y := fun unrelated => unrelated.1 follows
  ext i
  rw [mem_joining_append_singleton, or_iff_left (mt And.right related)]

/-! ## What a declaration adds -/

/-- The ends of a link are what two literals are resolved to. -/
def Joins (m : Equalities) (x y : Int) (l : Link) : Prop :=
  m.resolve x = .ok l.source ∧ m.resolve y = .ok l.target ∨
    m.resolve y = .ok l.source ∧ m.resolve x = .ok l.target

theorem Forest.joins_linkBetween (forest : m.Forest) (xNe : x ≠ 0) (yNe : y ≠ 0) :
    m.Joins x y (linkBetween (m.root x) (m.root y)) := by
  rw [Joins, forest.resolve_eq xNe, forest.resolve_eq yNe, linkBetween]
  split
  · exact Or.inl ⟨rfl, rfl⟩
  · exact Or.inr ⟨rfl, rfl⟩

/-- What a declaration that is accepted adds to a forest. -/
theorem Forest.declare_adds (forest : m.Forest) (declared : m.declare x y = .ok after) :
    m.root x = m.root y ∧ after = m ∨
      (m.root x ≠ m.root y ∧ m.root x ≠ -m.root y) ∧ ∃ l, m.Joins x y l ∧ m.Adds l after := by
  obtain ⟨xNe, yNe, unchanged | ⟨different, notOpposite, rfl⟩⟩ := forest.declare_cases declared
  · exact Or.inl unchanged
  · have adds := forest.adds_link (forest.admits_linkBetween xNe yNe different notOpposite)
    exact Or.inr ⟨⟨different, notOpposite⟩, _, forest.joins_linkBetween xNe yNe, adds⟩

/-- Two literals are unrelated when neither their roots nor a root and the opposite
of the other one are the same. -/
theorem Represents.unrelated_iff (represents : m.Represents pairs) :
    Unrelated pairs x y ↔ m.root x ≠ m.root y ∧ m.root x ≠ -m.root y := by
  rw [← represents.forest.root_neg, Ne, represents.root_eq_iff, Ne, represents.root_eq_iff,
    Unrelated]

/-- A declaration that is accepted changes nothing if it follows from those before
it, and otherwise adds a link between two roots that they did not relate. -/
theorem Represents.declare_adds (represents : m.Represents pairs)
    (declared : m.declare x y = .ok after) :
    Follows pairs x y ∧ after = m ∨
      Unrelated pairs x y ∧ ∃ l, m.Joins x y l ∧ m.Adds l after := by
  rw [represents.unrelated_iff, ← represents.root_eq_iff]
  exact represents.forest.declare_adds declared

/-- A declaration is refused and changes nothing, or follows from those before it
and changes nothing, or adds a link between two roots that they did not relate and
reports it. -/
theorem Represents.enter_cases (represents : m.Represents pairs) (x y : Int) :
    (∃ e, m.enter x y = (m, .error e)) ∨
      Follows pairs x y ∧ m.enter x y = (m, .ok ()) ∨
        Unrelated pairs x y ∧ ∃ l, m.Joins x y l ∧ m.Adds l (m.link l) ∧
          m.enter x y = (m.link l, Error.writing [x, y, l.source, l.target]) := by
  have forest := represents.forest
  by_cases zero : x = 0 ∨ y = 0
  · exact Or.inl ⟨_, enter_of_declare_eq_error (forest.declare_of_eq_zero zero)⟩
  · obtain ⟨xNe, yNe⟩ := not_or.mp zero
    rw [enter, forest.linkFor_eq xNe yNe]
    by_cases same : m.root x = m.root y
    · rw [if_pos same]
      exact Or.inr (Or.inl ⟨(represents.root_eq_iff x y).mp same, rfl⟩)
    · rw [if_neg same]
      by_cases opposite : m.root x = -m.root y
      · rw [if_pos opposite]
        exact Or.inl ⟨_, rfl⟩
      · rw [if_neg opposite]
        refine Or.inr (Or.inr ⟨represents.unrelated_iff.mpr ⟨same, opposite⟩, _,
          forest.joins_linkBetween xNe yNe, ?_, rfl⟩)
        exact forest.adds_link (forest.admits_linkBetween xNe yNe same opposite)

/-- Several declarations grow the map by links. -/
theorem Forest.growsTo_declareAll (forest : m.Forest) (declared : m.declareAll pairs = .ok after) :
    m.GrowsTo after := by
  induction pairs generalizing m with
  | nil =>
      cases declared
      exact .refl
  | cons pair rest ih =>
      rcases declareAll_cons declared with ⟨middle, first, others⟩
      have later := ih (forest.declare first) others
      rcases forest.declare_adds first with ⟨-, rfl⟩ | ⟨-, l, -, adds⟩
      · exact later
      · exact .head ⟨l, adds⟩ later

/-! ## Counting entries -/

/-- A map that represents some pairs has two entries for each of them that joined
classes, and no literal has two. -/
structure Counts (m : Equalities) (pairs : List (Int × Int)) : Prop extends
    m.Represents pairs where
  keys_nodup : (m.entries.map Prod.fst).Nodup
  size_eq : m.size = 2 * (joining pairs).ncard

theorem Counts.empty : Counts {} [] where
  toRepresents := .empty
  keys_nodup := List.nodup_nil
  size_eq := by
    rw [joining_nil, Set.ncard_empty]
    rfl

/-- A literal that leads nowhere has no entry. -/
theorem notMem_keys_of_find?_none (leaf : m.find? lit = none) :
    lit ∉ m.entries.map Prod.fst := by
  intro keyMem
  obtain ⟨e, entryMem, same⟩ := List.mem_map.mp keyMem
  exact Association.ne_of_lookup_eq_none leaf entryMem same

theorem Counts.declare (counts : m.Counts pairs) (declared : m.declare x y = .ok after) :
    after.Counts (pairs ++ [(x, y)]) := by
  have represents := counts.toRepresents.declare declared
  obtain ⟨follows, rfl⟩ | ⟨unrelated, l, -, adds⟩ := counts.toRepresents.declare_adds declared
  · exact ⟨represents, counts.keys_nodup, by rw [joining_of_follows follows, counts.size_eq]⟩
  · refine ⟨represents, ?_, ?_⟩
    · have sourceNe := adds.source_ne
      have apart : -l.source ≠ l.source := by omega
      rw [adds.entries_eq, List.map_cons, List.map_cons, List.nodup_cons, List.nodup_cons,
        List.mem_cons, not_or]
      exact ⟨⟨apart, notMem_keys_of_find?_none adds.opposite_leaf⟩,
        notMem_keys_of_find?_none adds.source_leaf, counts.keys_nodup⟩
    · rw [size, adds.entries_eq, List.length_cons, List.length_cons,
        ncard_joining_of_unrelated unrelated, Nat.mul_succ, ← counts.size_eq, size]

end Clausal.Equalities
