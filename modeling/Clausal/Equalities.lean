import Clausal.Association
import Clausal.Literal

/-!
# Literals known to be equal

Literals that must have the same value are linked, so that one of them stands
for all.  The links are a finite map on literals: a literal without an entry
stands for itself, and the others lead, entry by entry, to the one that stands
for them.  Linking two such representatives makes the one of larger magnitude
lead to the other, and their opposites likewise.

The map may also be given entry by entry, and then its chains may loop;
`follow` finds out and reports the first literal that comes back.
-/

namespace Clausal

/-- A finite map on literals, its newest entry first. -/
structure Equalities where
  entries : List (Int × Int) := []
  deriving DecidableEq, Repr, Inhabited

/-- A literal that is to lead to another one. -/
structure Link where
  source : Int
  target : Int
  deriving DecidableEq, Repr

namespace Equalities

/-! ## The map -/

/-- How many literals have an entry. -/
def size (m : Equalities) : Nat :=
  m.entries.length

/-- What a literal leads to. -/
def find? (m : Equalities) (lit : Int) : Option Int :=
  m.entries.lookup lit

/-- Makes a literal lead to another one, whatever it led to before. -/
def insert (m : Equalities) (lit target : Int) : Equalities :=
  ⟨(lit, target) :: Association.without lit m.entries⟩

/-- The map of some entries, the last one of a literal holding. -/
def ofList (pairs : List (Int × Int)) : Equalities :=
  pairs.foldl (fun m p => m.insert p.1 p.2) {}

/-- The entries in ascending order of the literals that have them. -/
def toSortedList (m : Equalities) : List (Int × Int) :=
  m.entries.mergeSort fun a b => a.1 ≤ b.1

@[simp]
theorem find?_empty (lit : Int) : ({} : Equalities).find? lit = none :=
  rfl

/-- An insertion shows at its own literal and nowhere else. -/
@[simp]
theorem find?_insert (m : Equalities) (key target lit : Int) :
    (m.insert key target).find? lit = if lit = key then some target else m.find? lit :=
  Association.lookup_cons_without m.entries key lit target

theorem mem_entries_of_find?_some {m : Equalities} {lit target : Int}
    (found : m.find? lit = some target) : (lit, target) ∈ m.entries := by
  obtain ⟨front, back, split, -⟩ := List.lookup_eq_some_iff.mp found
  rw [split]
  exact List.mem_append_right front List.mem_cons_self

/-! ## Resolution -/

/-- How many entries belong to literals that have not been visited. -/
def unvisited (m : Equalities) (visited : List Int) : Nat :=
  (m.entries.filter fun e => e.1 ∉ visited).length

theorem unvisited_cons_lt {m : Equalities} {visited : List Int} {lit target : Int}
    (fresh : lit ∉ visited) (found : m.find? lit = some target) :
    m.unvisited (lit :: visited) < m.unvisited visited := by
  have entryMem := mem_entries_of_find?_some found
  have hsub : m.entries.filter (fun e => e.1 ∉ lit :: visited) =
      (m.entries.filter fun e => e.1 ∉ visited).filter fun e => e.1 ≠ lit := by
    rw [List.filter_filter]
    congr 1
    funext e
    simp
  rw [unvisited, unvisited, hsub]
  apply List.length_filter_lt_length_iff_exists.mpr
  exact ⟨(lit, target), by simp [entryMem, fresh], by simp⟩

/-- Follows the chain of `start` from one of its literals on.  It ends at the
first literal without an entry, or fails at the first one already visited. -/
def follow (m : Equalities) (start : Int) (visited : List Int) (lit : Int) :
    Except Error Int :=
  if lit ∈ visited then .error (Error.equalityLoop start lit).raised
  else
    match _found : m.find? lit with
    | none => .ok lit
    | some target => follow m start (lit :: visited) target
termination_by m.unvisited visited
decreasing_by exact unvisited_cons_lt ‹_› _found

/-- The literal that stands for a given one. -/
def resolve (m : Equalities) (lit : Int) : Except Error Int := do
  let lit ← Literal.require lit
  m.follow lit [] lit

/-! ## Linking -/

/-- The link that makes two literals equal, `none` if they are equal already. -/
def linkFor (m : Equalities) (x y : Int) : Except Error (Option Link) := do
  let rx ← m.resolve x
  let ry ← m.resolve y
  if rx = ry then pure none
  else if rx = -ry then .error (Error.oppositeLiterals x y).raised
  else if ry.natAbs < rx.natAbs then pure (some ⟨rx, ry⟩)
  else pure (some ⟨ry, rx⟩)

/-- Makes the source of a link lead to its target, and their opposites
likewise. -/
def link (m : Equalities) (l : Link) : Equalities :=
  (m.insert l.source l.target).insert (-l.source) (-l.target)

/-- Makes two literals equal and reports the link.  The link is made first, so it
stays where the report cannot be written. -/
def enter (m : Equalities) (x y : Int) : Equalities × Except Error Unit :=
  match m.linkFor x y with
  | .error e => (m, .error e)
  | .ok none => (m, .ok ())
  | .ok (some l) => (m.link l, Error.writing [x, y, l.source, l.target])

/-- Makes the two members of every pair equal, in order, up to the first failure. -/
def enterAll (m : Equalities) : List (Int × Int) → Equalities × Except Error Unit
  | [] => (m, .ok ())
  | (x, y) :: rest =>
      match m.enter x y with
      | (after, .ok _) => after.enterAll rest
      | (after, .error e) => (after, .error e)

/-! ## Meaning -/

/-- A valuation respects the map when every entry joins two literals that it
makes equal. -/
def RespectedBy (m : Equalities) (s : Valuation) : Prop :=
  ∀ e ∈ m.entries, Literal.holds s e.1 = Literal.holds s e.2

end Equalities

end Clausal
