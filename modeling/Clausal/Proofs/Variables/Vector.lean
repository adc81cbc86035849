import Clausal.Proofs.Variables.Layout

/-!
# Vectors of variables

A vector lists the codes of the variables along the last axis of a family.  So
its members are codes of different variables, and vectors of different families
have none in common.
-/

namespace Clausal.Variables

variable {a : Variables} {name other : Text} {leading others lits otherLits : List Int}

/-- The members of a vector are the codes at the positions along the last
axis. -/
theorem map_codeOf_of_vector (made : a.vector name leading = .ok lits) :
    ∃ along : Nat, (List.range along).map (fun i : Nat => a.codeOf name (leading ++ [(i : Int)])) =
      lits.map .ok := by
  obtain ⟨f, found, rest⟩ := Outcome.bind_eq_ok_iff.mp made
  split at rest
  · contradiction
  obtain ⟨first, coded, whole⟩ := Outcome.bind_eq_ok_iff.mp rest
  cases Outcome.pure_eq_ok_iff.mp whole
  obtain ⟨g, otherFound, inRange, rfl⟩ := codeOf_eq_ok_iff.mp coded
  cases found.symm.trans otherFound
  have dimensions := List.dropLast_append_getLast f.dimensions_ne
  rw [← dimensions, Family.inRange_append_singleton] at inRange
  obtain ⟨leadingInRange, -, positive⟩ := inRange
  refine ⟨f.dimensions.getLast f.dimensions_ne, ?_⟩
  rw [List.map_map]
  apply List.map_congr_left
  intro i indexMem
  have below : (i : Int) < f.dimensions.getLast f.dimensions_ne :=
    Int.ofNat_lt.mpr (List.mem_range.mp indexMem)
  have indexInRange : Family.InRange f.dimensions (leading ++ [(i : Int)]) := by
    rw [← dimensions, Family.inRange_append_singleton]
    exact ⟨leadingInRange, Int.natCast_nonneg i, below⟩
  have flatIndex_eq : ∀ c : Int, f.flatIndex (leading ++ [c]) =
      Family.indexIn f.dimensions.dropLast leading * f.dimensions.getLast f.dimensions_ne + c := by
    intro c
    rw [Family.flatIndex, ← Family.indexIn_append_singleton leadingInRange.length_eq, dimensions]
  rw [codeOf_eq found indexInRange, flatIndex_eq, Function.comp_apply, flatIndex_eq]
  congr 1
  omega

/-- Every member of a vector is the code of a variable of its family. -/
theorem exists_codeOf_of_mem_vector (made : a.vector name leading = .ok lits) {lit : Int}
    (literalMem : lit ∈ lits) : ∃ coordinates, a.codeOf name coordinates = .ok lit := by
  obtain ⟨along, codes⟩ := map_codeOf_of_vector made
  have codeMem : (.ok lit : Except Error Int) ∈ lits.map .ok := List.mem_map_of_mem literalMem
  rw [← codes] at codeMem
  obtain ⟨i, -, coded⟩ := List.mem_map.mp codeMem
  exact ⟨_, coded⟩

namespace WellFormed

variable (wellFormed : a.WellFormed)

include wellFormed

/-- The members of a vector are declared variables. -/
theorem vector_range (made : a.vector name leading = .ok lits) :
    ∀ lit ∈ lits, 0 < lit ∧ lit.natAbs ≤ a.size := by
  intro lit literalMem
  obtain ⟨coordinates, coded⟩ := exists_codeOf_of_mem_vector made literalMem
  have range := wellFormed.codeOf_range coded
  omega

/-- A vector has no member twice. -/
theorem nodup_vector (made : a.vector name leading = .ok lits) : lits.Nodup := by
  obtain ⟨along, codes⟩ := map_codeOf_of_vector made
  have different : (lits.map (Except.ok : Int → Except Error Int)).Nodup := by
    rw [← codes]
    apply List.Nodup.map_on _ List.nodup_range
    intro i indexMem j _ sameCode
    have codeMem : a.codeOf name (leading ++ [(i : Int)]) ∈ lits.map .ok := by
      rw [← codes]
      exact List.mem_map_of_mem indexMem
    obtain ⟨code, -, coded⟩ := List.mem_map.mp codeMem
    have sameCoordinates := (wellFormed.codeOf_inj coded.symm (sameCode.symm.trans coded.symm)).2
    simpa using sameCoordinates
  exact different.of_map _

/-- Vectors of different families have no common member. -/
theorem disjoint_vector (made : a.vector name leading = .ok lits)
    (otherMade : a.vector other others = .ok otherLits) (different : name ≠ other) :
    List.Disjoint lits otherLits := by
  intro lit literalMem otherMem
  obtain ⟨_, coded⟩ := exists_codeOf_of_mem_vector made literalMem
  obtain ⟨_, otherCoded⟩ := exists_codeOf_of_mem_vector otherMade otherMem
  exact different (wellFormed.codeOf_inj coded otherCoded).1

end WellFormed

end Clausal.Variables
