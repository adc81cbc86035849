import Mathlib.Data.List.Induction
import Mathlib.Data.List.Nodup
import Mathlib.Data.Set.Function
import Clausal.Proofs.Equalities.Forest
import Clausal.Proofs.Family
import Clausal.Proofs.Outcome
import Clausal.Variables.Code

/-!
# How codes are laid out

The families of a problem have different names, and each begins where the ones
declared before it end.  So the codes of a family are a block of consecutive
numbers, the blocks follow each other from one to the number of variables, and
every code belongs to one variable.
-/

namespace Clausal

/-! ## Blocks -/

namespace Family

/-- How many variables some families have together. -/
def totalSize (families : List Family) : Nat :=
  (families.map size).sum

@[simp]
theorem totalSize_nil : totalSize [] = 0 :=
  rfl

theorem totalSize_append (front back : List Family) :
    totalSize (front ++ back) = totalSize front + totalSize back := by
  rw [totalSize, List.map_append, List.sum_append]
  rfl

@[simp]
theorem totalSize_singleton (f : Family) : totalSize [f] = f.size := by
  simp [totalSize]

theorem totalSize_take_succ {families : List Family} {i : Nat} {f : Family}
    (found : families[i]? = some f) :
    totalSize (families.take (i + 1)) = totalSize (families.take i) + f.size := by
  rw [List.take_add_one, found, totalSize_append]
  exact congrArg _ (totalSize_singleton f)

theorem totalSize_take_le (families : List Family) (i : Nat) :
    totalSize (families.take i) ≤ totalSize families := by
  conv => rhs; rw [← List.take_append_drop i families]
  rw [totalSize_append]
  exact Nat.le_add_right _ _

theorem totalSize_take_mono (families : List Family) {i j : Nat} (le : i ≤ j) :
    totalSize (families.take i) ≤ totalSize (families.take j) := by
  have within := totalSize_take_le (families.take j) i
  rwa [List.take_take, Nat.min_eq_left le] at within

/-- Every number below the size of some families lies in the block of one of
them. -/
theorem exists_block_of_lt {families : List Family} {k : Nat} (below : k < totalSize families) :
    ∃ (i : Nat) (f : Family), families[i]? = some f ∧ totalSize (families.take i) ≤ k ∧
      k < totalSize (families.take i) + f.size := by
  induction families using List.reverseRecOn with
  | nil => exact absurd below (Nat.not_lt_zero k)
  | append_singleton front f ih =>
      by_cases inFront : k < totalSize front
      · obtain ⟨i, g, found, lower, upper⟩ := ih inFront
        have position := (List.getElem?_eq_some_iff.mp found).1
        refine ⟨i, g, ?_, ?_⟩
        · rw [List.getElem?_append_left position]
          exact found
        · rw [List.take_append_of_le_length (Nat.le_of_lt position)]
          exact ⟨lower, upper⟩
      · rw [totalSize_append, totalSize_singleton] at below
        refine ⟨front.length, f, ?_, ?_⟩
        · rw [List.getElem?_append_right (Nat.le_refl _), Nat.sub_self]
          rfl
        · rw [List.take_left]
          exact ⟨Nat.not_lt.mp inFront, below⟩

end Family

/-! ## Well-formed variables -/

namespace Variables

/-- What the variables of a problem have in common, whatever has been done with
them. -/
structure WellFormed (a : Variables) : Prop where
  forest : a.equalities.Forest
  names_nodup : (a.families.map Family.name).Nodup
  /-- A family begins where those declared before it end. -/
  base_eq : ∀ ⦃i f⦄, a.families[i]? = some f → f.base = Family.totalSize (a.families.take i)
  size_eq : a.size = Family.totalSize a.families
  /-- Values that are held are those of all variables. -/
  length_values : ∀ ⦃values⦄, a.values = some values → values.length = a.size

variable {a : Variables} {name : Text} {coordinates : List Int} {code : Int}

theorem wellFormed_empty : ({} : Variables).WellFormed where
  forest := Equalities.forest_empty
  names_nodup := List.nodup_nil
  base_eq := by simp
  size_eq := rfl
  length_values := by simp

/-- No family has a name that is not declared. -/
theorem declares_eq_false_iff : a.declares name = false ↔ ∀ f ∈ a.families, f.name ≠ name := by
  simp [declares]

theorem mem_of_family_eq_ok {f : Family} (found : a.family name = .ok f) :
    f ∈ a.families ∧ f.name = name := by
  unfold family at found
  split at found
  · rename_i g first
    cases found
    exact ⟨List.mem_of_find?_eq_some first, by simpa using List.find?_some first⟩
  · contradiction

namespace WellFormed

/-- A new family that begins after the last code fits in. -/
theorem append (wellFormed : a.WellFormed) {f : Family} (isNew : a.declares f.name = false)
    (base : f.base = a.size) : (a.append f).WellFormed where
  forest := wellFormed.forest
  names_nodup := by
    have newName : f.name ∉ a.families.map Family.name := by
      intro nameMem
      obtain ⟨g, familyMem, sameName⟩ := List.mem_map.mp nameMem
      exact declares_eq_false_iff.mp isNew g familyMem sameName
    rw [Variables.append, List.map_append, List.map_singleton]
    exact List.nodup_append_comm.mp (List.nodup_cons.mpr ⟨newName, wellFormed.names_nodup⟩)
  base_eq := by
    intro i g found
    rcases Nat.lt_or_ge i a.families.length with before | after
    · rw [Variables.append, List.getElem?_append_left before] at found
      rw [Variables.append, List.take_append_of_le_length (Nat.le_of_lt before)]
      exact wellFormed.base_eq found
    · rw [Variables.append, List.getElem?_append_right after,
        List.getElem?_singleton] at found
      split at found
      · rename_i last
        cases found
        have position : i = a.families.length := by omega
        rw [base, Variables.append, position, List.take_left, wellFormed.size_eq]
      · contradiction
  size_eq := by
    rw [Variables.append, wellFormed.size_eq, Family.totalSize_append, Family.totalSize_singleton]
  length_values := by simp [Variables.append]

variable (wellFormed : a.WellFormed)

include wellFormed

/-- Where there is a literal on a declared variable there is a family. -/
theorem families_ne_nil {lits : List Int}
    (declared : ∀ lit ∈ lits, lit ≠ 0 ∧ lit.natAbs ≤ a.size) (litsNe : lits ≠ []) :
    a.families ≠ [] := by
  intro noFamilies
  have empty : a.size = 0 := by
    rw [wellFormed.size_eq, noFamilies]
    rfl
  obtain ⟨lit, literalMem⟩ := List.exists_mem_of_ne_nil lits litsNe
  have range := declared lit literalMem
  omega

theorem family_eq_ok_iff {f : Family} : a.family name = .ok f ↔ f ∈ a.families ∧ f.name = name := by
  constructor
  · exact mem_of_family_eq_ok
  · rintro ⟨familyMem, rfl⟩
    unfold family
    split
    · rename_i g first
      have otherMem := List.mem_of_find?_eq_some first
      have sameName : g.name = f.name := by simpa using List.find?_some first
      rw [List.inj_on_of_nodup_map wellFormed.names_nodup otherMem familyMem sameName]
    · rename_i missing
      simpa using List.find?_eq_none.mp missing f familyMem

/-- The block of a family ends before the block of a later one begins. -/
theorem base_add_size_le {i j : Nat} {f g : Family} (found : a.families[i]? = some f)
    (otherFound : a.families[j]? = some g) (earlier : i < j) : f.base + f.size ≤ g.base := by
  rw [wellFormed.base_eq found, wellFormed.base_eq otherFound,
    ← Family.totalSize_take_succ found]
  exact Family.totalSize_take_mono a.families earlier

/-- Different families have blocks without a common code. -/
theorem eq_of_common_code {f g : Family} (familyMem : f ∈ a.families) (otherMem : g ∈ a.families)
    (inBlock : f.base < code ∧ code ≤ f.base + f.size)
    (inOther : g.base < code ∧ code ≤ g.base + g.size) : f = g := by
  obtain ⟨i, found⟩ := List.getElem?_of_mem familyMem
  obtain ⟨j, otherFound⟩ := List.getElem?_of_mem otherMem
  rcases Nat.lt_trichotomy i j with earlier | rfl | later
  · have apart := wellFormed.base_add_size_le found otherFound earlier
    omega
  · exact Option.some.inj (found.symm.trans otherFound)
  · have apart := wellFormed.base_add_size_le otherFound found later
    omega

theorem base_add_size_le_size {f : Family} (familyMem : f ∈ a.families) :
    f.base + f.size ≤ a.size := by
  obtain ⟨i, found⟩ := List.getElem?_of_mem familyMem
  rw [wellFormed.base_eq found, wellFormed.size_eq, ← Family.totalSize_take_succ found]
  exact Family.totalSize_take_le a.families (i + 1)

end WellFormed

/-! ## Codes -/

/-- Whether there is a variable at some coordinates under a name. -/
def HasVariable (a : Variables) (name : Text) (coordinates : List Int) : Prop :=
  ∃ f ∈ a.families, f.name = name ∧ Family.InRange f.dimensions coordinates

theorem checkCoordinates_eq_ok_iff {dimensions : List Nat} {checked : Unit} :
    checkCoordinates name dimensions coordinates = .ok checked ↔
      ∀ e ∈ coordinates.zip dimensions, 0 ≤ e.1 ∧ e.1 < e.2 := by
  have inside : ∀ e : Int × Nat, ¬ (decide (e.1 < 0) || decide ((e.2 : Int) ≤ e.1)) = true ↔
      0 ≤ e.1 ∧ e.1 < e.2 := by
    intro e
    simp only [Bool.or_eq_true, decide_eq_true_eq]
    omega
  unfold checkCoordinates
  dsimp only
  split
  · rename_i noneOutside
    refine iff_of_true rfl ?_
    intro e pairMem
    obtain ⟨i, found⟩ := List.getElem?_of_mem pairMem
    have numbered : (e, i) ∈ (coordinates.zip dimensions).zipIdx :=
      List.mem_zipIdx_iff_getElem?.mpr found
    exact (inside e).mp (List.find?_eq_none.mp noneOutside (e, i) numbered)
  · rename_i c d position outside
    refine iff_of_false (by simp) ?_
    intro allInside
    have numbered := List.mem_of_find?_eq_some outside
    have pairMem := List.mem_of_getElem? (List.mem_zipIdx_iff_getElem?.mp numbered)
    have isOutside := List.find?_some outside
    exact (inside (c, d)).mpr (allInside _ pairMem) isOutside

/-- The code of a variable is its row-major index in its family, counted from
the code after those before the family. -/
theorem codeOf_eq_ok_iff : a.codeOf name coordinates = .ok code ↔
    ∃ f, a.family name = .ok f ∧ Family.InRange f.dimensions coordinates ∧
      code = f.base + f.flatIndex coordinates + 1 := by
  rw [codeOf, Outcome.bind_eq_ok_iff]
  apply exists_congr
  intro f
  apply and_congr_right
  intro _
  rw [Family.inRange_iff_zip]
  by_cases sameLength : coordinates.length = f.dimensions.length
  · rw [if_neg (not_not_intro sameLength), Outcome.bind_eq_ok_iff]
    simp only [checkCoordinates_eq_ok_iff, Outcome.pure_eq_ok_iff, sameLength, true_and,
      exists_const, eq_comm (a := code)]
  · rw [if_pos sameLength]
    simp [sameLength]

theorem codeOf_eq {f : Family} (found : a.family name = .ok f)
    (inRange : Family.InRange f.dimensions coordinates) :
    a.codeOf name coordinates = .ok (f.base + f.flatIndex coordinates + 1) :=
  codeOf_eq_ok_iff.mpr ⟨f, found, inRange, rfl⟩

/-- The codes of a family are in its block. -/
theorem flatIndex_range {f : Family} (inRange : Family.InRange f.dimensions coordinates) :
    0 ≤ f.flatIndex coordinates ∧ f.flatIndex coordinates < f.size :=
  Family.indexIn_range inRange

/-- The codes of a family grow with the lexicographic order of the
coordinates. -/
theorem codeOf_lt_codeOf_iff {others : List Int} {otherCode : Int}
    (coded : a.codeOf name coordinates = .ok code)
    (otherCoded : a.codeOf name others = .ok otherCode) :
    code < otherCode ↔ coordinates < others := by
  obtain ⟨f, found, inRange, rfl⟩ := codeOf_eq_ok_iff.mp coded
  obtain ⟨g, otherFound, otherInRange, rfl⟩ := codeOf_eq_ok_iff.mp otherCoded
  cases found.symm.trans otherFound
  rw [← Family.indexIn_lt_iff inRange otherInRange, Family.flatIndex, Family.flatIndex]
  omega

namespace WellFormed

variable (wellFormed : a.WellFormed)

include wellFormed

/-- There is a code exactly for the coordinates of a variable. -/
theorem exists_codeOf_eq_iff :
    (∃ code, a.codeOf name coordinates = .ok code) ↔ a.HasVariable name coordinates := by
  simp only [codeOf_eq_ok_iff, wellFormed.family_eq_ok_iff, HasVariable]
  constructor
  · rintro ⟨_, f, ⟨familyMem, sameName⟩, inRange, _⟩
    exact ⟨f, familyMem, sameName, inRange⟩
  · rintro ⟨f, familyMem, sameName, inRange⟩
    exact ⟨_, f, ⟨familyMem, sameName⟩, inRange, rfl⟩

/-- The codes of a family are the block of numbers after those of the families
before it. -/
theorem codes_eq_block {i : Nat} {f : Family} (found : a.families[i]? = some f) :
    {code | ∃ coordinates, a.codeOf f.name coordinates = .ok code} =
      {code : Int | Family.totalSize (a.families.take i) < code ∧
        code ≤ Family.totalSize (a.families.take i) + f.size} := by
  have familyFound : a.family f.name = .ok f :=
    wellFormed.family_eq_ok_iff.mpr ⟨List.mem_of_getElem? found, rfl⟩
  rw [← wellFormed.base_eq found]
  ext code
  constructor
  · rintro ⟨coordinates, coded⟩
    obtain ⟨g, otherFound, inRange, rfl⟩ := codeOf_eq_ok_iff.mp coded
    cases familyFound.symm.trans otherFound
    have range := flatIndex_range inRange
    constructor <;> omega
  · rintro ⟨lower, upper⟩
    have below : (code - f.base - 1).toNat < f.dimensions.prod := by
      have size : f.size = f.dimensions.prod := rfl
      omega
    obtain ⟨coordinates, inRange, index⟩ := Family.exists_indexIn_eq _ below
    refine ⟨coordinates, codeOf_eq_ok_iff.mpr ⟨f, familyFound, inRange, ?_⟩⟩
    rw [Family.flatIndex, index]
    omega

/-- Codes count from one to the number of variables. -/
theorem codeOf_range (coded : a.codeOf name coordinates = .ok code) : 1 ≤ code ∧ code ≤ a.size := by
  obtain ⟨f, found, inRange, rfl⟩ := codeOf_eq_ok_iff.mp coded
  have range := flatIndex_range inRange
  have within := wellFormed.base_add_size_le_size (mem_of_family_eq_ok found).1
  omega

/-- Different variables have different codes. -/
theorem codeOf_inj {other : Text} {others : List Int}
    (coded : a.codeOf name coordinates = .ok code)
    (otherCoded : a.codeOf other others = .ok code) : name = other ∧ coordinates = others := by
  obtain ⟨f, found, inRange, rfl⟩ := codeOf_eq_ok_iff.mp coded
  obtain ⟨g, otherFound, otherInRange, sameCode⟩ := codeOf_eq_ok_iff.mp otherCoded
  obtain ⟨familyMem, rfl⟩ := mem_of_family_eq_ok found
  obtain ⟨otherMem, rfl⟩ := mem_of_family_eq_ok otherFound
  have range := flatIndex_range inRange
  have otherRange := flatIndex_range otherInRange
  have inBlock : f.base < f.base + f.flatIndex coordinates + 1 ∧
      f.base + f.flatIndex coordinates + 1 ≤ f.base + f.size := by omega
  obtain rfl := wellFormed.eq_of_common_code familyMem otherMem inBlock (by omega)
  have sameIndex : f.flatIndex coordinates = f.flatIndex others := by omega
  exact ⟨rfl, Family.indexIn_inj inRange otherInRange sameIndex⟩

/-- Every number up to that of the variables is the code of exactly one
variable. -/
theorem codeOf_bijOn :
    Set.BijOn (fun v => a.codeOf v.1 v.2) {v : Text × List Int | a.HasVariable v.1 v.2}
      (Except.ok '' {code : Int | 1 ≤ code ∧ code ≤ a.size}) := by
  refine ⟨?within, ?injective, ?onto⟩
  case within =>
    rintro ⟨name, coordinates⟩ hasVariable
    obtain ⟨code, coded⟩ := wellFormed.exists_codeOf_eq_iff.mpr hasVariable
    exact ⟨code, wellFormed.codeOf_range coded, coded.symm⟩
  case injective =>
    rintro ⟨name, coordinates⟩ hasVariable ⟨other, others⟩ otherHasVariable sameCode
    obtain ⟨code, coded⟩ := wellFormed.exists_codeOf_eq_iff.mpr hasVariable
    obtain ⟨rfl, rfl⟩ := wellFormed.codeOf_inj coded (sameCode.symm.trans coded)
    rfl
  case onto =>
    rintro _ ⟨code, ⟨lower, upper⟩, rfl⟩
    have below : (code - 1).toNat < Family.totalSize a.families := by
      rw [← wellFormed.size_eq]
      omega
    obtain ⟨i, f, found, atLeast, lessThan⟩ := Family.exists_block_of_lt below
    have inBlock : code ∈ {code | ∃ coordinates, a.codeOf f.name coordinates = .ok code} := by
      rw [wellFormed.codes_eq_block found]
      constructor <;> omega
    obtain ⟨coordinates, coded⟩ := inBlock
    exact ⟨(f.name, coordinates), wellFormed.exists_codeOf_eq_iff.mp ⟨code, coded⟩, coded⟩

end WellFormed

end Variables

end Clausal
