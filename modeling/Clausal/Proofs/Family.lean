import Mathlib.Data.List.Forall2
import Mathlib.Tactic.Ring
import Clausal.Family

/-!
# Coordinates and their row-major index

The coordinates of a family are the digits of a mixed-radix numeral, the first
one counting most.  So the index of some coordinates is below the size of the
family, it grows with the lexicographic order of the coordinates, and every
number below the size is the index of some coordinates.
-/

namespace Clausal.Family

/-- Coordinates that lie within some dimensions: one for each, not negative and
below it. -/
def InRange (dimensions : List Nat) (coordinates : List Int) : Prop :=
  List.Forall₂ (fun (c : Int) (d : Nat) => 0 ≤ c ∧ c < d) coordinates dimensions

variable {dimensions : List Nat} {coordinates others : List Int}

theorem InRange.length_eq (inRange : InRange dimensions coordinates) :
    coordinates.length = dimensions.length :=
  List.Forall₂.length_eq inRange

theorem inRange_cons {d : Nat} {c : Int} :
    InRange (d :: dimensions) (c :: coordinates) ↔
      (0 ≤ c ∧ c < d) ∧ InRange dimensions coordinates :=
  List.forall₂_cons

/-- Coordinates lie within some dimensions when there are as many of them and
none lies outside its own. -/
theorem inRange_iff_zip : InRange dimensions coordinates ↔
    coordinates.length = dimensions.length ∧
      ∀ e ∈ coordinates.zip dimensions, 0 ≤ e.1 ∧ e.1 < e.2 := by
  rw [InRange, List.forall₂_iff_zip, Prod.forall]

/-- A last coordinate is one more coordinate within a last dimension. -/
theorem inRange_append_singleton {d : Nat} {c : Int} :
    InRange (dimensions ++ [d]) (coordinates ++ [c]) ↔
      InRange dimensions coordinates ∧ 0 ≤ c ∧ c < d := by
  constructor
  · intro inRange
    induction coordinates generalizing dimensions with
    | nil =>
        cases dimensions with
        | nil => exact ⟨.nil, (inRange_cons.mp inRange).1⟩
        | cons e dimensions => simpa using inRange.length_eq
    | cons b coordinates ih =>
        cases dimensions with
        | nil => simpa using inRange.length_eq
        | cons e dimensions =>
            obtain ⟨first, others⟩ := inRange_cons.mp inRange
            obtain ⟨rest, last⟩ := ih others
            exact ⟨inRange_cons.mpr ⟨first, rest⟩, last⟩
  · rintro ⟨inRange, last⟩
    exact List.rel_append inRange (.cons last .nil)

/-! ## The index as a numeral -/

/-- Reading on from an index shifts it by the product of the other dimensions. -/
theorem foldl_eq_mul_prod_add_indexIn (inRange : InRange dimensions coordinates) (index : Int) :
    (dimensions.zip coordinates).foldl (fun index (d, c) => index * d + c) index =
      index * dimensions.prod + indexIn dimensions coordinates := by
  induction inRange generalizing index with
  | nil => simp [indexIn]
  | cons _ _ ih =>
      rw [indexIn, List.zip_cons_cons, List.foldl_cons, List.foldl_cons, ih, ih,
        List.prod_cons, Int.natCast_mul]
      ring

/-- The first coordinate counts as much as the others can index. -/
theorem indexIn_cons (inRange : InRange dimensions coordinates) (d : Nat) (c : Int) :
    indexIn (d :: dimensions) (c :: coordinates) =
      c * dimensions.prod + indexIn dimensions coordinates := by
  have first : 0 * (d : Int) + c = c := by omega
  rw [indexIn, List.zip_cons_cons, List.foldl_cons, foldl_eq_mul_prod_add_indexIn inRange]
  simp only [first]

/-- A last coordinate is added to the others shifted by its dimension. -/
theorem indexIn_append_singleton (sameLength : coordinates.length = dimensions.length) (d : Nat)
    (c : Int) : indexIn (dimensions ++ [d]) (coordinates ++ [c]) =
      indexIn dimensions coordinates * d + c := by
  rw [indexIn, List.zip_append sameLength.symm, List.foldl_append]
  rfl

/-- The index of coordinates within their dimensions is below the product of
the dimensions. -/
theorem indexIn_range (inRange : InRange dimensions coordinates) :
    0 ≤ indexIn dimensions coordinates ∧
      indexIn dimensions coordinates < dimensions.prod := by
  induction inRange with
  | nil => simp [indexIn]
  | @cons c d coordinates dimensions digit others ih =>
      rw [indexIn_cons others, List.prod_cons, Int.natCast_mul]
      have upper : (c + 1) * dimensions.prod ≤ (d : Int) * dimensions.prod :=
        Int.mul_le_mul_of_nonneg_right digit.2 (Int.natCast_nonneg _)
      have lower : 0 ≤ c * dimensions.prod := Int.mul_nonneg digit.1 (Int.natCast_nonneg _)
      rw [Int.add_mul, Int.one_mul] at upper
      omega

/-- The index grows with the lexicographic order of the coordinates. -/
theorem indexIn_lt_of_lt (inRange : InRange dimensions coordinates)
    (otherInRange : InRange dimensions others) (smaller : coordinates < others) :
    indexIn dimensions coordinates < indexIn dimensions others := by
  induction inRange generalizing others with
  | nil =>
      cases otherInRange
      exact absurd smaller (List.lt_irrefl [])
  | @cons c d coordinates dimensions digit rest ih =>
      cases otherInRange with
      | @cons b _ others _ otherDigit otherRest =>
          rw [indexIn_cons rest, indexIn_cons otherRest]
          rcases List.cons_lt_cons_iff.mp smaller with first | ⟨rfl, later⟩
          · have upper := (indexIn_range rest).2
            have lower := (indexIn_range otherRest).1
            have step : (c + 1) * dimensions.prod ≤ b * (dimensions.prod : Int) :=
              Int.mul_le_mul_of_nonneg_right first (Int.natCast_nonneg _)
            rw [Int.add_mul, Int.one_mul] at step
            omega
          · have below := ih otherRest later
            omega

theorem indexIn_lt_iff (inRange : InRange dimensions coordinates)
    (otherInRange : InRange dimensions others) :
    indexIn dimensions coordinates < indexIn dimensions others ↔ coordinates < others := by
  constructor
  · intro below
    by_contra notSmaller
    rcases List.le_iff_lt_or_eq.mp (List.not_lt.mp notSmaller) with larger | rfl
    · have above := indexIn_lt_of_lt otherInRange inRange larger
      omega
    · omega
  · exact indexIn_lt_of_lt inRange otherInRange

/-- Coordinates within some dimensions are told apart by their index. -/
theorem indexIn_inj (inRange : InRange dimensions coordinates)
    (otherInRange : InRange dimensions others)
    (sameIndex : indexIn dimensions coordinates = indexIn dimensions others) :
    coordinates = others := by
  have notSmaller := mt (indexIn_lt_iff inRange otherInRange).mpr (by omega)
  have notLarger := mt (indexIn_lt_iff otherInRange inRange).mpr (by omega)
  exact List.le_antisymm (List.not_lt.mp notLarger) (List.not_lt.mp notSmaller)

/-- Every number below the product of some dimensions is the index of some
coordinates within them: the quotient by the product of the other dimensions is
the first one, and the remainder gives the rest. -/
theorem exists_indexIn_eq (index : Nat) (below : index < dimensions.prod) :
    ∃ coordinates, InRange dimensions coordinates ∧ indexIn dimensions coordinates = index := by
  induction dimensions generalizing index with
  | nil =>
      have zero : index = 0 := by simpa using below
      exact ⟨[], .nil, by rw [zero]; rfl⟩
  | cons d dimensions ih =>
      rw [List.prod_cons] at below
      have positive : 0 < dimensions.prod := by
        by_contra isZero
        have zero : dimensions.prod = 0 := by omega
        simp [zero] at below
      obtain ⟨rest, restInRange, restIndex⟩ :=
        ih (index % dimensions.prod) (Nat.mod_lt index positive)
      have digit : index / dimensions.prod < d := (Nat.div_lt_iff_lt_mul positive).mpr below
      have digitInRange : 0 ≤ ((index / dimensions.prod : Nat) : Int) ∧
          ((index / dimensions.prod : Nat) : Int) < d :=
        ⟨Int.natCast_nonneg _, Int.ofNat_lt.mpr digit⟩
      refine ⟨(index / dimensions.prod : Nat) :: rest,
        inRange_cons.mpr ⟨digitInRange, restInRange⟩, ?_⟩
      rw [indexIn_cons restInRange, restIndex]
      have divided := Nat.div_add_mod' index dimensions.prod
      exact_mod_cast divided

end Clausal.Family
