import Mathlib.Algebra.BigOperators.Fin
import Mathlib.Data.Nat.ModEq
import Clausal.Proofs.Variables.Pack

/-!
# Places of packed literals

In the number that a vector of bits spells each bit counts a power of two, given
by how many bits follow.  So what comes in front of the last thirty-two bits
counts a multiple of `2 ^ 32`, and packing, which keeps a remainder by `2 ^ 32`,
depends on the last thirty-two literals only.  Packing one vector after another
shifts the first number by the length of the second vector.
-/

namespace Clausal

namespace Bits

/-- Each bit counts the power of two given by the number of bits behind it. -/
theorem number_eq_sum (bits : List Bool) :
    number bits = ∑ i : Fin bits.length, bits[i].toNat * 2 ^ (bits.length - 1 - i) := by
  induction bits with
  | nil => rfl
  | cons b rest ih =>
      have shifted : ∀ i : Fin rest.length,
          rest.length + 1 - 1 - (i.succ : Nat) = rest.length - 1 - i := by
        intro i
        rw [Fin.val_succ]
        omega
      rw [number_cons, span, Nat.one_shiftLeft, ih]
      simp only [List.length_cons]
      rw [Fin.sum_univ_succ]
      simp only [shifted]
      rfl

/-- Bits in front of others are shifted by the number of those. -/
theorem number_append (bits others : List Bool) :
    number (bits ++ others) = number bits * 2 ^ others.length + number others := by
  rw [number, List.foldl_append, foldl_eq_mul_span_add_number, span, Nat.one_shiftLeft]
  rfl

/-- Of both numbers only the lowest bits matter for the lowest bits of the whole. -/
theorem number_append_mod (bits others : List Bool) :
    number (bits ++ others) % wordBound =
      (number bits % wordBound * 2 ^ others.length + number others % wordBound) % wordBound := by
  have shifted := (Nat.mod_modEq (number bits) wordBound).mul_right (2 ^ others.length)
  rw [number_append]
  exact (shifted.add (Nat.mod_modEq (number others) wordBound)).symm

/-- The last thirty-two bits of a vector spell the lowest bits of its number. -/
theorem number_drop_mod (bits : List Bool) :
    number (bits.drop (bits.length - 32)) % wordBound = number bits % wordBound := by
  by_cases short : bits.length ≤ 32
  · rw [Nat.sub_eq_zero_of_le short, List.drop_zero]
  · have last : (bits.drop (bits.length - 32)).length = 32 := by
      rw [List.length_drop]
      omega
    have power : wordBound = 2 ^ 32 := by decide
    conv => rhs; rw [← List.take_append_drop (bits.length - 32) bits]
    rw [number_append, last, power, Nat.mul_add_mod_self_right]

end Bits

namespace Variables

variable {a : Variables} {values bits : List Bool} {lits xs ys : List Int}

/-- Literals on variables that have values have values. -/
theorem exists_mapM_literalValue_eq (held : a.values = some values)
    (assigned : ∀ lit ∈ lits, lit ≠ 0 ∧ lit.natAbs ≤ values.length) :
    ∃ bits, lits.mapM a.literalValue = .ok bits := by
  apply Outcome.exists_mapM_eq_ok
  intro lit literalMem
  obtain ⟨litNe, within⟩ := assigned lit literalMem
  have position : lit.natAbs - 1 < values.length := by omega
  exact ⟨_, literalValue_eq held litNe (List.getElem?_eq_getElem position)⟩

/-- Packing adds up the values by their places. -/
theorem exists_pack_eq_sum (held : a.values = some values)
    (read : lits.mapM a.literalValue = .ok bits) :
    ∃ value : Fin lits.length → Bool, (∀ i, a.literalValue lits[i] = .ok (value i)) ∧
      a.pack lits = .ok ((∑ i, (value i).toNat * 2 ^ (lits.length - 1 - i)) % 2 ^ 32) := by
  have sameLength := Outcome.length_eq_of_mapM read
  refine ⟨fun i => bits[i], fun i => Outcome.getElem_of_mapM read _ _, ?_⟩
  rw [pack_eq_of_mapM held read, Bits.number_eq_sum, ← Fintype.sum_equiv (finCongr sameLength)]
  · rfl
  · intro i
    exact congrArg (fun n => bits[i].toNat * 2 ^ (n - 1 - (i : Nat))) sameLength

/-- The last thirty-two literals decide what a vector is packed to. -/
theorem pack_drop (held : a.values = some values) (read : lits.mapM a.literalValue = .ok bits) :
    a.pack (lits.drop (lits.length - 32)) = a.pack lits := by
  rw [pack_eq_of_mapM held read, pack_eq_of_mapM held (Outcome.mapM_drop read _),
    Outcome.length_eq_of_mapM read, Bits.number_drop_mod]

/-- Packing goes on from the number of a first vector with a second one. -/
theorem exists_pack_append_eq (held : a.values = some values) {others : List Bool}
    (read : xs.mapM a.literalValue = .ok bits)
    (othersRead : ys.mapM a.literalValue = .ok others) :
    ∃ first second, a.pack xs = .ok first ∧ a.pack ys = .ok second ∧
      a.pack (xs ++ ys) = .ok ((first * 2 ^ ys.length + second) % 2 ^ 32) := by
  refine ⟨_, _, pack_eq_of_mapM held read, pack_eq_of_mapM held othersRead, ?_⟩
  rw [pack_eq_of_mapM held (Outcome.mapM_append read othersRead), Bits.number_append_mod,
    Outcome.length_eq_of_mapM othersRead]
  rfl

/-- A vector of any length on variables that have values is packed to the sum of
the values times the powers of two of their places, modulo `2 ^ 32`.  Its last
thirty-two literals are packed to the same number.  Where it consists of two
vectors its number is that of the first one, shifted by the length of the second
one, plus that of the second one. -/
theorem pack_places_spec (held : a.values = some values)
    (assigned : ∀ lit ∈ lits, lit ≠ 0 ∧ lit.natAbs ≤ values.length) :
    (∃ value : Fin lits.length → Bool, (∀ i, a.literalValue lits[i] = .ok (value i)) ∧
      a.pack lits = .ok ((∑ i, (value i).toNat * 2 ^ (lits.length - 1 - i)) % 2 ^ 32)) ∧
    a.pack lits = a.pack (lits.drop (lits.length - 32)) ∧
    ∀ xs ys, xs ++ ys = lits → ∃ first second, a.pack xs = .ok first ∧
      a.pack ys = .ok second ∧ a.pack lits = .ok ((first * 2 ^ ys.length + second) % 2 ^ 32) := by
  obtain ⟨bits, read⟩ := exists_mapM_literalValue_eq held assigned
  refine ⟨exists_pack_eq_sum held read, (pack_drop held read).symm, ?_⟩
  rintro xs ys rfl
  obtain ⟨firstAssigned, secondAssigned⟩ := List.forall_mem_append.mp assigned
  obtain ⟨front, frontRead⟩ := exists_mapM_literalValue_eq held firstAssigned
  obtain ⟨back, backRead⟩ := exists_mapM_literalValue_eq held secondAssigned
  exact exists_pack_append_eq held frontRead backRead

/-- Thirty-four literals on two variables, with both signs.  The first two do not
count, and a vector of two literals can be packed before the last ones. -/
theorem pack_places_spec_long :
    let declared := (({} : Variables).declareFrom "x" (.ofInts [2])).1
    let a := (declared.decode [2, -1]).toOption.getD {}
    let last : List Int := List.replicate 30 1 ++ [-1, -2]
    a.values = some [false, true] ∧ a.pack last = .ok 2 ∧
      a.pack ([2, -1] ++ last) = .ok 2 ∧
      ∃ first second, a.pack [2, -1] = .ok first ∧ a.pack last = .ok second ∧
        a.pack ([2, -1] ++ last) = .ok ((first * 2 ^ 32 + second) % 2 ^ 32) := by
  intro declared a last
  have held : a.values = some [false, true] := by decide +kernel
  have assigned : ∀ lit ∈ [2, -1] ++ last, lit ≠ 0 ∧ lit.natAbs ≤ [false, true].length := by
    decide
  obtain ⟨-, same, joined⟩ := pack_places_spec held assigned
  have packed : a.pack last = .ok 2 := by decide +kernel
  exact ⟨held, packed, same.trans packed, joined [2, -1] last rfl⟩

end Variables

end Clausal
