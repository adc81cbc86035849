import Clausal.Proofs.Bits
import Clausal.Proofs.Variables.Decode

/-!
# Packing values

A vector of literals that have values is read as the number that these values
spell, modulo `2 ^ 32`.  Where the held values are those of a valuation, so is
this number.
-/

namespace Clausal.Variables

variable {a : Variables} {s : Valuation} {lits : List Int}

/-- Shifting a bit in keeps the lowest thirty-two bits. -/
theorem shiftIn_mod (n : Nat) (b : Bool) :
    shiftIn (n % Bits.wordBound) b = (2 * n + b.toNat) % Bits.wordBound := by
  unfold shiftIn Bits.wordBound
  cases b with
  | false => simp
  | true => simp; omega

section

variable {values bits : List Bool}

/-- Reading on from the lowest bits of a number gives the lowest bits of what is
read on from the number. -/
theorem foldlM_shiftIn_eq (read : lits.mapM a.literalValue = .ok bits) (n : Nat) :
    lits.foldlM (fun n lit => do pure (shiftIn n (← a.literalValue lit))) (n % Bits.wordBound) =
      .ok (bits.foldl (fun n b => 2 * n + b.toNat) n % Bits.wordBound) := by
  induction lits generalizing bits n with
  | nil =>
      cases read
      rfl
  | cons lit lits ih =>
      obtain ⟨b, rest, first, others, rfl⟩ := Outcome.mapM_cons_eq_ok_iff.mp read
      rw [List.foldlM_cons, first, List.foldl_cons, ← ih others, ← shiftIn_mod]
      rfl

/-- Packing gives the lowest thirty-two bits of the number that the values
spell. -/
theorem pack_eq_of_mapM (held : a.values = some values)
    (read : lits.mapM a.literalValue = .ok bits) :
    a.pack lits = .ok (Bits.number bits % Bits.wordBound) := by
  rw [pack, heldValues_eq held]
  exact foldlM_shiftIn_eq read 0

example : ({ size := 3, values := some [true, false, true] } : Variables).pack [1, 2, -3] =
    .ok 4 := by
  decide +kernel

end

namespace Shows

variable (held : a.Shows s)

include held

theorem mapM_literalValue_eq (declared : ∀ lit ∈ lits, lit ≠ 0 ∧ lit.natAbs ≤ a.size) :
    lits.mapM a.literalValue = .ok (lits.map (Literal.holds s)) :=
  Outcome.mapM_eq_ok_map fun lit literalMem =>
    held.literalValue_eq (declared lit literalMem).1 (declared lit literalMem).2

theorem pack_eq_mod (declared : ∀ lit ∈ lits, lit ≠ 0 ∧ lit.natAbs ≤ a.size) :
    a.pack lits = .ok (Bits.number (lits.map (Literal.holds s)) % Bits.wordBound) :=
  pack_eq_of_mapM held (held.mapM_literalValue_eq declared)

/-- Of at most thirty-two bits none is lost. -/
theorem pack_eq (declared : ∀ lit ∈ lits, lit ≠ 0 ∧ lit.natAbs ≤ a.size)
    (fits : lits.length ≤ 32) : a.pack lits = .ok (Bits.number (lits.map (Literal.holds s))) := by
  have below := Bits.number_lt (lits.map (Literal.holds s))
  have bounded := Bits.span_le_wordBound fits
  rw [List.length_map] at below
  rw [held.pack_eq_mod declared, Nat.mod_eq_of_lt (by omega)]

end Shows

end Clausal.Variables
