import Clausal.Proofs.Clause
import Clausal.Proofs.Equalities.Declaration
import Clausal.Proofs.Variables.Change

/-!
# What values an answer gives

An answer gives a variable the sign of the last literal on it.  Then every
variable takes the value of its root, and because a root is smaller than what
leads to it, this value is one that the answer gives.  So afterwards each
literal has the value that the answer gives to its root.
-/

namespace Clausal.Variables

/-! ## The literals of an answer -/

/-- The last literal of an answer on a variable, before the first zero. -/
def lastLiteral? (raw : List Int) (v : Nat) : Option Int :=
  (beforeZero raw).reverse.find? fun lit => lit.natAbs = v

/-- The valuation that an answer gives: a variable has the sign of the last
literal on it and is false without one. -/
def answered (raw : List Int) : Valuation := fun v =>
  (lastLiteral? raw v).any fun lit => 0 < lit

theorem ne_zero_of_mem_beforeZero {raw : List Int} {lit : Int}
    (literalMem : lit ∈ beforeZero raw) : lit ≠ 0 := by
  have kept := List.all_eq_true.mp List.all_takeWhile lit literalMem
  exact of_decide_eq_true kept

theorem beforeZero_eq_self {raw : List Int} (rawNe : ∀ lit ∈ raw, lit ≠ 0) :
    beforeZero raw = raw := by
  have whole : (raw ++ []).takeWhile (· ≠ 0) = raw ++ [].takeWhile (· ≠ 0) :=
    List.takeWhile_append_of_pos fun lit literalMem => decide_eq_true (rawNe lit literalMem)
  rw [List.takeWhile_nil, List.append_nil] at whole
  exact whole

theorem beforeZero_cons {lit : Int} (litNe : lit ≠ 0) (raw : List Int) :
    beforeZero (lit :: raw) = lit :: beforeZero raw :=
  List.takeWhile_cons_of_pos (decide_eq_true litNe)

/-- Literals in front of the first zero count. -/
theorem beforeZero_append_cons {front : List Int} {lit : Int} (noZero : 0 ∉ front)
    (litNe : lit ≠ 0) (back : List Int) :
    beforeZero (front ++ lit :: back) = front ++ lit :: beforeZero back := by
  induction front with
  | nil => exact beforeZero_cons litNe back
  | cons first front ih =>
      have firstNe : first ≠ 0 := (List.ne_of_not_mem_cons noZero).symm
      rw [List.cons_append, beforeZero_cons firstNe, ih (List.not_mem_of_not_mem_cons noZero),
        List.cons_append]

/-- Where the literals that count split around one of them, so does the answer. -/
theorem exists_of_beforeZero_eq {raw front kept : List Int} {lit : Int}
    (split : beforeZero raw = front ++ lit :: kept) :
    ∃ back, raw = front ++ lit :: back ∧ 0 ∉ front ∧ beforeZero back = kept := by
  have counts : ∀ l ∈ front ++ lit :: kept, l ≠ 0 := by
    rw [← split]
    exact fun l => ne_zero_of_mem_beforeZero
  have noZero : 0 ∉ front := fun zeroMem => counts 0 (List.mem_append_left _ zeroMem) rfl
  have whole : raw = front ++ lit :: (kept ++ raw.dropWhile (· ≠ 0)) := by
    have parts : beforeZero raw ++ raw.dropWhile (· ≠ 0) = raw := List.takeWhile_append_dropWhile
    rw [split, List.append_assoc, List.cons_append] at parts
    exact parts.symm
  refine ⟨_, whole, noZero, ?_⟩
  have again := beforeZero_append_cons noZero (counts lit (by simp))
    (kept ++ raw.dropWhile (· ≠ 0))
  rw [← whole, split, List.append_cancel_left_eq, List.cons.injEq] at again
  exact again.2.symm

/-- An answer without zero makes a literal true whose opposite it does not
have. -/
theorem holds_answered_of_mem {raw : List Int} {lit : Int} (rawNe : ∀ l ∈ raw, l ≠ 0)
    (literalMem : lit ∈ raw) (oppositeNotMem : -lit ∉ raw) :
    Literal.holds (answered raw) lit = true := by
  have last : lastLiteral? raw lit.natAbs = some lit := by
    rw [lastLiteral?, beforeZero_eq_self rawNe]
    cases found : raw.reverse.find? fun l => l.natAbs = lit.natAbs with
    | none =>
        have missed := List.find?_eq_none.mp found lit (List.mem_reverse.mpr literalMem)
        simp at missed
    | some l =>
        have otherMem : l ∈ raw := List.mem_reverse.mp (List.mem_of_find?_eq_some found)
        have sameVariable : l.natAbs = lit.natAbs := by simpa using List.find?_some found
        rcases Int.natAbs_eq_natAbs_iff.mp sameVariable with rfl | rfl
        · rfl
        · exact absurd otherMem oppositeNotMem
  rw [Literal.holds, answered, last]
  by_cases positive : 0 < lit <;> simp [positive]

/-- Zero is no variable, and no answer makes it true. -/
theorem answered_zero (raw : List Int) : answered raw 0 = false := by
  have none : lastLiteral? raw 0 = none := by
    apply List.find?_eq_none.mpr
    intro lit literalMem
    simpa using ne_zero_of_mem_beforeZero (List.mem_reverse.mp literalMem)
  rw [answered, none]
  rfl

/-- After the last literal on a variable, those that count are on others. -/
theorem exists_of_lastLiteral?_eq_some {raw : List Int} {v : Nat} {lit : Int}
    (last : lastLiteral? raw v = some lit) :
    lit.natAbs = v ∧ ∃ earlier later, beforeZero raw = earlier ++ lit :: later ∧
      ∀ l ∈ later, l.natAbs ≠ v := by
  obtain ⟨onVariable, later, earlier, reversed, others⟩ := List.find?_eq_some_iff_append.mp last
  have split : beforeZero raw = earlier.reverse ++ lit :: later.reverse := by
    have turned := congrArg List.reverse reversed
    simpa using turned
  refine ⟨of_decide_eq_true onVariable, earlier.reverse, later.reverse, split, ?_⟩
  intro l literalMem
  simpa using others l (List.mem_reverse.mp literalMem)

/-- An answer makes a variable true when the last literal on it before the first
zero is the variable itself. -/
theorem answered_eq_true_iff {raw : List Int} {v : Nat} (positive : 0 < v) :
    answered raw v = true ↔ ∃ front back, raw = front ++ (v : Int) :: back ∧ 0 ∉ front ∧
      ∀ lit ∈ beforeZero back, lit.natAbs ≠ v := by
  rw [answered, Option.any_eq_true]
  constructor
  · rintro ⟨lit, last, litPositive⟩
    obtain ⟨sameVariable, earlier, later, split, others⟩ := exists_of_lastLiteral?_eq_some last
    obtain ⟨back, whole, noZero, kept⟩ := exists_of_beforeZero_eq split
    have itself : lit = v := by
      have litPos := of_decide_eq_true litPositive
      omega
    exact ⟨earlier, back, itself ▸ whole, noZero, kept ▸ others⟩
  · rintro ⟨front, back, rfl, noZero, others⟩
    have litNe : (v : Int) ≠ 0 := by omega
    refine ⟨v, ?_, by simpa using positive⟩
    rw [lastLiteral?, beforeZero_append_cons noZero litNe, List.find?_eq_some_iff_append]
    refine ⟨by simp, (beforeZero back).reverse, front.reverse, by simp, ?_⟩
    intro l literalMem
    simpa using others l (List.mem_reverse.mp literalMem)

/-- Literals taken one after the other, the first of the list last, give a
position the sign of the first literal on its variable, if there is one. -/
theorem getElem?_foldr_assign {lits : List Int} (litsNe : ∀ lit ∈ lits, lit ≠ 0)
    (values : List Bool) (i : Nat) :
    (lits.foldr (fun lit values => assign values lit) values)[i]? = values[i]?.map fun b =>
      ((lits.find? fun lit => lit.natAbs = i + 1).map fun lit => decide (0 < lit)).getD b := by
  induction lits with
  | nil => simp
  | cons lit lits ih =>
      have litNe := litsNe lit List.mem_cons_self
      have rest := ih fun other later => litsNe other (List.mem_cons_of_mem lit later)
      rw [List.foldr_cons, assign, List.getElem?_set', rest, List.find?_cons]
      by_cases here : lit.natAbs = i + 1
      · have position : lit.natAbs - 1 = i := by omega
        cases values[i]? <;> simp [here]
      · have elsewhere : lit.natAbs - 1 ≠ i := by omega
        simp [here, elsewhere]

/-- The last literal on a declared variable is among the literals that count. -/
theorem find?_counted {raw : List Int} {size v : Nat} (declared : v ≤ size) :
    (((beforeZero raw).filter fun lit => lit.natAbs ≤ size).reverse.find? fun lit =>
      lit.natAbs = v) = lastLiteral? raw v := by
  rw [← List.filter_reverse, List.find?_filter, lastLiteral?]
  congr 1
  funext lit
  by_cases onVariable : lit.natAbs = v
  · simp [onVariable, declared]
  · simp [onVariable]

/-- The values that an answer gives by itself. -/
theorem directValues_eq (size : Nat) (raw : List Int) :
    directValues size raw = (List.range' 1 size).map (answered raw) := by
  have counted : ∀ lit ∈ ((beforeZero raw).filter fun lit => lit.natAbs ≤ size).reverse,
      lit ≠ 0 := by
    intro lit literalMem
    have kept := (List.mem_filter.mp (List.mem_reverse.mp literalMem)).1
    exact ne_zero_of_mem_beforeZero kept
  apply List.ext_getElem?
  intro i
  rw [directValues, List.foldl_eq_foldr_reverse, getElem?_foldr_assign counted]
  by_cases below : i < size
  · rw [find?_counted below, List.getElem?_replicate, if_pos below, List.getElem?_map,
      List.getElem?_range' below, Option.map_some, Option.map_some, answered,
      Nat.one_mul, Nat.add_comm 1 i]
    cases lastLiteral? raw (i + 1) <;> rfl
  · rw [List.getElem?_eq_none (by simpa using below), List.getElem?_eq_none (by simpa using below)]
    rfl

/-! ## Taking the values of roots -/

variable {m : Equalities} {s : Valuation} {size k : Nat}

/-- The values when each variable up to `k` has taken that of its root. -/
def settledUpTo (m : Equalities) (s : Valuation) (size k : Nat) : List Bool :=
  (List.range' 1 size).map fun (code : Nat) =>
    Literal.holds s (if code ≤ k then m.root code else code)

theorem getElem?_settledUpTo {i : Nat} (declared : i < size) :
    (settledUpTo m s size k)[i]? =
      some (Literal.holds s (if i + 1 ≤ k then m.root (i + 1 : Nat) else (i + 1 : Nat))) := by
  rw [settledUpTo, List.getElem?_map, List.getElem?_range' declared, Nat.one_mul,
    Nat.add_comm 1 i, Option.map_some]

/-- Before any variable has taken the value of its root the values are those of
the answer. -/
theorem settledUpTo_zero (m : Equalities) (s : Valuation) (size : Nat) :
    settledUpTo m s size 0 = (List.range' 1 size).map s := by
  apply List.map_congr_left
  intro code codeMem
  have positive := (List.mem_range'_1.mp codeMem).1
  rw [if_neg (by omega), Literal.holds_natCast s (by omega)]

theorem settledUpTo_succ (declared : k < size) :
    settledUpTo m s size (k + 1) =
      (settledUpTo m s size k).set k (Literal.holds s (m.root (k + 1 : Nat))) := by
  apply List.ext_getElem?
  intro i
  rw [List.getElem?_set']
  by_cases below : i < size
  · rw [getElem?_settledUpTo below, getElem?_settledUpTo below]
    by_cases here : k = i
    · subst here
      simp
    · have sameSide : i + 1 ≤ k + 1 ↔ i + 1 ≤ k := by omega
      simp only [sameSide, here, if_false]
  · have elsewhere : k ≠ i := by omega
    rw [if_neg elsewhere, List.getElem?_eq_none, List.getElem?_eq_none]
    · simpa [settledUpTo] using below
    · simpa [settledUpTo] using below

/-- A variable that is its own root keeps its value. -/
theorem settledUpTo_succ_of_root_eq (leaf : m.root (k + 1 : Nat) = (k + 1 : Nat)) :
    settledUpTo m s size (k + 1) = settledUpTo m s size k := by
  apply List.map_congr_left
  intro code _
  by_cases here : code = k + 1
  · rw [here, leaf, ite_self, ite_self]
  · have sameSide : code ≤ k + 1 ↔ code ≤ k := by omega
    simp only [sameSide]

/-- A root that is looked up has the value that the answer gives it. -/
theorem variableValue_root (forest : m.Forest) {lit : Int} (litNe : lit ≠ 0)
    (declared : lit.natAbs ≤ size) :
    variableValue (settledUpTo m s size k) (m.root lit) = .ok (s (m.root lit).natAbs) := by
  have rootNe : m.root lit ≠ 0 := mt forest.root_eq_zero_iff.mp litNe
  have rootLe := forest.natAbs_root_le lit
  have position : (m.root lit).natAbs - 1 + 1 = (m.root lit).natAbs := by omega
  have found : (settledUpTo m s size k)[(m.root lit).natAbs - 1]? =
      some (s (m.root lit).natAbs) := by
    rw [getElem?_settledUpTo (by omega), position, forest.root_natAbs_root, ite_self,
      Literal.holds_natCast s (by omega)]
  rw [variableValue, if_neg rootNe, found]

/-- The next variable takes the value of its root, which is a smaller variable
that keeps its own value. -/
theorem settle_settledUpTo (forest : m.Forest) (declared : k < size) :
    settle m (settledUpTo m s size k) (k + 1) = .ok (settledUpTo m s size (k + 1)) := by
  have codeNe : ((k + 1 : Nat) : Int) ≠ 0 := by omega
  rw [settle, forest.resolve_eq codeNe]
  change (if m.root (k + 1 : Nat) = (k + 1 : Nat) then _ else _) = _
  by_cases leaf : m.root (k + 1 : Nat) = (k + 1 : Nat)
  · rw [if_pos leaf, settledUpTo_succ_of_root_eq leaf]
    rfl
  · have codeLe : ((k + 1 : Nat) : Int).natAbs ≤ size := by omega
    rw [if_neg leaf, variableValue_root forest codeNe codeLe, settledUpTo_succ declared]
    rfl

/-- Every variable takes the value of its root. -/
theorem foldlM_settle (forest : m.Forest) {count : Nat} (declared : k + count ≤ size) :
    (List.range' (k + 1) count).foldlM (settle m) (settledUpTo m s size k) =
      .ok (settledUpTo m s size (k + count)) := by
  induction count generalizing k with
  | zero => rfl
  | succ count ih =>
      rw [List.range'_succ, List.foldlM_cons, settle_settledUpTo forest (by omega)]
      have total : k + (count + 1) = k + 1 + count := by omega
      rw [total]
      exact ih (by omega)

theorem foldlM_settle_all (forest : m.Forest) (s : Valuation) (size : Nat) :
    (List.range' 1 size).foldlM (settle m) ((List.range' 1 size).map s) =
      .ok ((List.range' 1 size).map (m.throughRoots s)) := by
  have settled := foldlM_settle (s := s) forest (Nat.le_of_eq (Nat.zero_add size))
  simp only [Nat.zero_add, settledUpTo_zero] at settled
  rw [settled]
  congr 1
  apply List.map_congr_left
  intro code codeMem
  have declared := (List.mem_range'_1.mp codeMem).2
  rw [if_pos (by omega), Equalities.throughRoots]

/-! ## Values after an answer -/

variable {a after : Variables} {raw : List Int}

/-- With some family, and no more variables than an array can have places, every
answer is taken, and each variable gets the value that the answer gives to its
root. -/
theorem decode_eq (forest : a.equalities.Forest) (families : a.families ≠ [])
    (bounded : a.size < Word.signedBound) (raw : List Int) :
    a.decode raw = .ok { a with
      values := some ((List.range' 1 a.size).map (a.equalities.throughRoots (answered raw))) } := by
  have settled := foldlM_settle_all forest (answered raw) a.size
  rw [← directValues_eq] at settled
  exact decode_eq_ok_iff.mpr ⟨families, bounded, _, settled, rfl⟩

/-- Without a family, or with more variables than an array can have places, no
answer is taken. -/
theorem decode_eq_error (refused : ¬ (a.families ≠ [] ∧ a.size < Word.signedBound))
    (raw : List Int) :
    a.decode raw = .error (if a.families = [] then .noFamilies else .beyondDimension) := by
  rw [decode]
  by_cases noFamilies : a.families = []
  · rw [if_pos (List.isEmpty_iff.mpr noFamilies), if_pos noFamilies]
  · rw [if_neg (mt List.isEmpty_iff.mp noFamilies), if_neg noFamilies]
    exact if_pos (Nat.not_lt.mp fun bounded => refused ⟨noFamilies, bounded⟩)

theorem heldValues_eq {values : List Bool} (held : a.values = some values) :
    a.heldValues = .ok values := by
  rw [heldValues, held]

/-- A literal has the held value of its variable, or the opposite. -/
theorem literalValue_eq {values : List Bool} (held : a.values = some values) {lit : Int}
    (litNe : lit ≠ 0) {b : Bool} (found : values[lit.natAbs - 1]? = some b) :
    a.literalValue lit = .ok (if 0 < lit then b else !b) := by
  apply Outcome.bind_eq_ok_iff.mpr ⟨values, heldValues_eq held, _⟩
  apply Outcome.bind_eq_ok_iff.mpr ⟨lit, Literal.require_of_ne_zero litNe, _⟩
  rw [found]
  rfl

/-- The held values are those of a valuation. -/
def Shows (a : Variables) (s : Valuation) : Prop :=
  a.values = some ((List.range' 1 a.size).map s)

/-- A literal on a declared variable has the value that the valuation gives
it. -/
theorem Shows.literalValue_eq (held : a.Shows s) {lit : Int} (litNe : lit ≠ 0)
    (declared : lit.natAbs ≤ a.size) : a.literalValue lit = .ok (Literal.holds s lit) := by
  have position : 1 + 1 * (lit.natAbs - 1) = lit.natAbs := by omega
  have found : ((List.range' 1 a.size).map s)[lit.natAbs - 1]? = some (s lit.natAbs) := by
    rw [List.getElem?_map, List.getElem?_range' (by omega), position, Option.map_some]
  rw [Variables.literalValue_eq held litNe found]
  rfl

/-- After an answer the values are those that it gives to the roots. -/
theorem shows_of_decode (forest : a.equalities.Forest) (decoded : a.decode raw = .ok after) :
    after.Shows (a.equalities.throughRoots (answered raw)) := by
  obtain ⟨families, bounded, -⟩ := decode_eq_ok_iff.mp decoded
  rw [decode_eq forest families bounded] at decoded
  cases decoded
  rfl

/-- After an answer a literal on a declared variable has the value that the
answer gives to its root. -/
theorem literalValue_of_decode (forest : a.equalities.Forest)
    (decoded : a.decode raw = .ok after) {lit : Int} (litNe : lit ≠ 0)
    (declared : lit.natAbs ≤ a.size) :
    after.literalValue lit = .ok (Literal.holds (answered raw) (a.equalities.root lit)) := by
  have sameSize : after.size = a.size := by
    obtain ⟨-, -, values, -, rfl⟩ := decode_eq_ok_iff.mp decoded
    rfl
  rw [← sameSize] at declared
  rw [(shows_of_decode forest decoded).literalValue_eq litNe declared,
    forest.holds_throughRoots litNe]

end Clausal.Variables
