import Clausal.Clause
import Clausal.Proofs.Outcome

/-!
# Clauses of literals

However a clause is made from a list of integers, it is made exactly when none
of them is zero, and then its literals are that list.  A clause says that some
literal of the list is true.
-/

namespace Clausal

/-! ## Literals -/

namespace Literal

/-- Some integers are literals when none of them is zero. -/
theorem mapM_require_eq_ok_iff {lits checked : List Int} :
    lits.mapM require = .ok checked ↔ (∀ lit ∈ lits, lit ≠ 0) ∧ checked = lits := by
  induction lits generalizing checked with
  | nil => simp [pure, Except.pure, eq_comm]
  | cons lit lits ih =>
      rw [List.mapM_cons, Outcome.bind_eq_ok_iff, List.forall_mem_cons]
      constructor
      · rintro ⟨first, required, others⟩
        obtain ⟨rest, made, whole⟩ := Outcome.bind_eq_ok_iff.mp others
        obtain ⟨litNe, rfl⟩ := require_eq_ok_iff.mp required
        obtain ⟨restNe, rfl⟩ := ih.mp made
        exact ⟨⟨litNe, restNe⟩, (Outcome.pure_eq_ok_iff.mp whole).symm⟩
      · rintro ⟨⟨litNe, restNe⟩, rfl⟩
        exact ⟨lit, require_of_ne_zero litNe,
          Outcome.bind_eq_ok_iff.mpr ⟨lits, ih.mpr ⟨restNe, rfl⟩, rfl⟩⟩

theorem eq_zeroLiteral_of_require {lit : Int} {e : Error} (refused : require lit = .error e) :
    e = .zeroLiteral := by
  rw [require] at refused
  split at refused
  · exact (Except.error.inj refused).symm
  · contradiction

/-- A zero among some integers is refused, wherever it is. -/
theorem mapM_require_of_mem_zero {lits : List Int} (zeroMem : 0 ∈ lits) :
    lits.mapM require = .error .zeroLiteral :=
  Outcome.mapM_eq_error ⟨0, zeroMem, rfl⟩ fun _ _ _ => eq_zeroLiteral_of_require

theorem negate_eq_ok_iff {lit opposite : Int} :
    negate lit = .ok opposite ↔ lit ≠ 0 ∧ opposite = -lit := by
  rw [negate, Outcome.map_eq_ok_iff]
  constructor
  · rintro ⟨l, required, rfl⟩
    obtain ⟨litNe, rfl⟩ := require_eq_ok_iff.mp required
    exact ⟨litNe, rfl⟩
  · rintro ⟨litNe, rfl⟩
    exact ⟨lit, require_of_ne_zero litNe, rfl⟩

/-- The code of a variable is true when the variable is. -/
theorem holds_natCast (s : Valuation) {v : Nat} (positive : 0 < v) : holds s (v : Int) = s v := by
  rw [holds, if_pos (Int.natCast_pos.mpr positive), Int.natAbs_natCast]

/-- A valuation makes one of some literals true. -/
def AnyHolds (s : Valuation) (lits : List Int) : Prop :=
  ∃ lit ∈ lits, holds s lit = true

theorem anyHolds_iff {s : Valuation} {lits : List Int} :
    AnyHolds s lits ↔ lits.any (holds s) = true :=
  List.any_eq_true.symm

end Literal

/-! ## Checked lists -/

namespace Record

theorem below_eq_ok_iff {α : Type} {step : PathStep} {outcome : Checked α} {a : α} :
    below step outcome = .ok a ↔ outcome = .ok a := by
  cases outcome with
  | error flaws => simp [below]
  | ok b => rfl

/-- A list is checked when each of its elements is. -/
theorem eachFrom_eq_ok_iff {α : Type} {check : Value → Checked α} {i : Nat} {vs : List Value}
    {as : List α} : eachFrom check i vs = .ok as ↔ vs.map check = as.map .ok := by
  induction vs generalizing i as with
  | nil => cases as <;> simp [eachFrom]
  | cons v vs ih =>
      rw [eachFrom, List.map_cons]
      constructor
      · intro checked
        split at checked
        · rename_i first rest
          cases checked
          rw [below_eq_ok_iff.mp first, ih.mp rest, List.map_cons]
        · contradiction
      · intro equal
        cases as with
        | nil => simp at equal
        | cons a as =>
            injection equal with first rest
            rw [below_eq_ok_iff.mpr first, ih.mpr rest]

theorem nonzero_int_eq_ok_iff {n : Int} {a : { n : Int // n ≠ 0 }} :
    nonzero (.int n) = .ok a ↔ a.val = n := by
  have checked : nonzero (.int n) =
      if h : n ≠ 0 then .ok ⟨n, h⟩ else complain .zeroLiteral := rfl
  rw [checked]
  by_cases nNe : n ≠ 0
  · rw [dif_pos nNe, Except.ok.injEq, Subtype.ext_iff]
    exact eq_comm
  · rw [dif_neg nNe]
    constructor
    · intro checked
      cases checked
    · rintro rfl
      exact absurd a.property nNe

theorem natural_natCast (n : Nat) : natural (.int n) = .ok n := by
  change (if (n : Int) < 0 then complain .negative else .ok (n : Int).toNat) = _
  rw [if_neg (Int.not_lt.mpr (Int.natCast_nonneg n)), Int.toNat_natCast]

theorem positive_int_eq_ok_iff {n : Int} {a : { n : Nat // 0 < n }} :
    positive (.int n) = .ok a ↔ (a.val : Int) = n := by
  have checked : positive (.int n) =
      if h : 0 < n.toNat then .ok ⟨n.toNat, h⟩ else complain .notPositive := rfl
  have isPositive := a.property
  rw [checked]
  by_cases nPos : 0 < n.toNat
  · rw [dif_pos nPos, Except.ok.injEq, Subtype.ext_iff]
    dsimp only
    omega
  · rw [dif_neg nPos]
    constructor
    · intro impossible
      cases impossible
    · omega

/-- The flaws of a list are those of its elements, in order. -/
theorem flaws_eachFrom_cons {α : Type} (check : Value → Checked α) (i : Nat) (v : Value)
    (vs : List Value) :
    flaws (eachFrom check i (v :: vs)) =
      flaws (below (.index i) (check v)) ++ flaws (eachFrom check (i + 1) vs) := by
  rw [eachFrom]
  cases below (.index i) (check v) <;> cases eachFrom check (i + 1) vs <;> rfl

/-- The flaws of a list of integers as literals: one for each zero, at its place. -/
def zeroFlaws (i : Nat) (lits : List Int) : List Flaw :=
  ((lits.zipIdx i).filter fun e => e.1 = 0).map fun e => ⟨[.index e.2], .zeroLiteral⟩

theorem zeroFlaws_ne_nil {i : Nat} {lits : List Int} (zeroMem : 0 ∈ lits) :
    zeroFlaws i lits ≠ [] := by
  rw [← List.zipIdx_map_fst i lits] at zeroMem
  obtain ⟨e, placeMem, isZero⟩ := List.mem_map.mp zeroMem
  have kept : e ∈ (lits.zipIdx i).filter fun e => e.1 = 0 :=
    List.mem_filter.mpr ⟨placeMem, decide_eq_true isZero⟩
  exact List.ne_nil_of_mem (List.mem_map_of_mem kept)

theorem flaws_eachFrom_nonzero (i : Nat) (lits : List Int) :
    flaws (eachFrom nonzero i (lits.map .int)) = zeroFlaws i lits := by
  induction lits generalizing i with
  | nil => rfl
  | cons lit lits ih =>
      have rest := ih (i + 1)
      rw [List.map_cons, flaws_eachFrom_cons, rest, zeroFlaws, zeroFlaws, List.zipIdx_cons]
      by_cases isZero : lit = 0
      · subst isZero
        rw [List.filter_cons_of_pos (by simp), List.map_cons]
        rfl
      · obtain ⟨a, checked⟩ : ∃ a, nonzero (.int lit) = .ok a :=
          ⟨⟨lit, isZero⟩, nonzero_int_eq_ok_iff.mpr rfl⟩
        rw [List.filter_cons_of_neg (by simpa using isZero), checked]
        rfl

/-- A list of integers is checked when each of them is, where the value of what a
check gives is the integer that it was given. -/
theorem list_ofInts_eq_ok_iff {α : Type} {check : Value → Checked α} {value : α → Int}
    (each : ∀ n a, check (.int n) = .ok a ↔ value a = n) {ns : List Int} {as : List α} :
    list check (.ofInts ns) = .ok as ↔ as.map value = ns := by
  rw [Value.ofInts, list, eachFrom_eq_ok_iff]
  induction ns generalizing as with
  | nil => cases as <;> simp
  | cons n ns ih =>
      cases as with
      | nil => simp
      | cons a as =>
          simp only [List.map_cons, List.cons.injEq, ih, each]

/-- A list of integers is checked when none of them is zero. -/
theorem list_nonzero_ofInts_eq_ok_iff {lits : List Int} {as : List { n : Int // n ≠ 0 }} :
    list nonzero (.ofInts lits) = .ok as ↔ as.map Subtype.val = lits :=
  list_ofInts_eq_ok_iff fun _ _ => nonzero_int_eq_ok_iff

end Record

namespace Clause

/-! ## Making clauses -/

theorem ofLiterals_of_mem_zero {lits : List Int} (zeroMem : 0 ∈ lits) :
    ofLiterals lits = .error .zeroLiteral :=
  dif_neg fun nonzero => nonzero 0 zeroMem rfl

theorem eq_zeroLiteral_of_ofLiterals {lits : List Int} {e : Error}
    (refused : ofLiterals lits = .error e) : e = .zeroLiteral := by
  rw [ofLiterals] at refused
  split at refused
  · contradiction
  · exact (Except.error.inj refused).symm

@[simp]
theorem ofInts_eq_ok_iff {lits : List Int} {c : Clause} :
    ofInts lits = .ok c ↔ c.literals = lits := by
  constructor
  · intro made
    cases checked : Record.list Record.nonzero (.ofInts lits) with
    | error flaws =>
        rw [ofInts, check, checked] at made
        cases made
    | ok as =>
        rw [ofInts, check, checked] at made
        cases made
        exact Record.list_nonzero_ofInts_eq_ok_iff.mp checked
  · rintro rfl
    have checked : Record.list Record.nonzero (.ofInts c.literals) =
        .ok (c.literals.attachWith _ c.nonzero) := by
      rw [Record.list_nonzero_ofInts_eq_ok_iff]
      simp
    rw [ofInts, check, checked]
    change Except.ok _ = Except.ok c
    congr 1
    simp

/-- A clause of integers with a zero among them is refused with the flaws of all
zeros. -/
theorem ofInts_of_mem_zero {lits : List Int} (zeroMem : 0 ∈ lits) :
    ofInts lits = .error (.flawed (Record.zeroFlaws 0 lits)) := by
  have found := Record.flaws_eachFrom_nonzero 0 lits
  cases checked : Record.eachFrom Record.nonzero 0 (lits.map .int) with
  | ok as =>
      rw [checked] at found
      exact absurd found.symm (Record.zeroFlaws_ne_nil zeroMem)
  | error flaws =>
      rw [checked] at found
      have listed : Record.list Record.nonzero (.ofInts lits) = .error flaws := checked
      rw [ofInts, check, listed, ← found]
      rfl

/-! ## Meaning -/

theorem holds_eq_true_iff {s : Valuation} {c : Clause} :
    c.holds s = true ↔ Literal.AnyHolds s c.literals :=
  Literal.anyHolds_iff.symm

end Clause

end Clausal
