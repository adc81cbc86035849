import Clausal.Proofs.Problem.Codes

/-!
# Values of literals that are equal

When an answer is taken, literals that resolve to the same one get the same
value.  Every later step keeps this but one: making literals equal does not look
at the values that are held.  So the values of a problem agree with its
equalities after every run that makes literals equal only while no values are
held, and after any other run exactly when some valuation shows the values and
meets the recorded pairs.
-/

namespace Clausal

namespace Variables

/-- Declared literals that resolve to the same one have the same value. -/
def Agrees (a : Variables) : Prop :=
  ∀ x y, x ≠ 0 → y ≠ 0 → x.natAbs ≤ a.size → y.natAbs ≤ a.size →
    a.resolve x = a.resolve y → a.literalValue x = a.literalValue y

variable {a after : Variables} {pairs : List (Int × Int)} {s : Valuation}

/-- Without values there is nothing to disagree about. -/
theorem agrees_of_values_eq_none (unassigned : a.values = none) : a.Agrees := by
  intro x y _ _ _ _ _
  simp [literalValue, heldValues, unassigned, bind, Except.bind]

/-- Values that are held are those of some valuation. -/
theorem WellFormed.exists_shows (wellFormed : a.WellFormed) (assigned : a.isAssigned = true) :
    ∃ s, a.Shows s := by
  obtain ⟨values, held⟩ := Option.isSome_iff_exists.mp assigned
  refine ⟨fun v => values[v - 1]?.getD false, ?_⟩
  rw [Shows, held, Option.some.injEq]
  apply List.ext_getElem
  · rw [List.length_map, List.length_range', wellFormed.length_values held]
  · intro i below _
    simp [below]

/-- The values of a valuation that respects the equalities agree. -/
theorem Shows.agrees (held : a.Shows s) (forest : a.equalities.Forest)
    (respected : a.equalities.RespectedBy s) : a.Agrees := by
  intro x y xNe yNe xDeclared yDeclared same
  rw [resolve, resolve, forest.resolve_eq xNe, forest.resolve_eq yNe, Except.ok.injEq] at same
  rw [held.literalValue_eq xNe xDeclared, held.literalValue_eq yNe yDeclared,
    ← forest.holds_root respected x, same, forest.holds_root respected y]

/-- Values that agree are also those that the roots of the variables have,
because the root of a declared variable is declared. -/
theorem Agrees.shows_throughRoots (agrees : a.Agrees) (forest : a.equalities.Forest)
    (held : a.Shows s) : a.Shows (a.equalities.throughRoots s) := by
  rw [Shows, held, Option.some.injEq]
  apply List.map_congr_left
  intro v codeMem
  have range := List.mem_range'_1.mp codeMem
  have codeNe : (v : Int) ≠ 0 := by omega
  have codeDeclared : (v : Int).natAbs ≤ a.size := by omega
  have rootNe : a.equalities.root v ≠ 0 := mt forest.root_eq_zero_iff.mp codeNe
  have rootDeclared := Nat.le_trans (forest.natAbs_root_le v) codeDeclared
  have sameRoot : a.resolve v = a.resolve (a.equalities.root v) := by
    rw [resolve, resolve, forest.resolve_eq codeNe, forest.resolve_eq rootNe, forest.root_root]
  have sameValue := agrees _ _ codeNe rootNe codeDeclared rootDeclared sameRoot
  rw [held.literalValue_eq codeNe codeDeclared, held.literalValue_eq rootNe rootDeclared,
    Literal.holds_natCast s (by omega), Except.ok.injEq] at sameValue
  exact sameValue

/-- Held values agree with the equalities when some valuation shows them and
respects the equalities. -/
theorem WellFormed.agrees_iff (wellFormed : a.WellFormed) (assigned : a.isAssigned = true) :
    a.Agrees ↔ ∃ s, a.Shows s ∧ a.equalities.RespectedBy s := by
  have forest := wellFormed.forest
  constructor
  · intro agrees
    obtain ⟨s, held⟩ := wellFormed.exists_shows assigned
    exact ⟨_, agrees.shows_throughRoots forest held, forest.respectedBy_throughRoots s⟩
  · rintro ⟨s, held, respected⟩
    exact held.agrees forest respected

/-! ## Steps -/

/-- Taking an answer makes the values agree with the equalities, whether or not
earlier values did. -/
theorem agrees_of_decode {raw : List Int} (forest : a.equalities.Forest)
    (decoded : a.decode raw = .ok after) : after.Agrees := by
  have sameEqualities : after.equalities = a.equalities := by
    obtain ⟨-, -, values, -, rfl⟩ := decode_eq_ok_iff.mp decoded
    rfl
  apply (shows_of_decode forest decoded).agrees
  · rw [sameEqualities]
    exact forest
  · rw [sameEqualities]
    exact forest.respectedBy_throughRoots (answered raw)

/-- A step keeps the agreement unless it makes literals equal while values are
held. -/
theorem Becomes.agrees (becomes : a.Becomes pairs after) (forest : a.equalities.Forest)
    (early : pairs = [] ∨ a.values = none) (agrees : a.Agrees) : after.Agrees := by
  cases becomes with
  | counted n => exact agrees
  | declared n f _ _ => exact agrees_of_values_eq_none rfl
  | linked pairs m made =>
      rcases early with rfl | unassigned
      · cases made
        exact agrees
      · exact agrees_of_values_eq_none unassigned
  | taken raw _ decoded => exact agrees_of_decode forest decoded

end Variables

namespace Problem

/-! ## Along a run -/

/-- Every command of a list that makes literals equal is carried out while no
values are held. -/
def EquatesEarly (p : Problem) : List Command → Prop
  | [] => True
  | c :: rest =>
      (c.equated = [] ∨ p.pool.isAssigned = false) ∧ (p.perform c).1.EquatesEarly rest

/-- A run that makes literals equal only while no values are held keeps the
agreement. -/
theorem agrees_of_equatesEarly {p : Problem} {commands : List Command}
    (early : p.EquatesEarly commands) (wellFormed : p.pool.WellFormed)
    (agrees : p.pool.Agrees) : (p.run commands).pool.Agrees := by
  induction commands generalizing p with
  | nil => exact agrees
  | cons c rest ih =>
      have becomes := p.becomes_perform c
      have first : p.recordedBy c = [] ∨ p.pool.values = none := by
        rcases early.1 with equatesNone | unassigned
        · exact Or.inl (p.recordedBy_of_equated_eq_nil equatesNone)
        · exact Or.inr (Option.isNone_iff_eq_none.mp (Option.isSome_eq_false_iff.mp unassigned))
      exact ih early.2 (becomes.wellFormed wellFormed)
        (becomes.agrees wellFormed.forest first agrees)

/-- After any run that leaves values, they agree with the equalities exactly
when some valuation shows them and makes the two sides of every recorded pair
equal.  They do if every command that makes literals equal was carried out while
no values were held, and they do again after the next answer.  The recorded pairs
are those of the commands that succeeded, if all literals that are to be made equal
can be written. -/
theorem agrees_run_spec (settings : Settings) (commands : List Command) {p : Problem}
    (reached : (fresh settings).run commands = p) :
    (p.pool.isAssigned = true →
      (p.pool.Agrees ↔ ∃ s : Valuation, p.pool.Shows s ∧
        ∀ e ∈ (fresh settings).recorded commands, Literal.holds s e.1 = Literal.holds s e.2)) ∧
    ((fresh settings).EquatesEarly commands → p.pool.Agrees) ∧
    (∀ raw after, p.pool.decode raw = .ok after → after.Agrees) ∧
    ((∀ c ∈ commands, Equalities.LegiblePairs c.equated) →
      (fresh settings).recorded commands = (fresh settings).accepted commands) := by
  have wellFormed := wellFormed_run settings commands
  have represents := represents_run settings commands
  rw [reached] at wellFormed represents
  refine ⟨?held, ?early, ?answer, recorded_eq_accepted Equalities.forest_empty⟩
  case held =>
    intro assigned
    simp only [wellFormed.agrees_iff assigned, represents.respectedBy_iff]
  case early =>
    intro early
    rw [← reached]
    exact agrees_of_equatesEarly early Variables.wellFormed_empty
      (Variables.agrees_of_values_eq_none rfl)
  case answer =>
    intro raw after decoded
    exact Variables.agrees_of_decode wellFormed.forest decoded

/-- Equalities before an answer, around a family that drops the first one. -/
theorem agrees_run_spec_early :
    let commands : List Command :=
      [.declareFamily "x" (.ofInts [3]), .declareEqual 3 (-1), .decode [1, 3],
        .declareFamily "y" (.ofInts [1]), .assertXorWithConstant [4] [2] 1, .decode [-1, 2]]
    (fresh {}).EquatesEarly commands ∧ ((fresh {}).run commands).pool.Agrees := by
  intro commands
  have early : (fresh {}).EquatesEarly commands :=
    ⟨Or.inl rfl, Or.inr (by decide +kernel), Or.inl rfl, Or.inl rfl,
      Or.inr (by decide +kernel), Or.inl rfl, trivial⟩
  exact ⟨early, (agrees_run_spec {} commands rfl).2.1 early⟩

/-- Two variables that an answer told apart keep their values when they are made
equal afterwards. -/
theorem not_agrees_declareEqual_late :
    let p := (fresh {}).run
      [.declareFamily "x" (.ofInts [2]), .decode [1, -2], .declareEqual 1 2]
    p.pool.isAssigned = true ∧ p.pool.resolve 1 = p.pool.resolve 2 ∧
      p.pool.literalValue 1 = .ok true ∧ p.pool.literalValue 2 = .ok false ∧
        ¬ p.pool.Agrees := by
  intro p
  have sameRoot : p.pool.resolve 1 = p.pool.resolve 2 := by decide +kernel
  have first : p.pool.literalValue 1 = .ok true := by decide +kernel
  have second : p.pool.literalValue 2 = .ok false := by decide +kernel
  refine ⟨by decide +kernel, sameRoot, first, second, ?_⟩
  intro agrees
  have equal := agrees 1 2 (by decide) (by decide) (by decide +kernel) (by decide +kernel) sameRoot
  rw [first, second] at equal
  exact absurd equal (by decide)

end Problem

end Clausal
