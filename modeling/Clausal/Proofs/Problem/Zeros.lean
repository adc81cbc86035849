import Clausal.Proofs.Problem.Acceptance
import Clausal.Proofs.Problem.Refusal

/-!
# Zero among the literals of a constraint

A command that is given zero as a literal is refused, and leaves no trace if the
literals that it links can be written.  Most commands look for a zero before
anything else.  Two kinds do not, and there another error may come first.  The
clauses for an equality or a parity are checked as records, and such a check reports
its flaws.  Pairs are linked one after the other, and one that cannot be linked may
stand in front of the zero.
-/

namespace Clausal

open Equalities

/-! ## What commands are given -/

namespace Command

/-- The literals that a command is given to build a constraint on. -/
def literals : Command → List Int
  | .declareEqual x y => [x, y]
  | .declareEqualAll pairs => pairs.flatMap fun e => [e.1, e.2]
  | .appendClause lits => lits
  | .appendClauses clauses => clauses.flatten
  | .assertEqual x y => [x, y]
  | .assertEqualClauses x y => [x, y]
  | .assertXor3 x y z => [x, y, z]
  | .assignInteger lits _ => lits
  | .assertXorWithConstant xs ys _ => xs ++ ys
  | .addImage _ inputs outputs => inputs ++ outputs
  | _ => []

/-- The vectors of a command have the lengths that it asks for, and its constant is
a number of thirty-two bits. -/
def Sized : Command → Prop
  | .assignInteger _ value => 0 ≤ value ∧ value < Bits.wordBound
  | .assertXorWithConstant xs ys constant =>
      xs.length = ys.length ∧ 0 ≤ constant ∧ constant < Bits.wordBound
  | .addImage box inputs outputs =>
      inputs.length = box.inputs ∧ outputs.length = box.outputs
  | _ => True

end Command

/-- All zeros of two vectors are in the first one, where the constant has a one. -/
def ZerosAtOnes (xs ys : List Int) (constant : Int) : Prop :=
  ∀ e ∈ (xs.zip ys).zip (Bits.ofInt xs.length constant), e.1.2 ≠ 0 ∧ (e.1.1 = 0 → e.2 = true)

/-- The other errors with which a command that is given a zero is refused, where
the pairs in `held` have been recorded: the flaws of the first clause that is
checked, or the first two literals that cannot be linked, if no zero comes before
them. -/
inductive Command.RefusedInstead (held : List (Int × Int)) : Command → Error → Prop
  | equality {y : Int} (yNe : y ≠ 0) :
      RefusedInstead held (.assertEqualClauses 0 y) (.flawed (Record.zeroFlaws 0 [0, -y]))
  | parity {x y z : Int} (xNe : x ≠ 0) (zero : y = 0 ∨ z = 0) :
      RefusedInstead held (.assertXor3 x y z) (.flawed (Record.zeroFlaws 0 [-x, y, z]))
  | pairs {front back : List (Int × Int)} {x y : Int} (conflicts : Conflicts held front x y) :
      RefusedInstead held (.declareEqualAll (front ++ (x, y) :: back)) (.oppositeLiterals x y)
  | difference {xs ys : List Int} {constant : Int} {front back : List (Int × Int)} {x y : Int}
      (atOnes : ZerosAtOnes xs ys constant)
      (split : xorEquated xs ys constant = front ++ (x, y) :: back)
      (conflicts : Conflicts held front x y) :
      RefusedInstead held (.assertXorWithConstant xs ys constant) (.oppositeLiterals x y)

theorem Command.RefusedInstead.ne_zeroLiteral {held : List (Int × Int)} {c : Command} {e : Error}
    (instead : c.RefusedInstead held e) : e ≠ .zeroLiteral := by
  cases instead <;> exact Error.noConfusion

theorem Command.RefusedInstead.ne_numberTooLong {held : List (Int × Int)} {c : Command} {e : Error}
    (instead : c.RefusedInstead held e) : e ≠ .numberTooLong := by
  cases instead <;> exact Error.noConfusion

/-! ## Clauses -/

namespace Formula

variable {f : Formula}

theorem appendClause_of_mem_zero {lits : List Int} (zeroMem : 0 ∈ lits) :
    f.appendClause lits = .error .zeroLiteral := by
  rw [appendClause, Clause.ofLiterals_of_mem_zero zeroMem, Outcome.error_bind]

theorem appendClauses_of_mem_zero {clauses : List (List Int)} (zeroMem : 0 ∈ clauses.flatten) :
    f.appendClauses clauses = .error .zeroLiteral := by
  obtain ⟨lits, clauseMem, literalMem⟩ := List.mem_flatten.mp zeroMem
  rw [appendClauses, Outcome.mapM_eq_error
    ⟨lits, clauseMem, Clause.ofLiterals_of_mem_zero literalMem⟩
    fun _ _ _ => Clause.eq_zeroLiteral_of_ofLiterals, Outcome.error_bind]

/-- The opposite of the second literal is taken before the first clause is
checked. -/
theorem assertEqualClauses_of_ne_zero {y : Int} (yNe : y ≠ 0) :
    f.assertEqualClauses 0 y = .error (.flawed (Record.zeroFlaws 0 [0, -y])) := by
  have first : Clause.ofInts [0, -y] = .error (.flawed (Record.zeroFlaws 0 [0, -y])) :=
    Clause.ofInts_of_mem_zero List.mem_cons_self
  rw [assertEqualClauses, Literal.negate_eq_ok_iff.mpr ⟨yNe, rfl⟩, Outcome.ok_bind, first,
    Outcome.error_bind]

/-- The opposite of the first literal is taken before the first clause is
checked. -/
theorem assertXor3_of_ne_zero {x y z : Int} (xNe : x ≠ 0) (zero : y = 0 ∨ z = 0) :
    f.assertXor3 x y z = .error (.flawed (Record.zeroFlaws 0 [-x, y, z])) := by
  have zeroMem : 0 ∈ [-x, y, z] := by
    obtain rfl | rfl := zero <;> simp
  rw [assertXor3, Literal.negate_eq_ok_iff.mpr ⟨xNe, rfl⟩, Outcome.ok_bind,
    Clause.ofInts_of_mem_zero zeroMem, Outcome.error_bind]

theorem assignInteger_of_mem_zero {lits : List Int} {value : Int} (nonnegative : 0 ≤ value)
    (isWord : value < Bits.wordBound) (zeroMem : 0 ∈ lits) :
    f.assignInteger lits value = .error .zeroLiteral := by
  have required : Bits.requireWord .value value = .ok value := if_pos ⟨nonnegative, isWord⟩
  have sameLength : lits.length ≤ (Bits.ofInt lits.length value).length := by
    rw [Bits.length_ofInt]
  rw [← List.map_fst_zip sameLength] at zeroMem
  obtain ⟨⟨lit, bit⟩, pairMem, rfl⟩ := List.mem_map.mp zeroMem
  have units : (lits.zip (Bits.ofInt lits.length value)).reverse.mapM
      (fun pair => unit pair.1 pair.2) = .error .zeroLiteral := by
    apply Outcome.mapM_eq_error
    · refine ⟨_, List.mem_reverse.mpr pairMem, ?_⟩
      cases bit <;> rfl
    · rintro ⟨lit, bit⟩ - other refused
      exact Clause.eq_zeroLiteral_of_ofLiterals refused
  rw [assignInteger, required, Outcome.ok_bind]
  change ((lits.zip (Bits.ofInt lits.length value)).reverse.mapM
    (fun pair => unit pair.1 pair.2) >>= _) = _
  rw [units, Outcome.error_bind]

end Formula

/-- The inputs and outputs of a box are all looked at before any clause is made. -/
theorem Sbox.image_of_mem_zero {box : Sbox} {inputs outputs : List Int}
    (insLength : inputs.length = box.inputs) (outsLength : outputs.length = box.outputs)
    (zeroMem : 0 ∈ inputs ++ outputs) : box.image inputs outputs = .error .zeroLiteral := by
  rw [image, if_neg (not_not_intro insLength), if_neg (not_not_intro outsLength)]
  by_cases inInputs : 0 ∈ inputs
  · rw [Literal.mapM_require_of_mem_zero inInputs, Outcome.error_bind]
  · have inOutputs := (List.mem_append.mp zeroMem).resolve_left inInputs
    have inputsNe : ∀ lit ∈ inputs, lit ≠ 0 := fun lit literalMem =>
      ne_of_mem_of_not_mem literalMem inInputs
    rw [Literal.mapM_require_eq_ok_iff.mpr ⟨inputsNe, rfl⟩, Outcome.ok_bind,
      Literal.mapM_require_of_mem_zero inOutputs, Outcome.error_bind]

/-! ## Pairs -/

namespace Problem

theorem xorPairs_eq {xs ys : List Int} {constant : Int} (sameLength : xs.length = ys.length)
    (nonnegative : 0 ≤ constant) (isWord : constant < Bits.wordBound) :
    xorPairs xs ys constant = ((xs.zip ys).zip (Bits.ofInt xs.length constant)).mapM
      fun ((x, y), bit) => xorPair x y bit := by
  have required : Bits.requireWord .constant constant = .ok constant :=
    if_pos ⟨nonnegative, isWord⟩
  rw [xorPairs, if_neg (not_not_intro sameLength), required, Outcome.ok_bind]

/-- A pair is not made where there is a zero, except for one that is linked to an
opposite. -/
theorem xorPair_eq (x y : Int) (bit : Bool) :
    xorPair x y bit =
      if y ≠ 0 ∧ (x = 0 → bit = true) then .ok (x, if bit then -y else y)
      else .error .zeroLiteral := by
  by_cases yZero : y = 0
  · subst yZero
    rw [if_neg (by simp)]
    cases bit with
    | true => rfl
    | false =>
        by_cases xZero : x = 0
        · subst xZero
          rfl
        · rw [xorPair, if_neg (by simp), Literal.require_of_ne_zero xZero]
          rfl
  · cases bit with
    | true =>
        rw [if_pos ⟨yZero, fun _ => rfl⟩, xorPair, if_pos rfl,
          Literal.negate_eq_ok_iff.mpr ⟨yZero, rfl⟩]
        rfl
    | false =>
        by_cases xZero : x = 0
        · subst xZero
          rw [if_neg (by simp)]
          rfl
        · rw [if_pos ⟨yZero, fun zero => absurd zero xZero⟩, xorPair, if_neg (by simp),
            Literal.require_of_ne_zero xZero, Outcome.ok_bind, Literal.require_of_ne_zero yZero]
          rfl

/-- Where the zeros are all at ones, the pairs are made with them. -/
theorem xorPairs_of_zerosAtOnes {xs ys : List Int} {constant : Int}
    (sameLength : xs.length = ys.length) (nonnegative : 0 ≤ constant)
    (isWord : constant < Bits.wordBound) (atOnes : ZerosAtOnes xs ys constant) :
    xorPairs xs ys constant = .ok (xorEquated xs ys constant) := by
  rw [xorPairs_eq sameLength nonnegative isWord]
  apply Outcome.mapM_eq_ok_map
  rintro ⟨⟨x, y⟩, bit⟩ tripleMem
  exact (xorPair_eq x y bit).trans (if_pos (atOnes _ tripleMem))

theorem xorPairs_of_not_zerosAtOnes {xs ys : List Int} {constant : Int}
    (sameLength : xs.length = ys.length) (nonnegative : 0 ≤ constant)
    (isWord : constant < Bits.wordBound) (elsewhere : ¬ ZerosAtOnes xs ys constant) :
    xorPairs xs ys constant = .error .zeroLiteral := by
  rw [xorPairs_eq sameLength nonnegative isWord]
  apply Outcome.mapM_eq_error
  · simp only [ZerosAtOnes, not_forall] at elsewhere
    obtain ⟨⟨⟨x, y⟩, bit⟩, tripleMem, zero⟩ := elsewhere
    exact ⟨_, tripleMem, (xorPair_eq x y bit).trans (if_neg zero)⟩
  · rintro ⟨⟨x, y⟩, bit⟩ - other refused
    dsimp only at refused
    rw [xorPair_eq] at refused
    split at refused
    · contradiction
    · exact (Except.error.inj refused).symm

/-- A zero that is not noticed when the pairs are made is the left side of one of
them. -/
theorem exists_mem_xorEquated {xs ys : List Int} {constant : Int}
    (sameLength : xs.length = ys.length) (atOnes : ZerosAtOnes xs ys constant)
    (zeroMem : 0 ∈ xs ++ ys) : ∃ e ∈ xorEquated xs ys constant, e.1 = 0 := by
  have bitsLength : (xs.zip ys).length ≤ (Bits.ofInt xs.length constant).length := by
    rw [Bits.length_ofInt, List.length_zip]
    exact Nat.min_le_left _ _
  have triples := List.map_fst_zip bitsLength
  rcases List.mem_append.mp zeroMem with left | right
  · rw [← List.map_fst_zip (Nat.le_of_eq sameLength), ← triples, List.map_map] at left
    obtain ⟨e, tripleMem, zero⟩ := List.mem_map.mp left
    exact ⟨_, List.mem_map_of_mem tripleMem, zero⟩
  · rw [← List.map_snd_zip (Nat.le_of_eq sameLength.symm), ← triples, List.map_map] at right
    obtain ⟨e, tripleMem, zero⟩ := List.mem_map.mp right
    exact absurd zero (atOnes e tripleMem).1

/-! ## Refused commands -/

variable {p : Problem} {held : List (Int × Int)} {c : Command}

/-- A command that cannot be executed is refused. -/
theorem snd_call_of_execute_eq_error {e : Error} (refused : p.execute c = .error e) :
    (p.call c).2 = .error e := by
  have failed : p.effect c = .error e := by
    have mapped := p.map_snd_effect c
    rw [refused] at mapped
    exact Outcome.map_eq_error_iff.mp mapped
  rw [call_eq, failed]

/-- A command is refused.  If the literals that it links can be written, this is for
a zero, or with the error that comes before it if there is one. -/
def RefusesZero (held : List (Int × Int)) (p : Problem) (c : Command) : Prop :=
  ∃ e, p.execute c = .error e ∧ (LegiblePairs c.equated →
    (e = .zeroLiteral ∨ c.RefusedInstead held e) ∧
      ∀ other, c.RefusedInstead held other → e = other)

theorem refusesZero_of_execute (refused : p.execute c = .error .zeroLiteral)
    (never : ∀ other, ¬ c.RefusedInstead held other) : RefusesZero held p c :=
  ⟨.zeroLiteral, refused, fun _ =>
    ⟨Or.inl rfl, fun other instead => absurd instead (never other)⟩⟩

/-- A command that changes the formula is refused for the reason that the formula
cannot be changed. -/
theorem withFormula_eq_error {outcome : Except Error Formula} {e : Error}
    (refused : outcome = .error e) : p.withFormula outcome = .error e := by
  rw [refused]
  rfl

/-- A command that links pairs is refused for the reason that they cannot be
linked, if they can be written. -/
theorem execute_declareEqualAll_eq_error (forest : p.pool.equalities.Forest)
    {pairs : List (Int × Int)} (legible : LegiblePairs pairs) {e : Error}
    (refused : p.pool.equalities.declareAll pairs = .error e) :
    p.execute (.declareEqualAll pairs) = .error e := by
  refine Outcome.map_eq_error_iff.mpr (settled_eq_error_iff.mpr ?_)
  rw [Variables.snd_declareEqualAll, forest.snd_enterAll legible, refused]
  rfl

theorem execute_declareEqual_eq_error {x y : Int} {e : Error}
    (refused : p.pool.equalities.declare x y = .error e) :
    p.execute (.declareEqual x y) = .error e := by
  refine Outcome.map_eq_error_iff.mpr (settled_eq_error_iff.mpr ?_)
  rw [Variables.declareEqual, enter_of_declare_eq_error refused]

/-- A command that links pairs, one of them with a zero, is refused.  If the pairs
can be written, this is at the zero, or at an earlier pair that cannot be linked. -/
theorem refusesZero_of_pairs (represents : p.pool.equalities.Represents held)
    {pairs : List (Int × Int)} (equated : c.equated = pairs)
    (executed : p.execute c = p.execute (.declareEqualAll pairs))
    {e : Int × Int} (pairMem : e ∈ pairs) (zero : e.1 = 0 ∨ e.2 = 0)
    (instead : ∀ other, c.RefusedInstead held other ↔ ∃ front back x y,
      pairs = front ++ (x, y) :: back ∧ Conflicts held front x y ∧
        other = .oppositeLiterals x y) : RefusesZero held p c := by
  cases outcome : p.execute c with
  | ok after =>
      have declared := declareAll_of_execute outcome
      rw [equated] at declared
      have nonzero := (represents.exists_declareAll_eq_iff.mp ⟨_, declared⟩).1 e pairMem
      omega
  | error failure =>
      refine ⟨failure, outcome, fun legible => ?_⟩
      rw [equated] at legible
      rw [executed] at outcome
      have blamed : ∀ {other}, p.pool.equalities.declareAll pairs = .error other →
          failure = other := fun refused => Except.error.inj <| outcome.symm.trans <|
        execute_declareEqualAll_eq_error represents.forest legible refused
      constructor
      · obtain forZero | ⟨x, y, opposite⟩ := represents.declareAll_of_zero legible pairMem zero
        · exact Or.inl (blamed forZero)
        · obtain ⟨front, back, split, conflicts⟩ :=
            (represents.declareAll_eq_oppositeLiterals_iff legible).mp opposite
          exact Or.inr ((instead _).mpr ⟨front, back, x, y, split, conflicts, blamed opposite⟩)
      · intro other refusedInstead
        obtain ⟨front, back, x, y, split, conflicts, rfl⟩ := (instead other).mp refusedInstead
        exact blamed ((represents.declareAll_eq_oppositeLiterals_iff legible).mpr
          ⟨front, back, split, conflicts⟩)

theorem refusesZero_declareEqualAll (represents : p.pool.equalities.Represents held)
    {pairs : List (Int × Int)} (zeroMem : 0 ∈ (Command.declareEqualAll pairs).literals) :
    RefusesZero held p (.declareEqualAll pairs) := by
  obtain ⟨e, pairMem, sideMem⟩ := List.mem_flatMap.mp zeroMem
  have zero : e.1 = 0 ∨ e.2 = 0 := by simpa [eq_comm] using sideMem
  apply refusesZero_of_pairs represents rfl rfl pairMem zero
  intro other
  constructor
  · intro instead
    cases instead with
    | @pairs front back x y conflicts => exact ⟨front, back, x, y, rfl, conflicts, rfl⟩
  · rintro ⟨front, back, x, y, rfl, conflicts, rfl⟩
    exact .pairs conflicts

/-- Making the pairs finds every zero but those at ones, and linking them finds
these. -/
theorem refusesZero_assertXorWithConstant (represents : p.pool.equalities.Represents held)
    {xs ys : List Int} {constant : Int} (sameLength : xs.length = ys.length)
    (nonnegative : 0 ≤ constant) (isWord : constant < Bits.wordBound)
    (zeroMem : 0 ∈ xs ++ ys) : RefusesZero held p (.assertXorWithConstant xs ys constant) := by
  by_cases atOnes : ZerosAtOnes xs ys constant
  · have made := xorPairs_of_zerosAtOnes sameLength nonnegative isWord atOnes
    obtain ⟨e, pairMem, zero⟩ := exists_mem_xorEquated sameLength atOnes zeroMem
    apply refusesZero_of_pairs represents rfl
      (execute_assertXorWithConstant_of_xorPairs made) pairMem (Or.inl zero)
    intro other
    constructor
    · intro instead
      cases instead with
      | @difference _ _ _ front back x y _ split conflicts =>
          exact ⟨front, back, x, y, split, conflicts, rfl⟩
    · rintro ⟨front, back, x, y, split, conflicts, rfl⟩
      exact .difference atOnes split conflicts
  · have refused : p.execute (.assertXorWithConstant xs ys constant) = .error .zeroLiteral := by
      change settled (p.assertXorWithConstant xs ys constant) = _
      rw [assertXorWithConstant_of_xorPairs_eq_error
        (xorPairs_of_not_zerosAtOnes sameLength nonnegative isWord atOnes)]
      rfl
    apply refusesZero_of_execute refused
    intro other instead
    cases instead with
    | difference noticed => exact atOnes noticed

theorem refusesZero_assertEqualClauses {x y : Int} (zero : x = 0 ∨ y = 0) :
    RefusesZero held p (.assertEqualClauses x y) := by
  by_cases yZero : y = 0
  · subst yZero
    have refused : p.formula.assertEqualClauses x 0 = .error .zeroLiteral := rfl
    have executed : p.execute (.assertEqualClauses x 0) = .error .zeroLiteral :=
      withFormula_eq_error refused
    apply refusesZero_of_execute executed
    intro other instead
    cases instead with
    | equality yNe => exact yNe rfl
  · obtain rfl := zero.resolve_right yZero
    refine ⟨_, withFormula_eq_error (Formula.assertEqualClauses_of_ne_zero yZero),
      fun _ => ⟨Or.inr (.equality yZero), ?_⟩⟩
    intro other instead
    cases instead
    rfl

theorem refusesZero_assertXor3 {x y z : Int} (zero : x = 0 ∨ y = 0 ∨ z = 0) :
    RefusesZero held p (.assertXor3 x y z) := by
  by_cases xZero : x = 0
  · subst xZero
    have refused : p.formula.assertXor3 0 y z = .error .zeroLiteral := rfl
    have executed : p.execute (.assertXor3 0 y z) = .error .zeroLiteral :=
      withFormula_eq_error refused
    apply refusesZero_of_execute executed
    intro other instead
    cases instead with
    | parity xNe => exact xNe rfl
  · have later := zero.resolve_left xZero
    refine ⟨_, withFormula_eq_error (Formula.assertXor3_of_ne_zero xZero later),
      fun _ => ⟨Or.inr (.parity xZero later), ?_⟩⟩
    intro other instead
    cases instead
    rfl

/-- A command with a zero is refused for it or with the error that comes before. -/
theorem refusesZero (represents : p.pool.equalities.Represents held) (sized : c.Sized)
    (zeroMem : 0 ∈ c.literals) : RefusesZero held p c := by
  have forest := represents.forest
  cases c with
  | declareEqual x y =>
      have zero : x = 0 ∨ y = 0 := by simpa [Command.literals, eq_comm] using zeroMem
      have refused := execute_declareEqual_eq_error (forest.declare_of_eq_zero zero)
      exact refusesZero_of_execute refused nofun
  | assertEqual x y =>
      have zero : x = 0 ∨ y = 0 := by simpa [Command.literals, eq_comm] using zeroMem
      have refused := execute_declareEqual_eq_error (forest.declare_of_eq_zero zero)
      rw [← execute_assertEqual] at refused
      exact refusesZero_of_execute refused nofun
  | declareEqualAll pairs => exact refusesZero_declareEqualAll represents zeroMem
  | assertXorWithConstant xs ys constant =>
      obtain ⟨sameLength, nonnegative, isWord⟩ := sized
      exact refusesZero_assertXorWithConstant represents sameLength nonnegative isWord zeroMem
  | assertEqualClauses x y =>
      apply refusesZero_assertEqualClauses
      simpa [Command.literals, eq_comm] using zeroMem
  | assertXor3 x y z =>
      apply refusesZero_assertXor3
      simpa [Command.literals, eq_comm] using zeroMem
  | appendClause lits =>
      have refused := Formula.appendClause_of_mem_zero (f := p.formula) zeroMem
      exact refusesZero_of_execute (withFormula_eq_error refused) nofun
  | appendClauses clauses =>
      have refused := Formula.appendClauses_of_mem_zero (f := p.formula) zeroMem
      exact refusesZero_of_execute (withFormula_eq_error refused) nofun
  | assignInteger lits value =>
      obtain ⟨nonnegative, isWord⟩ := sized
      have refused :=
        Formula.assignInteger_of_mem_zero (f := p.formula) nonnegative isWord zeroMem
      exact refusesZero_of_execute (withFormula_eq_error refused) nofun
  | addImage box inputs outputs =>
      have refused : p.execute (.addImage box inputs outputs) = .error .zeroLiteral := by
        rw [execute_addImage, Sbox.image_of_mem_zero sized.1 sized.2 zeroMem]
        rfl
      exact refusesZero_of_execute refused nofun
  | _ => cases zeroMem

/-- A call that is given a zero, in any place and among any literals, is refused
after any run.  If the literals that it links can be written, it leaves the problem
as it was, and says that there is a zero, except where the zero is the first literal
of an equality of clauses, a later one of a parity, or on the left of a pair behind
one that cannot be linked. -/
theorem call_zero_run_spec (settings : Settings) (commands : List Command) {p : Problem}
    (reached : (fresh settings).run commands = p) {c : Command} (sized : c.Sized)
    (zeroMem : 0 ∈ c.literals) :
    ∃ e, (p.call c).2 = .error e ∧ (LegiblePairs c.equated →
      (p.call c).1 = p ∧
      (e = .zeroLiteral ↔
        ∀ other, ¬ c.RefusedInstead ((fresh settings).recorded commands) other) ∧
      ∀ other, c.RefusedInstead ((fresh settings).recorded commands) other → e = other) := by
  have represents := represents_run settings commands
  rw [reached] at represents
  obtain ⟨e, refused, legibly⟩ := refusesZero represents sized zeroMem
  have told := snd_call_of_execute_eq_error refused
  refine ⟨e, told, fun legible => ?_⟩
  obtain ⟨blamed, unique⟩ := legibly legible
  have plain : c.makesName = false := by
    cases c with
    | declareGenerated dimensions => cases zeroMem
    | _ => rfl
  have other : e ≠ .numberTooLong := by
    rcases blamed with rfl | instead
    · exact Error.noConfusion
    · exact instead.ne_numberTooLong
  refine ⟨fst_call_of_refused told other plain, ?_, unique⟩
  constructor
  · rintro rfl other instead
    exact instead.ne_zeroLiteral (unique other instead).symm
  · intro never
    exact blamed.resolve_right (never e)

/-- A literal has been made equal to an opposite, so the second places cannot be
linked, and the zero in the third place is not reached. -/
theorem call_zero_run_spec_third_place :
    let p := (fresh {}).run [.declareEqual 3 (-1)]
    let c : Command := .assertXorWithConstant [5, 3, 0] [4, 1, 2] 1
    c.Sized ∧ 0 ∈ c.literals ∧ p.call c = (p, .error (.oppositeLiterals 3 1)) := by
  intro p c
  have sized : c.Sized := by
    change 3 = 3 ∧ (0 : Int) ≤ 1 ∧ (1 : Int) < Bits.wordBound
    decide
  have held : (fresh {}).recorded [.declareEqual 3 (-1)] = [(3, -1)] := by decide +kernel
  have conflicts : Conflicts [(3, -1)] [(5, 4)] 3 1 :=
    { front_ne_zero := by decide
      left_ne_zero := by decide
      right_ne_zero := by decide
      met := ⟨(· = 3), by decide⟩
      unmet := by
        rintro ⟨s, equal⟩
        have first := equal (3, -1) (by decide)
        have last := equal (3, 1) (by decide)
        have opposite : Literal.holds s (-1) = !Literal.holds s 1 :=
          Literal.holds_neg s (by decide)
        rw [opposite, last] at first
        exact Bool.not_ne_self _ first.symm }
  obtain ⟨e, refused, legibly⟩ :=
    call_zero_run_spec {} [.declareEqual 3 (-1)] rfl sized (by decide)
  obtain ⟨kept, -, unique⟩ := legibly (legiblePairs_of_short (by decide +kernel))
  rw [held] at unique
  have atOnes : ZerosAtOnes [5, 3, 0] [4, 1, 2] 1 := by
    unfold ZerosAtOnes
    decide +kernel
  have split : xorEquated [5, 3, 0] [4, 1, 2] 1 = [(5, 4)] ++ (3, 1) :: [(0, -2)] := by
    decide +kernel
  cases unique _ (.difference atOnes split conflicts)
  exact ⟨sized, by decide, Prod.ext kept refused⟩

/-- A zero that comes first in an equality of clauses, one in the middle of a
parity, and one behind two opposite literals: none of them is reported as such. -/
theorem not_call_zero_reported :
    ((fresh {}).call (.assertEqualClauses 0 1)).2 =
        .error (.flawed [⟨[.index 0], .zeroLiteral⟩]) ∧
      ((fresh {}).call (.assertXor3 1 0 2)).2 =
        .error (.flawed [⟨[.index 1], .zeroLiteral⟩]) ∧
      ((fresh {}).call (.assertXorWithConstant [1, 0] [-1, 2] 1)).2 =
        .error (.oppositeLiterals 1 (-1)) := by
  refine ⟨?_, ?_, ?_⟩ <;> decide +kernel

end Problem

end Clausal
