import Clausal.Proofs.Problem.Codes
import Clausal.Proofs.Problem.Meaning
import Clausal.Proofs.Problem.Solving
import Clausal.Proofs.Variables.Pack

/-!
# Numbers in answers

Unit clauses can say which number a vector of literals spells, and equalities
can say in which bits two vectors differ.  A vector that is read after an answer
spells what the clauses say if the answer makes them true.  The equalities need
no model: after any answer two vectors differ by what the equalities say.
-/

namespace Clausal

namespace Variables

variable {raw : List Int}

/-- The valuation that makes true the variables that an answer has. -/
def listed (raw : List Int) : Valuation := fun v =>
  decide ((v : Int) ∈ raw)

/-- An answer without zero and with one literal on a variable at most gives the
values that it lists. -/
theorem answered_eq_listed (rawNe : ∀ lit ∈ raw, lit ≠ 0)
    (single : ∀ lit ∈ raw, ∀ other ∈ raw, lit.natAbs = other.natAbs → lit = other) :
    answered raw = listed raw := by
  funext v
  by_cases positive : 0 < v
  · rw [listed, Bool.eq_iff_iff, decide_eq_true_iff]
    constructor
    · intro isTrue
      obtain ⟨front, back, rfl, -, -⟩ := (answered_eq_true_iff positive).mp isTrue
      exact List.mem_append_right front List.mem_cons_self
    · intro literalMem
      have oppositeNotMem : -(v : Int) ∉ raw := by
        intro oppositeMem
        have same := single _ literalMem _ oppositeMem (Int.natAbs_neg _).symm
        omega
      have isTrue := holds_answered_of_mem rawNe literalMem oppositeNotMem
      rw [Literal.holds_natCast _ positive] at isTrue
      exact isTrue
  · have zeroNotMem : 0 ∉ raw := fun zeroMem => rawNe 0 zeroMem rfl
    rw [Nat.eq_zero_of_not_pos positive, answered_zero]
    exact (decide_eq_false zeroNotMem).symm

end Variables

namespace Problem

variable {p stated : Problem} {s : Valuation} {lits xs ys : List Int}

/-! ## Numbers that clauses fix -/

/-- A vector spells the number that is assigned to it wherever the resolved unit
clauses for it are true. -/
theorem number_of_assignInteger (forest : p.pool.equalities.Forest) {n : Nat}
    (executed : p.execute (.assignInteger lits n) = .ok stated)
    (satisfied : ∀ clause ∈ stated.resolved, Literal.AnyHolds s clause) :
    Bits.number (lits.map (Literal.holds (p.pool.equalities.throughRoots s))) =
      n % Bits.span lits.length := by
  have samePool : stated.pool = p.pool := by
    obtain ⟨f, -, rfl⟩ := withFormula_eq_ok_iff.mp executed
    rfl
  have meant := satisfiedBy_throughRoots (samePool ▸ forest) satisfied
  rw [satisfiedBy_execute_iff forest executed, samePool] at meant
  have spelled : (Bits.number
      (lits.map (Literal.holds (p.pool.equalities.throughRoots s))) : Int) =
        (n : Int) % Bits.span lits.length := meant.2
  exact_mod_cast spelled

/-- A vector on variables that any run has led to, and a number of thirty-two
bits that it is to spell.  Without any other clause, the number can be assigned
to the vector.  An answer that lists no zero and no two literals on one variable
is taken if there is a family, and so whenever the vector is not empty, and if an
array can have a place for each variable.  If the resolved unit clauses are true
where just the listed variables are, the vector then reads as the lowest bits of the
number, as many as it has. -/
theorem pack_assignInteger_run_spec {settings : Settings} {commands : List Command}
    {a : Variables} (reached : ((fresh settings).run commands).pool = a)
    (bounded : a.size < Word.signedBound)
    (declared : ∀ lit ∈ lits, lit ≠ 0 ∧ lit.natAbs ≤ a.size) {n : Nat}
    (isWord : n < Bits.wordBound) {raw : List Int} (rawNe : ∀ lit ∈ raw, lit ≠ 0)
    (single : ∀ lit ∈ raw, ∀ other ∈ raw, lit.natAbs = other.natAbs → lit = other)
    (other : Settings) :
    ∃ q clauses,
      ({ pool := a, formula := { settings := other } } : Problem).execute
        (.assignInteger lits n) = .ok q ∧
      q.resolvedClauses = .ok clauses ∧
      (a.families ≠ [] ∨ lits ≠ [] → ∃ after, a.decode raw = .ok after ∧
        ((∀ clause ∈ clauses, Literal.AnyHolds (Variables.listed raw) clause) →
          after.pack lits = .ok (n % Bits.span lits.length))) := by
  have wellFormed := wellFormed_run settings commands
  rw [reached] at wellFormed
  have forest := wellFormed.forest
  obtain ⟨f, added⟩ := Formula.exists_assignInteger_eq (f := { settings := other })
    (fun lit literalMem => (declared lit literalMem).1) isWord
  have executed : ({ pool := a, formula := { settings := other } } : Problem).execute
      (.assignInteger lits n) = .ok { pool := a, formula := f } :=
    withFormula_eq_ok_iff.mpr ⟨f, added, rfl⟩
  refine ⟨_, _, executed, resolvedClauses_eq forest, ?_⟩
  intro someFamily
  have families := someFamily.elim id (wellFormed.families_ne_nil declared)
  have decoded := Variables.decode_eq forest families bounded raw
  refine ⟨_, decoded, ?_⟩
  intro satisfied
  rw [← Variables.answered_eq_listed rawNe single] at satisfied
  have spelled := number_of_assignInteger forest executed satisfied
  rw [(Variables.shows_of_decode forest decoded).pack_eq_mod declared, spelled,
    Bits.mod_span_mod_wordBound isWord]

/-- A vector longer than a word that has two variables of one value, one of them
with both signs. -/
theorem pack_assignInteger_run_spec_long :
    let a := ((fresh {}).run [.declareFamily "x" (.ofInts [3]), .declareEqual 3 (-1)]).pool
    let lits : List Int := List.replicate 33 2 ++ [-1, 3, 1]
    ∃ after, a.decode [5, 1, -2] = .ok after ∧ after.pack lits = .ok 1 := by
  intro a lits
  have declared : ∀ lit ∈ lits, lit ≠ 0 ∧ lit.natAbs ≤ a.size := by decide +kernel
  have rawNe : ∀ lit ∈ ([5, 1, -2] : List Int), lit ≠ 0 := by decide
  obtain ⟨q, clauses, executed, resolved, taken⟩ :=
    pack_assignInteger_run_spec (n := 1) (a := a) rfl (by decide +kernel) declared (by decide) rawNe
      (by decide) {}
  obtain ⟨after, decoded, packed⟩ := taken (Or.inr (by decide))
  have units : (({ pool := a } : Problem).execute (.assignInteger lits (1 : Nat)) >>=
      resolvedClauses) = .ok ([1] :: [1] :: [1] :: List.replicate 33 [-2]) := by
    decide +kernel
  rw [executed] at units
  cases resolved.symm.trans units
  have satisfied : ∀ clause ∈ [1] :: [1] :: [1] :: List.replicate 33 [-2],
      clause.any (Literal.holds (Variables.listed [5, 1, -2])) = true := by
    decide
  exact ⟨after, decoded, packed fun clause clauseMem =>
    Literal.anyHolds_iff.mpr (satisfied clause clauseMem)⟩

/-! ## Numbers that equalities relate -/

/-- Two vectors differ by the lowest bits of the constant that their equalities
were stated for wherever these are respected. -/
theorem number_xor_number_of_respectedBy (forest : p.pool.equalities.Forest) {n : Nat}
    (executed : p.execute (.assertXorWithConstant xs ys n) = .ok stated)
    (respected : stated.pool.equalities.RespectedBy s) :
    Bits.number (xs.map (Literal.holds s)) ^^^ Bits.number (ys.map (Literal.holds s)) =
      n % Bits.span xs.length := by
  obtain ⟨pairs, paired, linked⟩ := execute_assertXorWithConstant_eq_ok_iff.mp executed
  have sameLength := (mapM_of_xorPairs paired).1
  have linkedAll : p.pool.equalities.declareAll pairs = .ok stated.pool.equalities :=
    declareAll_of_execute linked
  have equal := ((forest.respectedBy_declareAll linkedAll).mp respected).2
  have differ : List.zipWith Bool.xor (xs.map (Literal.holds s)) (ys.map (Literal.holds s)) =
      Bits.ofInt xs.length n := (forall_xorPairs_iff paired).mp equal
  rw [← Bits.number_zipWith_xor (by simpa using sameLength), differ, Bits.number_ofInt_natCast]

/-- Two vectors on declared variables, read after an answer, differ by the lowest
bits of the constant that was asserted, whatever else has been made equal before
and since and whether or not the answer is a model.  An answer is taken if there
is a family, and so whenever the vectors are not empty, and if an array can have a
place for each variable. -/
theorem pack_xor_run_spec {settings : Settings} {commands : List Command}
    (reached : ((fresh settings).run commands).pool = p.pool)
    (declared : ∀ lit ∈ xs ++ ys, lit ≠ 0 ∧ lit.natAbs ≤ p.pool.size) {n : Nat}
    (isWord : n < Bits.wordBound)
    (executed : p.execute (.assertXorWithConstant xs ys n) = .ok stated)
    (more : List Command) {later : Variables} (continued : (stated.run more).pool = later)
    (bounded : later.size < Word.signedBound) (raw : List Int)
    (someFamily : later.families ≠ [] ∨ xs ≠ []) :
    ∃ after first second, later.decode raw = .ok after ∧
      after.pack xs = .ok first ∧ after.pack ys = .ok second ∧
      first ^^^ second = n % Bits.span xs.length := by
  have before := wellFormed_run settings commands
  rw [reached] at before
  have step := becomes_of_execute executed
  have statedFormed := step.wellFormed before
  have wellFormed := wellFormed_pool_run statedFormed more
  have grown := Nat.le_trans step.size_le (size_le_run stated more)
  -- Whatever the answer, the values after it respect the equalities of that
  -- moment, and so those of the assertion.
  have respected := respectedBy_of_run statedFormed more (s := later.equalities.throughRoots
    (Variables.answered raw))
  rw [continued] at wellFormed grown respected
  have stillDeclared : ∀ lit ∈ xs ++ ys, lit ≠ 0 ∧ lit.natAbs ≤ later.size := fun lit literalMem =>
    ⟨(declared lit literalMem).1, Nat.le_trans (declared lit literalMem).2 grown⟩
  obtain ⟨firstDeclared, secondDeclared⟩ := List.forall_mem_append.mp stillDeclared
  have families := someFamily.elim id (wellFormed.families_ne_nil firstDeclared)
  have decoded := Variables.decode_eq wellFormed.forest families bounded raw
  have held := Variables.shows_of_decode wellFormed.forest decoded
  have differ := number_xor_number_of_respectedBy before.forest executed
    (respected (wellFormed.forest.respectedBy_throughRoots _))
  refine ⟨_, _, _, decoded, held.pack_eq_mod firstDeclared, held.pack_eq_mod secondDeclared, ?_⟩
  rw [← Bits.xor_mod_wordBound, differ, Bits.mod_span_mod_wordBound isWord]

/-- Vectors longer than a word that share literals and repeat one, and a later
equality that joins what they are on to a variable of its own. -/
theorem pack_xor_run_spec_joined :
    let p := (fresh {}).run [.declareFamily "x" (.ofInts [4])]
    let xs : List Int := List.replicate 31 1 ++ [2, 3, 3]
    let ys : List Int := List.replicate 31 1 ++ [-3, 4, 4]
    ∃ stated, p.execute (.assertXorWithConstant xs ys 4) = .ok stated ∧
      (stated.run [.declareEqual 4 (-1)]).pool.resolve 2 = .ok (-1) ∧
      ∀ raw, ∃ after first second,
        (stated.run [.declareEqual 4 (-1)]).pool.decode raw = .ok after ∧
          after.pack xs = .ok first ∧ after.pack ys = .ok second ∧ first ^^^ second = 4 := by
  intro p xs ys
  have joined : (p.execute (.assertXorWithConstant xs ys 4) >>= fun stated =>
      (stated.run [.declareEqual 4 (-1)]).pool.resolve 2) = .ok (-1) := by
    decide +kernel
  have counted : (p.execute (.assertXorWithConstant xs ys 4)).map (fun stated =>
      (stated.run [.declareEqual 4 (-1)]).pool.size) = .ok 4 := by
    decide +kernel
  obtain ⟨stated, executed, resolved⟩ := Outcome.bind_eq_ok_iff.mp joined
  rw [executed] at counted
  have size : (stated.run [.declareEqual 4 (-1)]).pool.size = 4 := Except.ok.inj counted
  refine ⟨stated, executed, resolved, ?_⟩
  intro raw
  exact pack_xor_run_spec (n := 4) rfl (by decide +kernel) (by decide) executed
    [.declareEqual 4 (-1)] rfl (by rw [size]; decide) raw (Or.inr (by decide))

end Problem

end Clausal
