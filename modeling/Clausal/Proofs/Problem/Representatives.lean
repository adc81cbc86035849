import Clausal.Proofs.Bits
import Clausal.Proofs.Clause
import Clausal.Proofs.Equalities.Congruence
import Clausal.Proofs.Problem.Run
import Clausal.Proofs.Variables.Step

/-!
# The literals that stand for others after a run

Every command makes one step of the variables, in which it records some pairs of
literals as equal, most commands none.  So the equalities of a problem after a run
represent the pairs that the run has recorded, and the literal that stands for
another one is the least of those that equal it by these pairs.

A command that succeeds records the pairs that it is for.  One that fails records
something only where a number is too long to be reported, so the recorded pairs
are those of the commands that succeeded if all their literals can be written.
-/

namespace Clausal

open Equalities

/-! ## The pairs of a command -/

/-- The pairs that are equal where two vectors differ by the bits of a
constant. -/
def xorEquated (xs ys : List Int) (constant : Int) : List (Int × Int) :=
  ((xs.zip ys).zip (Bits.ofInt xs.length constant)).map fun ((x, y), bit) =>
    (x, if bit then -y else y)

/-- The pairs of literals that a command makes equal without a clause. -/
def Command.equated : Command → List (Int × Int)
  | .declareEqual x y => [(x, y)]
  | .declareEqualAll pairs => pairs
  | .assertEqual x y => [(x, y)]
  | .assertXorWithConstant xs ys constant => xorEquated xs ys constant
  | _ => []

/-- Whether a command is one that makes pairs of literals equal without a
clause. -/
def Command.links : Command → Bool
  | .declareEqual _ _ | .declareEqualAll _ | .assertEqual _ _ | .assertXorWithConstant _ _ _ => true
  | _ => false

/-- Whether a command declares a family, under a given name or a generated one. -/
def Command.declaresFamily : Command → Bool
  | .declareFamily _ _ | .declareGenerated _ => true
  | _ => false

/-- The pairs of a command as it makes them, which fails for vectors that do not
fit together. -/
def Command.pairs : Command → Except Error (List (Int × Int))
  | .assertXorWithConstant xs ys constant => Problem.xorPairs xs ys constant
  | c => .ok c.equated

/-- The pairs that a command records as equal, whether it succeeds or fails. -/
def Problem.recordedBy (p : Problem) (c : Command) : List (Int × Int) :=
  match c.pairs with
  | .error _ => []
  | .ok pairs => p.pool.equalities.kept pairs

namespace Problem

variable {p after : Problem} {pairs : List (Int × Int)}

theorem xorPair_eq_ok {x y : Int} {bit : Bool} {pair : Int × Int}
    (made : xorPair x y bit = .ok pair) : y ≠ 0 ∧ pair = (x, if bit then -y else y) := by
  cases bit with
  | true =>
      obtain ⟨opposite, negated, equal⟩ := Outcome.bind_eq_ok_iff.mp made
      obtain ⟨yNe, rfl⟩ := Literal.negate_eq_ok_iff.mp negated
      exact ⟨yNe, (Outcome.pure_eq_ok_iff.mp equal).symm⟩
  | false =>
      obtain ⟨first, required, rest⟩ := Outcome.bind_eq_ok_iff.mp made
      obtain ⟨second, otherRequired, equal⟩ := Outcome.bind_eq_ok_iff.mp rest
      obtain ⟨-, rfl⟩ := Literal.require_eq_ok_iff.mp required
      obtain ⟨yNe, rfl⟩ := Literal.require_eq_ok_iff.mp otherRequired
      exact ⟨yNe, (Outcome.pure_eq_ok_iff.mp equal).symm⟩

/-- The pairs of two vectors are made one by one when the vectors have the same
length. -/
theorem mapM_of_xorPairs {xs ys : List Int} {constant : Int} {pairs : List (Int × Int)}
    (made : xorPairs xs ys constant = .ok pairs) :
    xs.length = ys.length ∧
      ((xs.zip ys).zip (Bits.ofInt xs.length constant)).mapM
        (fun ((x, y), bit) => xorPair x y bit) = .ok pairs := by
  unfold xorPairs at made
  split at made
  · contradiction
  · rename_i sameLength
    obtain ⟨word, required, pairwise⟩ := Outcome.bind_eq_ok_iff.mp made
    rw [Bits.eq_of_requireWord required] at pairwise
    exact ⟨Decidable.of_not_not sameLength, pairwise⟩

theorem eq_of_xorPairs {xs ys : List Int} {constant : Int} {pairs : List (Int × Int)}
    (made : xorPairs xs ys constant = .ok pairs) : pairs = xorEquated xs ys constant :=
  Outcome.eq_map_of_mapM (mapM_of_xorPairs made).2 fun _ _ result => (xorPair_eq_ok result).2

theorem equated_eq_of_pairs {c : Command} (made : c.pairs = .ok pairs) : c.equated = pairs := by
  cases c with
  | assertXorWithConstant xs ys constant => exact (eq_of_xorPairs made).symm
  | _ => exact Except.ok.inj made

/-! ## Commands that declare pairs -/

/-- A problem with other equalities. -/
abbrev withEqualities (p : Problem) (m : Equalities) : Problem :=
  { p with pool := { p.pool with equalities := m } }

/-- What an operation on the variables leaves and reports. -/
theorem perform_of_settled {α : Type} (c : Command) (outcome : Variables × Except Error α)
    (executes : p.execute c = p.withPool (settled outcome))
    (leaves : p.afterFailure c = { p with pool := outcome.1 }) :
    p.perform c = ({ p with pool := outcome.1 }, Outcome.cause? outcome.2) := by
  rw [perform, executes, leaves]
  obtain ⟨left, told | told⟩ := outcome <;> rfl

theorem perform_declareEqualAll (p : Problem) (pairs : List (Int × Int)) :
    p.perform (.declareEqualAll pairs) =
      ({ p with pool := (p.pool.declareEqualAll pairs).1 },
        Outcome.cause? (p.pool.equalities.enterAll pairs).2) := by
  rw [← Variables.snd_declareEqualAll]
  exact perform_of_settled (.declareEqualAll pairs) (p.pool.declareEqualAll pairs) rfl rfl

theorem perform_declareEqual (p : Problem) (x y : Int) :
    p.perform (.declareEqual x y) = p.perform (.declareEqualAll [(x, y)]) := by
  rw [perform, perform, execute, execute, afterFailure, afterFailure,
    Variables.declareEqual_eq_declareEqualAll]

/-- A command that links pairs declares them all. -/
theorem perform_of_links (p : Problem) {c : Command} (links : c.links = true)
    (made : c.pairs = .ok pairs) : p.perform c = p.perform (.declareEqualAll pairs) := by
  cases c with
  | declareEqual x y =>
      cases made
      exact p.perform_declareEqual x y
  | declareEqualAll others =>
      cases made
      rfl
  | assertEqual x y =>
      cases made
      have sameSuccess := p.execute_assertEqual x y
      have sameFailure :
          p.afterFailure (.assertEqual x y) = p.afterFailure (.declareEqual x y) := rfl
      rw [perform, sameSuccess, sameFailure]
      exact p.perform_declareEqual x y
  | assertXorWithConstant xs ys constant =>
      have sameFailure : p.afterFailure (.assertXorWithConstant xs ys constant) =
          p.afterFailure (.declareEqualAll pairs) := by
        change (p.assertXorWithConstant xs ys constant).1 = _
        rw [assertXorWithConstant_of_xorPairs made]
        rfl
      rw [perform, perform, execute_assertXorWithConstant_of_xorPairs made, sameFailure]
  | _ => contradiction

/-- A command whose pairs cannot be made fails and changes nothing. -/
theorem perform_of_pairs_eq_error (p : Problem) {c : Command} {e : Error}
    (refused : c.pairs = .error e) : p.perform c = (p, some e) := by
  cases c with
  | assertXorWithConstant xs ys constant =>
      have outcome := assertXorWithConstant_of_xorPairs_eq_error (p := p) refused
      have executed : p.execute (.assertXorWithConstant xs ys constant) = .error e := by
        change settled (p.assertXorWithConstant xs ys constant) = _
        rw [outcome]
        rfl
      rw [perform_of_execute_eq_error executed]
      change ((p.assertXorWithConstant xs ys constant).1, _) = _
      rw [outcome]
  | _ => contradiction

/-! ## The step of a command -/

theorem becomes_of_withPool {outcome : Except Error Variables}
    (executed : p.withPool outcome = .ok after)
    (becomes : ∀ a, outcome = .ok a → p.pool.Becomes pairs a) :
    p.pool.Becomes pairs after.pool := by
  obtain ⟨a, made, rfl⟩ := withPool_eq_ok_iff.mp executed
  exact becomes a made

theorem becomes_of_withFormula {outcome : Except Error Formula}
    (executed : p.withFormula outcome = .ok after) : p.pool.Becomes [] after.pool := by
  obtain ⟨f, -, rfl⟩ := withFormula_eq_ok_iff.mp executed
  exact .refl p.pool

theorem becomes_of_taking {model : Option (List Int)} (taken : p.taking model = .ok after) :
    p.pool.Becomes [] after.pool := by
  cases model with
  | none =>
      cases taken
      exact .refl p.pool
  | some model => exact becomes_of_withPool taken fun a decoded => .taken model a decoded

/-- A command that leaves nothing after a failure makes a step if it does so when
it succeeds. -/
theorem becomes_perform_of_execute {c : Command} (leaves : p.afterFailure c = p)
    (success : ∀ after, p.execute c = .ok after → p.pool.Becomes [] after.pool) :
    p.pool.Becomes [] (p.perform c).1.pool := by
  rw [perform]
  split
  · rename_i after executed
    exact success after executed
  · rw [leaves]
    exact .refl p.pool

/-- A command that links pairs changes the equalities and nothing else, by the pairs
that it records. -/
theorem exists_perform_eq_withEqualities (p : Problem) {c : Command} (links : c.links = true) :
    ∃ m, p.pool.equalities.declareAll (p.recordedBy c) = .ok m ∧
      (p.perform c).1 = p.withEqualities m := by
  rw [recordedBy]
  cases made : c.pairs with
  | error e =>
      rw [p.perform_of_pairs_eq_error made]
      exact ⟨p.pool.equalities, rfl, rfl⟩
  | ok pairs =>
      obtain ⟨m, declared, after⟩ := p.pool.exists_fst_declareEqualAll pairs
      rw [p.perform_of_links links made, perform_declareEqualAll, after]
      exact ⟨m, declared, rfl⟩

theorem becomes_perform_of_links {c : Command} (links : c.links = true) :
    p.pool.Becomes (p.recordedBy c) (p.perform c).1.pool := by
  obtain ⟨m, declared, after⟩ := p.exists_perform_eq_withEqualities links
  rw [after]
  exact .linked _ m declared

/-- Every command makes one step of the variables, whether it succeeds or not. -/
theorem becomes_perform (p : Problem) (c : Command) :
    p.pool.Becomes (p.recordedBy c) (p.perform c).1.pool := by
  cases c with
  | declareFamily name dimensions =>
      rw [perform_of_settled _ (p.pool.declareFrom name dimensions) rfl rfl]
      exact Variables.becomes_declareFrom p.pool p.pool.generated name dimensions
  | declareGenerated dimensions =>
      rw [perform_of_settled _ (p.pool.declareGenerated dimensions) rfl rfl]
      exact Variables.becomes_declareGenerated p.pool dimensions
  | declareEqual x y => exact becomes_perform_of_links rfl
  | declareEqualAll pairs => exact becomes_perform_of_links rfl
  | assertEqual x y => exact becomes_perform_of_links rfl
  | assertXorWithConstant xs ys constant => exact becomes_perform_of_links rfl
  | decode raw =>
      refine becomes_perform_of_execute rfl fun after executed => ?_
      have taken : p.taking (some raw) = .ok after := executed
      exact becomes_of_taking taken
  | readSolution text =>
      refine becomes_perform_of_execute rfl fun after executed => ?_
      apply becomes_of_withPool executed
      intro a taken
      obtain ⟨⟨b, held⟩, read, rfl⟩ := Outcome.map_eq_ok_iff.mp taken
      rcases Variables.decode_or_eq_of_readSolution read with ⟨raw, decoded⟩ | rfl
      · exact .taken raw b decoded
      · exact .refl _
  | solve backend =>
      refine becomes_perform_of_execute rfl fun after executed => ?_
      obtain ⟨answer, solved, rfl⟩ := Outcome.map_eq_ok_iff.mp executed
      exact becomes_of_taking (solve_eq_ok_iff.mp solved).2.2.2
  | addImage box inputs outputs =>
      refine becomes_perform_of_execute rfl fun after executed => ?_
      rw [execute_addImage] at executed
      exact becomes_of_withFormula executed
  | appendClause lits =>
      exact becomes_perform_of_execute rfl fun _ executed => becomes_of_withFormula executed
  | appendClauses clauses =>
      exact becomes_perform_of_execute rfl fun _ executed => becomes_of_withFormula executed
  | assertEqualClauses x y =>
      exact becomes_perform_of_execute rfl fun _ executed => becomes_of_withFormula executed
  | assertXor3 x y z =>
      exact becomes_perform_of_execute rfl fun _ executed => becomes_of_withFormula executed
  | assignInteger lits value =>
      exact becomes_perform_of_execute rfl fun _ executed => becomes_of_withFormula executed

/-! ## What is recorded -/

theorem equated_of_not_links {c : Command} (other : c.links = false) : c.equated = [] := by
  cases c <;> first | rfl | contradiction

/-- A command without pairs records none. -/
theorem recordedBy_of_equated_eq_nil (p : Problem) {c : Command} (none : c.equated = []) :
    p.recordedBy c = [] := by
  rw [recordedBy]
  cases made : c.pairs with
  | error e => rfl
  | ok pairs =>
      rw [← equated_eq_of_pairs made, none]
      rfl

theorem recordedBy_of_not_links (p : Problem) {c : Command} (other : c.links = false) :
    p.recordedBy c = [] :=
  p.recordedBy_of_equated_eq_nil (equated_of_not_links other)

/-- A command that succeeds records the pairs that it is for. -/
theorem recordedBy_of_execute {c : Command} (executed : p.execute c = .ok after) :
    p.recordedBy c = c.equated := by
  cases links : c.links with
  | false => rw [recordedBy_of_not_links p links, equated_of_not_links links]
  | true =>
      have succeeded : (p.perform c).2 = none := by rw [perform, executed]
      rw [recordedBy]
      cases made : c.pairs with
      | error e =>
          rw [p.perform_of_pairs_eq_error made] at succeeded
          contradiction
      | ok pairs =>
          rw [p.perform_of_links links made, perform_declareEqualAll] at succeeded
          rw [equated_eq_of_pairs made]
          exact kept_of_ok (Outcome.cause?_eq_none_iff.mp succeeded)

/-- A command that fails records nothing, or it fails while it declares its pairs
and records those that are kept. -/
theorem recordedBy_of_execute_eq_error {c : Command} {e : Error} (failed : p.execute c = .error e) :
    p.recordedBy c = [] ∨ ∃ pairs, c.pairs = .ok pairs ∧
      (p.pool.equalities.enterAll pairs).2 = .error e ∧
        p.recordedBy c = p.pool.equalities.kept pairs := by
  cases links : c.links with
  | false => exact Or.inl (recordedBy_of_not_links p links)
  | true =>
      have reported : (p.perform c).2 = some e := by rw [perform, failed]
      rw [recordedBy]
      cases made : c.pairs with
      | error other => exact Or.inl rfl
      | ok pairs =>
          rw [p.perform_of_links links made, perform_declareEqualAll] at reported
          exact Or.inr ⟨pairs, rfl, Outcome.cause?_eq_some_iff.mp reported, rfl⟩

/-- A command records nothing if it fails for another reason than a number that is
too long. -/
theorem recordedBy_of_ne_numberTooLong {c : Command} {e : Error}
    (failed : p.execute c = .error e) (other : e ≠ .numberTooLong) : p.recordedBy c = [] := by
  rcases recordedBy_of_execute_eq_error failed with nothing | ⟨pairs, -, told, kept⟩
  · exact nothing
  · have own := (isOwn_or_of_enterAll_eq_error told).resolve_right other
    exact kept.trans (kept_of_isOwn told own)

/-- A command whose literals can be written records nothing if it fails. -/
theorem recordedBy_of_legible (forest : p.pool.equalities.Forest) {c : Command} {e : Error}
    (legible : LegiblePairs c.equated) (failed : p.execute c = .error e) : p.recordedBy c = [] := by
  rcases recordedBy_of_execute_eq_error failed with nothing | ⟨pairs, made, told, kept⟩
  · exact nothing
  · rw [equated_eq_of_pairs made] at legible
    exact kept.trans (kept_of_isOwn told (forest.isOwn_of_enterAll_eq_error legible told))

/-- What a failure leaves of a command that declares no family: the same problem,
with the equalities that it has recorded. -/
theorem exists_afterFailure_eq {c : Command} (other : c.declaresFamily = false) {e : Error}
    (failed : p.execute c = .error e) :
    ∃ m, p.pool.equalities.declareAll (p.recordedBy c) = .ok m ∧
      p.afterFailure c = p.withEqualities m := by
  cases links : c.links with
  | false =>
      rw [recordedBy_of_not_links p links]
      refine ⟨p.pool.equalities, rfl, ?_⟩
      cases c <;> first | rfl | contradiction
  | true =>
      obtain ⟨m, declared, left⟩ := p.exists_perform_eq_withEqualities links
      rw [perform_of_execute_eq_error failed] at left
      exact ⟨m, declared, left⟩

/-- A command that succeeds makes the step of its pairs. -/
theorem becomes_of_execute {c : Command} (executed : p.execute c = .ok after) :
    p.pool.Becomes c.equated after.pool := by
  have becomes := p.becomes_perform c
  rw [recordedBy_of_execute executed, perform, executed] at becomes
  exact becomes

theorem declareAll_of_execute {c : Command} (executed : p.execute c = .ok after) :
    p.pool.equalities.declareAll c.equated = .ok after.pool.equalities :=
  (becomes_of_execute executed).declareAll

/-- A command that fails makes the step of what it has recorded. -/
theorem becomes_afterFailure {c : Command} {e : Error} (failed : p.execute c = .error e) :
    p.pool.Becomes (p.recordedBy c) (p.afterFailure c).pool := by
  have becomes := p.becomes_perform c
  rw [perform_of_execute_eq_error failed] at becomes
  exact becomes

/-! ## Along a run -/

/-- A problem without families, equalities and clauses. -/
def fresh (settings : Settings) : Problem :=
  { formula := { settings := settings } }

/-- The pairs that the commands succeeding in a run make equal. -/
def accepted (p : Problem) (commands : List Command) : List (Int × Int) :=
  (p.succeeding commands).flatMap Command.equated

/-- The pairs that the commands of a run record as equal. -/
def recorded (p : Problem) : List Command → List (Int × Int)
  | [] => []
  | c :: rest => p.recordedBy c ++ (p.perform c).1.recorded rest

/-- A property of the equalities and of the pairs recorded so far that each
declaration keeps is kept along a run. -/
theorem equalities_run_induction {motive : Equalities → List (Int × Int) → Prop}
    (step : ∀ m pairs x y after, motive m pairs → m.declare x y = .ok after →
      motive after (pairs ++ [(x, y)]))
    (start : motive p.pool.equalities pairs) (commands : List Command) :
    motive (p.run commands).pool.equalities (pairs ++ p.recorded commands) := by
  induction commands generalizing p pairs with
  | nil =>
      rw [recorded, List.append_nil]
      exact start
  | cons c rest ih =>
      have next := declareAll_induction step start (p.becomes_perform c).declareAll
      rw [recorded, ← List.append_assoc]
      exact ih next

/-- After a run the equalities of a problem represent the recorded pairs. -/
theorem represents_run (settings : Settings) (commands : List Command) :
    ((fresh settings).run commands).pool.equalities.Represents
      ((fresh settings).recorded commands) := by
  have along := equalities_run_induction (p := fresh settings) (motive := Represents)
    (fun _ _ _ _ _ represents declared => represents.declare declared) Represents.empty commands
  exact along

/-- Where the literals of all pairs can be written, a run records the pairs of the
commands that succeed and no others. -/
theorem recorded_eq_accepted (forest : p.pool.equalities.Forest) {commands : List Command}
    (legible : ∀ c ∈ commands, LegiblePairs c.equated) :
    p.recorded commands = p.accepted commands := by
  induction commands generalizing p with
  | nil => rfl
  | cons c rest ih =>
      obtain ⟨here, later⟩ := List.forall_mem_cons.mp legible
      have next := ih (forest.declareAll (p.becomes_perform c).declareAll) later
      rw [recorded, next, accepted, accepted, succeeding, perform]
      cases executed : p.execute c with
      | ok after => rw [recordedBy_of_execute executed, List.flatMap_cons]
      | error e => rw [recordedBy_of_legible forest here executed, List.nil_append]

theorem legiblePairs_equated_of_short {commands : List Command}
    (short : ∀ c ∈ commands, ∀ e ∈ c.equated, e.1.natAbs < 10 ^ 20 ∧ e.2.natAbs < 10 ^ 20) :
    ∀ c ∈ commands, LegiblePairs c.equated :=
  fun c commandMem => legiblePairs_of_short (short c commandMem)

/-- After any run every literal is resolved, to the one literal of least
magnitude among those that equal it by the recorded pairs.  Two literals are
resolved to the same one exactly when they are equal by these pairs, and every
other run that records the same pairs resolves literals in the same way.  The
recorded pairs are those of the commands that succeeded, if all literals that are
to be made equal can be written. -/
theorem resolve_run_spec (settings : Settings) (commands : List Command) {x : Int}
    (xNe : x ≠ 0) :
    (∃ r, ((fresh settings).run commands).pool.resolve x = .ok r ∧ r ≠ 0 ∧
      Follows ((fresh settings).recorded commands) x r ∧
        ∀ y, Follows ((fresh settings).recorded commands) x y →
          y = r ∨ r.natAbs < y.natAbs) ∧
    (∀ y, y ≠ 0 →
      (((fresh settings).run commands).pool.resolve x =
          ((fresh settings).run commands).pool.resolve y ↔
        Follows ((fresh settings).recorded commands) x y)) ∧
    (∀ otherSettings others,
      (∀ e, e ∈ (fresh otherSettings).recorded others ↔
        e ∈ (fresh settings).recorded commands) →
      ((fresh otherSettings).run others).pool.resolve x =
        ((fresh settings).run commands).pool.resolve x) ∧
    ((∀ c ∈ commands, LegiblePairs c.equated) →
      (fresh settings).recorded commands = (fresh settings).accepted commands) := by
  have represents := represents_run settings commands
  have resolved : ∀ y, y ≠ 0 → ((fresh settings).run commands).pool.resolve y = _ :=
    fun y yNe => represents.forest.resolve_eq yNe
  refine ⟨?least, ?same, ?order, recorded_eq_accepted forest_empty⟩
  case least =>
    refine ⟨_, resolved x xNe, mt represents.forest.root_eq_zero_iff.mp xNe,
      represents.follows_root x, ?_⟩
    intro y follows
    exact represents.eq_root_or_natAbs_lt follows
  case same =>
    intro y yNe
    rw [resolved x xNe, resolved y yNe, Except.ok.injEq]
    exact represents.root_eq_iff x y
  case order =>
    intro otherSettings others same
    have otherRepresents := represents_run otherSettings others
    rw [resolved x xNe, Variables.resolve, otherRepresents.forest.resolve_eq xNe,
      represents.root_eq_root otherRepresents same]

/-- A chain of an equality and a difference, around pairs that are refused
because the second of them joins a literal to its opposite. -/
theorem resolve_run_spec_chain :
    let commands : List Command :=
      [.declareEqual 5 (-3), .declareEqualAll [(3, 1), (1, -1)],
        .assertXorWithConstant [3] [2] 1]
    (fresh {}).recorded commands = [(5, -3), (3, -2)] ∧
      (fresh {}).accepted commands = [(5, -3), (3, -2)] ∧
      ∃ r, ((fresh {}).run commands).pool.resolve 5 = .ok r ∧ r ≠ 0 ∧
        Follows ((fresh {}).recorded commands) 5 r ∧
          ∀ y, Follows ((fresh {}).recorded commands) 5 y → y = r ∨ r.natAbs < y.natAbs := by
  intro commands
  have succeeded : (fresh {}).accepted commands = [(5, -3), (3, -2)] := by decide +kernel
  have legible : ∀ c ∈ commands, LegiblePairs c.equated :=
    legiblePairs_equated_of_short (by decide)
  obtain ⟨least, -, -, same⟩ := resolve_run_spec {} commands (x := 5) (by decide)
  exact ⟨(same legible).trans succeeded, succeeded, least⟩

/-- A declaration whose report cannot be written fails, and its literals are
resolved to the same one all the same. -/
theorem not_resolve_follows_accepted :
    ¬ ∀ (commands : List Command) (x y : Int), x ≠ 0 → y ≠ 0 →
      ((fresh {}).run commands).pool.resolve x = ((fresh {}).run commands).pool.resolve y →
        Follows ((fresh {}).accepted commands) x y := by
  intro follow
  have same := follow [.declareEqual Decimal.overlong 1] Decimal.overlong 1 (by decide +kernel)
    (by decide) (by decide +kernel)
  have nothing : (fresh {}).accepted [.declareEqual Decimal.overlong 1] = [] := by decide +kernel
  rw [nothing] at same
  exact absurd same.eq_of_nil (by decide +kernel)

end Problem

end Clausal
