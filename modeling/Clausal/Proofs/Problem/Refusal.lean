import Clausal.Proofs.Decimal
import Clausal.Proofs.Problem.Calls

/-!
# Refused calls

A refused call leaves the problem as it was, with two exceptions.  A declaration
under a made-up name has moved the counter of these names on before the family is
looked at.  No other call asks for this counter.  So a problem after such a refusal
answers like the one before it until the next name is made up, which is another one
then.  And a declaration whose report has too long a number has been entered before
that, a family as well as a link.
-/

namespace Clausal

/-- Whether a command makes up a name. -/
def Command.makesName : Command → Bool
  | .declareGenerated _ => true
  | _ => false

/-! ## The counter of made-up names -/

namespace Variables

/-- The variables with another counter of made-up names. -/
def withCounter (a : Variables) (n : Nat) : Variables :=
  { a with generated := n }

@[simp]
theorem families_withCounter (a : Variables) (n : Nat) : (a.withCounter n).families = a.families :=
  rfl

@[simp]
theorem size_withCounter (a : Variables) (n : Nat) : (a.withCounter n).size = a.size :=
  rfl

@[simp]
theorem equalities_withCounter (a : Variables) (n : Nat) :
    (a.withCounter n).equalities = a.equalities :=
  rfl

/-- The number of a made-up name has not been used before. -/
theorem generated_lt_nextGenerated (a : Variables) : a.generated < a.nextGenerated := by
  rw [nextGenerated]
  cases found : (List.range' (a.generated + 1) (a.families.length + 1)).find? fun n =>
      !a.declares (generatedName n) with
  | none => exact Nat.lt_succ_self a.generated
  | some n => exact (List.mem_range'_1.mp (List.mem_of_find?_eq_some found)).1

theorem generatedName_injective : Function.Injective generatedName :=
  fun _ _ same => Decimal.ofNat_injective (List.append_cancel_left same)

/-- A refused family leaves the counter moved on, unless it is its report that
fails. -/
theorem fst_declareGenerated_of_error {a : Variables} {dimensions : Value} {e : Error}
    (refused : (a.declareGenerated dimensions).2 = .error e) (other : e ≠ .numberTooLong) :
    (a.declareGenerated dimensions).1 = a.withCounter a.nextGenerated := by
  have failed := Outcome.map_eq_error_iff.mp refused
  exact fst_declareFrom_of_error failed other

/-- A family is declared under the name that has been made up for it. -/
theorem eq_generatedName_of_declareGenerated {a : Variables} {dimensions : Value} {name : Text}
    (declared : (a.declareGenerated dimensions).2 = .ok name) :
    name = generatedName a.nextGenerated := by
  obtain ⟨f, -, same⟩ := Outcome.map_eq_ok_iff.mp declared
  exact same.symm

/-! What does not make up a name gives the same with another counter. -/

variable (a : Variables) (n : Nat)

theorem declareFrom_withCounter (name : Text) (dimensions : Value) :
    (a.withCounter n).declareFrom name dimensions =
      Prod.map (·.withCounter n) id (a.declareFrom name dimensions) := by
  have sameCheck : (a.withCounter n).checkFamily name dimensions =
      a.checkFamily name dimensions := rfl
  rw [declareFrom, declareFrom, sameCheck]
  cases a.checkFamily name dimensions <;> rfl

theorem declareEqual_withCounter (x y : Int) :
    (a.withCounter n).declareEqual x y = Prod.map (·.withCounter n) id (a.declareEqual x y) := by
  rw [declareEqual, declareEqual, equalities_withCounter]
  rcases a.equalities.enter x y with ⟨m, told⟩
  rfl

theorem declareEqualAll_withCounter (pairs : List (Int × Int)) :
    (a.withCounter n).declareEqualAll pairs =
      Prod.map (·.withCounter n) id (a.declareEqualAll pairs) := by
  rw [declareEqualAll, declareEqualAll, equalities_withCounter]
  obtain ⟨m, e | told⟩ := a.equalities.enterAll pairs
  · dsimp only
    cases e.isOwn <;> rfl
  · rfl

theorem decode_withCounter (raw : List Int) :
    (a.withCounter n).decode raw = (a.decode raw).map (·.withCounter n) := by
  rw [decode, decode, families_withCounter, size_withCounter, equalities_withCounter]
  by_cases noFamilies : a.families.isEmpty = true
  · rw [if_pos noFamilies, if_pos noFamilies]
    rfl
  · rw [if_neg noFamilies, if_neg noFamilies]
    by_cases beyond : Word.signedBound ≤ a.size
    · rw [if_pos beyond, if_pos beyond]
      rfl
    · rw [if_neg beyond, if_neg beyond]
      cases (List.range' 1 a.size).foldlM (settle a.equalities) (directValues a.size raw) <;> rfl

theorem readSolution_withCounter (text : Text) :
    (a.withCounter n).readSolution text =
      (a.readSolution text).map fun (b, satisfiable) => (b.withCounter n, satisfiable) := by
  by_cases families : a.families = []
  · rw [readSolution, readSolution, families_withCounter,
      if_pos (List.isEmpty_iff.mpr families), if_pos (List.isEmpty_iff.mpr families)]
    rfl
  · rw [readSolution_eq families, readSolution_eq (a := a.withCounter n) families]
    cases Assignment.parse text with
    | error e => rfl
    | ok found =>
        cases found with
        | none => rfl
        | some raw =>
            dsimp only
            rw [decode_withCounter]
            cases a.decode raw <;> rfl

end Variables

namespace Problem

/-- A problem with another counter of made-up names. -/
def withCounter (p : Problem) (n : Nat) : Problem :=
  { p with pool := p.pool.withCounter n }

variable (p : Problem) (n : Nat)

theorem withPool_withCounter {outcome other : Except Error Variables}
    (same : other = outcome.map (·.withCounter n)) :
    (p.withCounter n).withPool other = (p.withPool outcome).map (·.withCounter n) := by
  subst same
  cases outcome <;> rfl

/-- An operation that leaves the same but for the counter succeeds with the same but
for the counter. -/
theorem settled_map_withCounter {α : Type} (outcome : Variables × Except Error α) :
    settled (Prod.map (·.withCounter n) id outcome) =
      (settled outcome).map (·.withCounter n) := by
  obtain ⟨after, e | told⟩ := outcome <;> rfl

theorem withFormula_withCounter (outcome : Except Error Formula) :
    (p.withCounter n).withFormula outcome = (p.withFormula outcome).map (·.withCounter n) := by
  cases outcome <;> rfl

theorem solve_withCounter (backend : Backend) :
    (p.withCounter n).solve backend =
      (p.solve backend).map fun answer =>
        { answer with problem := answer.problem.withCounter n } := by
  have sameInput : (p.withCounter n).toCnf = p.toCnf := rfl
  cases made : p.toCnf with
  | error e =>
      rw [solve, solve, sameInput, made]
      rfl
  | ok input =>
      rw [solve_of_toCnf made, solve_of_toCnf (sameInput.trans made)]
      cases Error.writing [(input.variableCount : Int)] with
      | error e => rfl
      | ok _ =>
          cases backend input.clauses with
          | error e => rfl
          | ok found =>
              cases found with
              | none => rfl
              | some model =>
                  dsimp only [withCounter]
                  rw [Variables.decode_withCounter]
                  cases p.pool.decode model <;> rfl

theorem assertXorWithConstant_withCounter (xs ys : List Int) (constant : Int) :
    (p.withCounter n).assertXorWithConstant xs ys constant =
      Prod.map (·.withCounter n) id (p.assertXorWithConstant xs ys constant) := by
  rw [assertXorWithConstant, assertXorWithConstant]
  cases xorPairs xs ys constant with
  | error e => rfl
  | ok pairs =>
      have linked := p.pool.declareEqualAll_withCounter n pairs
      exact congrArg (p.withCounter n).withOutcome linked

/-- A command that makes up no name does the same with another counter. -/
theorem execute_withCounter {c : Command} (plain : c.makesName = false) :
    (p.withCounter n).execute c = (p.execute c).map (·.withCounter n) := by
  have settling : ∀ {α : Type} {outcome other : Variables × Except Error α},
      other = Prod.map (·.withCounter n) id outcome →
        (p.withCounter n).withPool (settled other) =
          (p.withPool (settled outcome)).map (·.withCounter n) := by
    rintro α outcome other rfl
    exact p.withPool_withCounter n (settled_map_withCounter n outcome)
  cases c with
  | declareFamily name dimensions =>
      exact settling (p.pool.declareFrom_withCounter n name dimensions)
  | declareGenerated dimensions => contradiction
  | declareEqual x y => exact settling (p.pool.declareEqual_withCounter n x y)
  | declareEqualAll pairs => exact settling (p.pool.declareEqualAll_withCounter n pairs)
  | decode raw => exact p.withPool_withCounter n (p.pool.decode_withCounter n raw)
  | readSolution text =>
      apply p.withPool_withCounter n
      change ((p.pool.withCounter n).readSolution text).map Prod.fst = _
      rw [Variables.readSolution_withCounter]
      cases p.pool.readSolution text <;> rfl
  | assertEqual x y =>
      rw [execute_assertEqual, execute_assertEqual]
      exact settling (p.pool.declareEqual_withCounter n x y)
  | assertXorWithConstant xs ys constant =>
      change settled ((p.withCounter n).assertXorWithConstant xs ys constant) =
        (settled (p.assertXorWithConstant xs ys constant)).map _
      rw [assertXorWithConstant_withCounter]
      obtain ⟨after, e | told⟩ := p.assertXorWithConstant xs ys constant <;> rfl
  | addImage box inputs outputs =>
      rw [execute_addImage, execute_addImage]
      exact p.withFormula_withCounter n _
  | solve backend =>
      change ((p.withCounter n).solve backend).map Answer.problem = _
      rw [solve_withCounter]
      change _ = ((p.solve backend).map Answer.problem).map _
      cases p.solve backend <;> rfl
  | _ => exact p.withFormula_withCounter n _

/-- A call that makes up no name tells and does the same with another counter. -/
theorem effect_withCounter {c : Command} (plain : c.makesName = false) :
    (p.withCounter n).effect c =
      (p.effect c).map fun (told, after) => (told, after.withCounter n) := by
  have silent : ∀ outcome : Except Error Problem,
      (outcome.map (·.withCounter n)).map (fun after => (Reply.done, after)) =
        (outcome.map fun after => (Reply.done, after)).map
          fun (told, after) => (told, after.withCounter n) := by
    intro outcome
    cases outcome <;> rfl
  have executed := p.execute_withCounter n plain
  cases c with
  | declareFamily name dimensions =>
      have declared := p.pool.declareFrom_withCounter n name dimensions
      change ((p.pool.withCounter n).declareFrom name dimensions).2.map _ = _
      rw [effect, withCounter, declared]
      obtain ⟨after, e | f⟩ := p.pool.declareFrom name dimensions <;> rfl
  | declareGenerated dimensions => contradiction
  | readSolution text =>
      change ((p.pool.withCounter n).readSolution text).map _ =
        ((p.pool.readSolution text).map _).map _
      rw [Variables.readSolution_withCounter]
      cases p.pool.readSolution text <;> rfl
  | solve backend =>
      rw [effect, effect, solve_withCounter]
      cases p.solve backend <;> rfl
  | _ =>
      change ((p.withCounter n).execute _).map _ = _
      rw [executed]
      exact silent _

theorem afterFailure_withCounter {c : Command} (plain : c.makesName = false) :
    (p.withCounter n).afterFailure c = (p.afterFailure c).withCounter n := by
  cases c with
  | declareFamily name dimensions =>
      change { p with pool := ((p.pool.withCounter n).declareFrom name dimensions).1 } = _
      rw [Variables.declareFrom_withCounter]
      rfl
  | declareGenerated dimensions => contradiction
  | declareEqual x y =>
      change { p with pool := ((p.pool.withCounter n).declareEqual x y).1 } = _
      rw [Variables.declareEqual_withCounter]
      rfl
  | declareEqualAll pairs =>
      change { p with pool := ((p.pool.withCounter n).declareEqualAll pairs).1 } = _
      rw [Variables.declareEqualAll_withCounter]
      rfl
  | assertEqual x y =>
      change { p with pool := ((p.pool.withCounter n).declareEqual x y).1 } = _
      rw [Variables.declareEqual_withCounter]
      rfl
  | assertXorWithConstant xs ys constant =>
      change ((p.withCounter n).assertXorWithConstant xs ys constant).1 = _
      rw [assertXorWithConstant_withCounter]
      rfl
  | _ => rfl

theorem call_withCounter {c : Command} (plain : c.makesName = false) :
    (p.withCounter n).call c = ((p.call c).1.withCounter n, (p.call c).2) := by
  rw [call_eq, call_eq, effect_withCounter p n plain, afterFailure_withCounter p n plain]
  cases p.effect c <;> rfl

/-- Calls that make up no name tell the same with another counter, and leave the
same but for it. -/
theorem replies_withCounter {more : List Command} (plain : ∀ d ∈ more, d.makesName = false) :
    (p.withCounter n).replies more = p.replies more ∧
      (p.withCounter n).run more = (p.run more).withCounter n := by
  induction more generalizing p with
  | nil => exact ⟨rfl, rfl⟩
  | cons c rest ih =>
      have first := p.call_withCounter n (plain c List.mem_cons_self)
      obtain ⟨sameReplies, sameRun⟩ :=
        ih (p.call c).1 fun d later => plain d (List.mem_cons_of_mem c later)
      constructor
      · rw [replies, replies, first]
        dsimp only
        rw [sameReplies]
      · change ((p.withCounter n).perform c).1.run rest = ((p.perform c).1.run rest).withCounter n
        rw [← fst_call, ← fst_call, first]
        exact sameRun

/-! ## What a refused call leaves -/

variable {p} {c : Command} {e : Error}

theorem effect_of_refused (refused : (p.call c).2 = .error e) : p.effect c = .error e := by
  rw [call_eq] at refused
  cases outcome : p.effect c with
  | error other =>
      rw [outcome] at refused
      cases refused
      rfl
  | ok told =>
      rw [outcome] at refused
      contradiction

theorem execute_of_refused (refused : (p.call c).2 = .error e) : p.execute c = .error e := by
  rw [← map_snd_effect, effect_of_refused refused]
  rfl

/-- A refused call leaves what the failed command leaves. -/
theorem fst_call_eq_afterFailure (refused : (p.call c).2 = .error e) :
    (p.call c).1 = p.afterFailure c := by
  rw [call_eq, effect_of_refused refused]

/-- A refused call that makes up no name leaves the problem as it was, unless a
number is too long. -/
theorem fst_call_of_refused (refused : (p.call c).2 = .error e) (other : e ≠ .numberTooLong)
    (plain : c.makesName = false) : (p.call c).1 = p := by
  have failed := execute_of_refused refused
  rw [fst_call_eq_afterFailure refused]
  cases declares : c.declaresFamily with
  | false =>
      obtain ⟨m, recorded, left⟩ := exists_afterFailure_eq declares failed
      rw [recordedBy_of_ne_numberTooLong failed other] at recorded
      cases recorded
      exact left
  | true =>
      cases c with
      | declareFamily name dimensions =>
          have undeclared := settled_eq_error_iff.mp (Outcome.map_eq_error_iff.mp failed)
          exact congrArg (fun a => { p with pool := a })
            (Variables.fst_declareFrom_of_error undeclared other)
      | _ => contradiction

/-- A refused declaration under a made-up name uses this name up and changes
nothing else, unless a number is too long. -/
theorem fst_call_declareGenerated_of_refused {dimensions : Value}
    (refused : (p.call (.declareGenerated dimensions)).2 = .error e)
    (other : e ≠ .numberTooLong) :
    (p.call (.declareGenerated dimensions)).1 = p.withCounter p.pool.nextGenerated := by
  have failed := execute_of_refused refused
  have undeclared := settled_eq_error_iff.mp (Outcome.map_eq_error_iff.mp failed)
  rw [fst_call_eq_afterFailure refused]
  exact congrArg (fun a => { p with pool := a })
    (Variables.fst_declareGenerated_of_error undeclared other)

/-- What a call has entered before a number was too long: links, or a family. -/
theorem fst_call_of_numberTooLong (refused : (p.call c).2 = .error .numberTooLong) :
    (∃ m, p.pool.equalities.declareAll (p.recordedBy c) = .ok m ∧
      (p.call c).1 = p.withEqualities m) ∨
    (∃ name dimensions f, c = .declareFamily name dimensions ∧
      p.pool.checkFamily name dimensions = .ok f ∧
        (p.call c).1 = { p with pool := p.pool.append f }) ∨
    ∃ dimensions f, c = .declareGenerated dimensions ∧
      p.pool.checkFamily (Variables.generatedName p.pool.nextGenerated) dimensions = .ok f ∧
        (p.call c).1 = { p with pool := (p.pool.withCounter p.pool.nextGenerated).append f } := by
  have failed := execute_of_refused refused
  rw [fst_call_eq_afterFailure refused]
  cases declares : c.declaresFamily with
  | false => exact Or.inl (exists_afterFailure_eq declares failed)
  | true =>
      cases c with
      | declareFamily name dimensions =>
          have undeclared := settled_eq_error_iff.mp (Outcome.map_eq_error_iff.mp failed)
          obtain ⟨f, checked, left⟩ := Variables.exists_of_declareFrom_eq_error undeclared
          exact Or.inr (Or.inl ⟨name, dimensions, f, rfl, checked,
            congrArg (fun a => { p with pool := a }) left⟩)
      | declareGenerated dimensions =>
          have undeclared := settled_eq_error_iff.mp (Outcome.map_eq_error_iff.mp failed)
          obtain ⟨f, checked, left⟩ :=
            Variables.exists_of_declareFrom_eq_error (Outcome.map_eq_error_iff.mp undeclared)
          exact Or.inr (Or.inr ⟨dimensions, f, rfl, checked,
            congrArg (fun a => { p with pool := a }) left⟩)
      | _ => contradiction

/-- A declaration under a made-up name tells this name. -/
theorem eq_generatedName_of_call {dimensions : Value} {told : Reply}
    (declared : (p.call (.declareGenerated dimensions)).2 = .ok told) :
    told = .name (Variables.generatedName p.pool.nextGenerated) := by
  rw [call_eq, effect] at declared
  cases outcome : (p.pool.declareGenerated dimensions).2 with
  | error other =>
      rw [outcome] at declared
      contradiction
  | ok name =>
      rw [outcome] at declared
      cases declared
      rw [Variables.eq_generatedName_of_declareGenerated outcome]

/-- What a refused call leaves.  If no number is too long and it does not make up a
name, the problem is the same as before, and so is all that later calls tell.  If it
does, the counter of these names has moved on, and nothing else is different.  Calls
that make up no name still tell what they would have told without the refused call
and leave the same problem but for the counter, while the next name is another one
than it would have been.  If a number is too long, what has been entered stays: the
links that are recorded, or the family that has been checked. -/
theorem call_refused_spec (p : Problem) {c : Command} {e : Error}
    (refused : (p.call c).2 = .error e) :
    (e ≠ .numberTooLong → c.makesName = false →
      (p.call c).1 = p ∧ ∀ more, (p.call c).1.replies more = p.replies more) ∧
    (e ≠ .numberTooLong → c.makesName = true →
      (p.call c).1 = p.withCounter p.pool.nextGenerated ∧
      p.pool.generated < p.pool.nextGenerated ∧
      (∀ more, (∀ d ∈ more, d.makesName = false) →
        (p.call c).1.replies more = p.replies more ∧
        (p.call c).1.run more = (p.run more).withCounter p.pool.nextGenerated) ∧
      ∀ dimensions first second,
        (p.call (.declareGenerated dimensions)).2 = .ok first →
          ((p.call c).1.call (.declareGenerated dimensions)).2 = .ok second →
            first ≠ second) ∧
    (e = .numberTooLong →
      (∃ m, p.pool.equalities.declareAll (p.recordedBy c) = .ok m ∧
        (p.call c).1 = p.withEqualities m) ∨
      (∃ name dimensions f, c = .declareFamily name dimensions ∧
        p.pool.checkFamily name dimensions = .ok f ∧
          (p.call c).1 = { p with pool := p.pool.append f }) ∨
      ∃ dimensions f, c = .declareGenerated dimensions ∧
        p.pool.checkFamily (Variables.generatedName p.pool.nextGenerated) dimensions = .ok f ∧
          (p.call c).1 =
            { p with pool := (p.pool.withCounter p.pool.nextGenerated).append f }) := by
  refine ⟨?plain, ?makes, ?entered⟩
  case plain =>
    intro other plain
    have same := fst_call_of_refused refused other plain
    rw [same]
    exact ⟨rfl, fun _ => rfl⟩
  case makes =>
    intro other makes
    cases c with
    | declareGenerated refusedDimensions =>
        have left := fst_call_declareGenerated_of_refused refused other
        rw [left]
        refine ⟨rfl, p.pool.generated_lt_nextGenerated,
          fun more plain => p.replies_withCounter _ plain, ?_⟩
        intro dimensions first second firstDeclared secondDeclared same
        have firstName := eq_generatedName_of_call firstDeclared
        have secondName := eq_generatedName_of_call secondDeclared
        rw [firstName, secondName] at same
        have sameNumber := Variables.generatedName_injective (Reply.name.inj same)
        have later := (p.pool.withCounter p.pool.nextGenerated).generated_lt_nextGenerated
        exact absurd sameNumber (Nat.ne_of_lt later)
    | _ => contradiction
  case entered =>
    rintro rfl
    exact fst_call_of_numberTooLong refused

/-- A made-up name is refused for the second of its dimensions while values are
held.  The values stay, and the answer to the equality declared next is the
same. -/
theorem call_refused_spec_second_dimension :
    let p := (fresh {}).run [.declareFamily "x" (.ofInts [2]), .decode [1, -2]]
    let c : Command := .declareGenerated (.ofInts [3, 0])
    (p.call c).2 = .error (.flawed [⟨[.field "dimensions", .index 1], .notPositive⟩]) ∧
      (p.call c).1 = p.withCounter 1 ∧
      (p.call c).1.replies [.declareEqual 2 (-2)] = [.error (.oppositeLiterals 2 (-2))] := by
  intro p c
  have refused : (p.call c).2 =
      .error (.flawed [⟨[.field "dimensions", .index 1], .notPositive⟩]) := by decide +kernel
  obtain ⟨left, -, same, -⟩ := (call_refused_spec p refused).2.1 (by decide) rfl
  have number : p.pool.nextGenerated = 1 := by decide +kernel
  rw [number] at left
  have untouched : p.replies [.declareEqual 2 (-2)] = [.error (.oppositeLiterals 2 (-2))] := by
    decide +kernel
  exact ⟨refused, left, (same _ (by decide)).1.trans untouched⟩

/-- A refused family of no variables uses up the first made-up name, so the next
family gets the second one. -/
theorem not_call_refused_keeps_pool :
    ((fresh {}).call (.declareGenerated (.ofInts [0]))).2 =
        .error (.flawed [⟨[.field "dimensions", .index 0], .notPositive⟩]) ∧
      ((fresh {}).call (.declareGenerated (.ofInts [0]))).1.pool ≠ (fresh {}).pool ∧
      (fresh {}).replies [.declareGenerated (.ofInts [1])] = [.ok (.name "__anon__1")] ∧
      ((fresh {}).call (.declareGenerated (.ofInts [0]))).1.replies
        [.declareGenerated (.ofInts [1])] = [.ok (.name "__anon__2")] := by
  refine ⟨?_, ?_, ?_, ?_⟩ <;> decide +kernel

end Problem

end Clausal
