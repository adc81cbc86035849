import Mathlib.Algebra.BigOperators.Group.List.Lemmas
import Mathlib.Algebra.Order.BigOperators.GroupWithZero.List
import Mathlib.Data.List.Nodup
import Clausal.Proofs.Problem.Codes
import Clausal.Proofs.Problem.Refusal

/-!
# Made-up names

A name is made up by moving a counter on until its name is free.  Nothing bounds
this search but the families that there are: each of them takes one name, so one
of the next numbers, of which there is one more than families, has a free name.
The name that is found cannot be refused for being taken, and the names that
calls have told are those of families, none of them twice.  A family whose report
has too long a number is declared and its name is not told.
-/

namespace Clausal

/-! ## The search for a free name -/

namespace Variables

/-- The search for a free name, which moves the counter on from `n`, ends with
the counter at `m`. -/
inductive Finds (a : Variables) : Nat → Nat → Prop
  /-- The name of the next number is free. -/
  | free (n : Nat) (isFree : a.declares (generatedName (n + 1)) = false) : a.Finds n (n + 1)
  /-- The name of the next number is taken, and the search goes on from there. -/
  | taken (n m : Nat) (isTaken : a.declares (generatedName (n + 1)) = true)
      (rest : a.Finds (n + 1) m) : a.Finds n m

variable {a : Variables} {n m : Nat}

/-- A search ends at one number. -/
theorem Finds.unique (first : a.Finds n m) {k : Nat} (second : a.Finds n k) : m = k := by
  induction first with
  | free n isFree =>
      cases second with
      | free => rfl
      | taken _ _ isTaken _ =>
          rw [isFree] at isTaken
          contradiction
  | taken n m isTaken _ ih =>
      cases second with
      | free _ isFree =>
          rw [isFree] at isTaken
          contradiction
      | taken _ _ _ rest => exact ih rest

/-- A search passes over the taken names to the first free one. -/
theorem finds_of_taken_below (later : n < m)
    (below : ∀ k, n < k → k < m → a.declares (generatedName k) = true)
    (isFree : a.declares (generatedName m) = false) : a.Finds n m := by
  induction hleft : m - n generalizing n with
  | zero => omega
  | succ left ih =>
      rcases Nat.lt_or_eq_of_le (Nat.succ_le_of_lt later) with further | rfl
      · apply Finds.taken n m (below (n + 1) (Nat.lt_succ_self n) further)
        exact ih further (fun k above => below k (Nat.lt_of_succ_lt above)) (by omega)
      · exact Finds.free n isFree

/-- The families cannot take the names of more numbers than there are
families. -/
theorem exists_free (a : Variables) (n : Nat) :
    ∃ k, n < k ∧ k ≤ n + a.families.length + 1 ∧ a.declares (generatedName k) = false := by
  by_contra noneFree
  have allTaken : (List.range' (n + 1) (a.families.length + 1)).map generatedName ⊆
      a.families.map Family.name := by
    intro name nameMem
    rcases List.mem_map.mp nameMem with ⟨k, kMem, rfl⟩
    rcases List.mem_range'_1.mp kMem with ⟨above, below⟩
    by_contra notTaken
    refine noneFree ⟨k, above, by omega, ?_⟩
    rw [declares_eq_false_iff]
    intro f familyMem sameName
    exact notTaken (sameName ▸ List.mem_map_of_mem familyMem)
  have distinct : ((List.range' (n + 1) (a.families.length + 1)).map generatedName).Nodup :=
    (List.nodup_range' 1).map generatedName_injective
  have atMost := distinct.length_le_of_subset allTaken
  rw [List.length_map, List.length_map, List.length_range'] at atMost
  omega

/-- The next generated number is the first one past the counter with a free name,
and lies no further on than the families can fill. -/
theorem nextGenerated_spec (a : Variables) :
    (∀ k, a.generated < k → k < a.nextGenerated → a.declares (generatedName k) = true) ∧
      a.declares (generatedName a.nextGenerated) = false ∧
      a.nextGenerated ≤ a.generated + a.families.length + 1 := by
  rw [nextGenerated]
  cases found : (List.range' (a.generated + 1) (a.families.length + 1)).find? fun n =>
      !a.declares (generatedName n) with
  | none =>
      rcases a.exists_free a.generated with ⟨k, above, below, isFree⟩
      have taken := List.find?_eq_none.mp found k (List.mem_range'_1.mpr ⟨above, by omega⟩)
      simp [isFree] at taken
  | some n =>
      rcases List.find?_range'_eq_some.mp found with ⟨isFree, nMem, below⟩
      rcases List.mem_range'_1.mp nMem with ⟨above, within⟩
      rw [Option.getD_some]
      refine ⟨?_, by simpa using isFree, by omega⟩
      intro k past before
      simpa using below k past before

/-- The search ends at the next generated number. -/
theorem finds_nextGenerated (a : Variables) : a.Finds a.generated a.nextGenerated := by
  rcases a.nextGenerated_spec with ⟨below, isFree, -⟩
  exact finds_of_taken_below a.generated_lt_nextGenerated below isFree

example : ((Problem.fresh {}).run
    [.declareFamily "__anon__1" (.ofInts [3])]).pool.nextGenerated = 2 := by
  decide +kernel

end Variables

/-! ## Families that are accepted -/

namespace Family

/-- The members of a value are dimensions that a family may have. -/
def Accepts (v : Value) (dimensions : List Nat) : Prop :=
  ∃ members, v.members? = some members ∧
    ∃ valid, checkDimensions (.list members) = .ok ⟨dimensions, valid⟩

variable {dimensions : List Nat}

/-- Integers are dimensions of a family when there are some and each is
positive. -/
theorem accepts_ofInts_iff {ns : List Int} :
    Accepts (.ofInts ns) dimensions ↔
      ns = dimensions.map Int.ofNat ∧ dimensions ≠ [] ∧ ∀ d ∈ dimensions, 0 < d := by
  constructor
  · rintro ⟨members, listed, valid, checked⟩
    cases listed
    refine ⟨?_, valid⟩
    obtain ⟨positives, listChecked, rest⟩ := Outcome.bind_eq_ok_iff.mp checked
    split at rest
    · cases rest
      rw [List.map_map]
      exact ((Record.list_ofInts_eq_ok_iff fun _ _ => Record.positive_int_eq_ok_iff).mp
        listChecked).symm
    · contradiction
  · rintro ⟨rfl, valid⟩
    refine ⟨_, rfl, valid, Outcome.bind_eq_ok_iff.mpr
      ⟨dimensions.attachWith _ valid.2, ?_, ?_⟩⟩
    · apply (Record.list_ofInts_eq_ok_iff fun _ _ => Record.positive_int_eq_ok_iff).mpr
      simp
    · rw [dif_pos (by simpa using valid.1)]
      simp

/-- A family can be reported when its last code can be written. -/
theorem legible_reported_iff (f : Family) :
    (∀ n ∈ f.reported, Decimal.Legible n) ↔ Decimal.Legible (f.base + f.size : Nat) := by
  have positive : 0 < f.size := List.prod_pos f.dimensions_pos
  rw [reported, List.forall_mem_append, List.forall_mem_cons, List.forall_mem_singleton,
    List.forall_mem_map]
  constructor
  · rintro ⟨-, -, last⟩
    exact last
  · intro last
    refine ⟨?_, last.of_natAbs_le ?_, last⟩
    · intro d dimensionMem
      have divides : d ≤ f.size := Nat.le_of_dvd positive (List.dvd_prod dimensionMem)
      apply last.of_natAbs_le
      change d ≤ f.base + f.size
      omega
    · change f.base + 1 ≤ f.base + f.size
      omega

/-- A family with a name and accepted dimensions passes its check. -/
theorem exists_check_eq {v : Value} (accepted : Accepts v dimensions) {name : Text}
    (nameNe : name ≠ []) (base : Nat) :
    ∃ members, v.members? = some members ∧ ∃ f : Family,
      check (some (.text name)) (some (.list members)) (some (.int base)) = .ok f ∧
        f.name = name ∧ f.dimensions = dimensions ∧ f.base = base := by
  rcases accepted with ⟨members, listed, valid, checked⟩
  have nameChecked : Record.required "name" checkName (some (.text name)) =
      .ok ⟨name, nameNe⟩ := Record.below_eq_ok_iff.mpr (dif_pos nameNe)
  have dimensionsChecked : Record.required "dimensions" checkDimensions
      (some (.list members)) = .ok ⟨dimensions, valid⟩ := Record.below_eq_ok_iff.mpr checked
  have baseChecked : Record.required "base_offset" Record.natural (some (.int base)) =
      .ok base := by
    rw [Record.required, Record.natural_natCast]
    rfl
  refine ⟨members, listed, ⟨name, dimensions, base, nameNe, valid.1, valid.2⟩, ?_,
    rfl, rfl, rfl⟩
  rw [check, nameChecked, dimensionsChecked, baseChecked]

end Family

namespace Variables

variable {a : Variables}

/-- A family is refused for its name when that is taken, and otherwise for what
is wrong with its dimensions only. -/
theorem checkFamily_ne_duplicateFamily {name : Text} (isFree : a.declares name = false)
    (dimensions : Value) (other : Text) :
    a.checkFamily name dimensions ≠ .error (.duplicateFamily other) := by
  rw [checkFamily, if_neg (by simp [isFree])]
  cases dimensions.members? with
  | none => simp
  | some members =>
      dsimp only
      cases Family.check (some (.text name)) (some (.list members)) (some (.int a.size)) <;>
        simp [Except.mapError]

theorem name_of_checkFamily {name : Text} {dimensions : Value} {f : Family}
    (checked : a.checkFamily name dimensions = .ok f) : f.name = name := by
  unfold checkFamily at checked
  split at checked
  · contradiction
  · split at checked
    · contradiction
    · rename_i members _
      cases outcome : Family.check (some (.text name)) (some (.list members))
          (some (.int a.size)) with
      | error flaws =>
          rw [outcome] at checked
          contradiction
      | ok g =>
          rw [outcome] at checked
          cases checked
          exact (Family.name_base_of_check outcome).1

theorem generatedName_ne_nil (n : Nat) : generatedName n ≠ [] :=
  List.append_ne_nil_of_left_ne_nil (by decide) _

/-- A family with a free name and accepted dimensions is not refused. -/
theorem exists_checkFamily_eq {name : Text} (isFree : a.declares name = false)
    (nameNe : name ≠ []) {v : Value} {dimensions : List Nat}
    (accepted : Family.Accepts v dimensions) :
    ∃ f : Family, a.checkFamily name v = .ok f ∧
      f.name = name ∧ f.dimensions = dimensions ∧ f.base = a.size := by
  obtain ⟨members, listed, f, checked, described⟩ := Family.exists_check_eq accepted nameNe a.size
  refine ⟨f, ?_, described⟩
  rw [checkFamily, if_neg (by simp [isFree]), listed]
  dsimp only
  rw [checked]
  rfl

/-- A family under a made-up name is checked with the counter moved on, and entered
before it is reported. -/
theorem declareGenerated_eq (a : Variables) (dimensions : Value) :
    a.declareGenerated dimensions =
      match a.checkFamily (generatedName a.nextGenerated) dimensions with
      | .ok f =>
          ((a.withCounter a.nextGenerated).append f,
            (Error.writing f.reported).map fun _ => generatedName a.nextGenerated)
      | .error e => (a.withCounter a.nextGenerated, .error e) := by
  have sameCheck : (a.withCounter a.nextGenerated).checkFamily (generatedName a.nextGenerated)
      dimensions = a.checkFamily (generatedName a.nextGenerated) dimensions := rfl
  rw [declareGenerated, declareFrom, ← sameCheck, withCounter]
  cases checkFamily _ (generatedName a.nextGenerated) dimensions with
  | error e => rfl
  | ok f =>
      dsimp only
      cases Error.writing f.reported <;> rfl

end Variables

/-! ## What calls declare -/

/-- The name of the family that a call tells of. -/
def Reply.declaredName? : Reply → Option Text
  | .family f => some f.name
  | .name t => some t
  | _ => none

namespace Problem

open Variables

/-- The name of the family that a call has declared, if it has declared one. -/
def declaredName? (told : Except Error Reply) : Option Text :=
  told.toOption.bind Reply.declaredName?

variable (p : Problem) {after : Problem} {c : Command}

theorem call_declareFamily (name : Text) (dimensions : Value) :
    p.call (.declareFamily name dimensions) =
      match p.pool.checkFamily name dimensions with
      | .ok f =>
          ({ p with pool := p.pool.append f }, (Error.writing f.reported).map fun _ => .family f)
      | .error e => (p, .error e) := by
  rw [call_eq, effect, afterFailure, declareFrom]
  cases p.pool.checkFamily name dimensions with
  | error e => rfl
  | ok f =>
      dsimp only
      cases Error.writing f.reported <;> rfl

theorem call_declareGenerated (dimensions : Value) :
    p.call (.declareGenerated dimensions) =
      match p.pool.checkFamily (generatedName p.pool.nextGenerated) dimensions with
      | .ok f =>
          ({ p with pool := (p.pool.withCounter p.pool.nextGenerated).append f },
            (Error.writing f.reported).map fun _ =>
              .name (generatedName p.pool.nextGenerated))
      | .error e => (p.withCounter p.pool.nextGenerated, .error e) := by
  rw [call_eq, effect, afterFailure, declareGenerated_eq]
  cases p.pool.checkFamily (generatedName p.pool.nextGenerated) dimensions with
  | error e => rfl
  | ok f =>
      dsimp only
      cases Error.writing f.reported <;> rfl

/-! A command that declares no family keeps the families. -/

variable {p}

theorem families_of_withPool {outcome : Except Error Variables}
    (executed : p.withPool outcome = .ok after)
    (kept : ∀ a, outcome = .ok a → a.families = p.pool.families) :
    after.pool.families = p.pool.families := by
  obtain ⟨a, made, rfl⟩ := withPool_eq_ok_iff.mp executed
  exact kept a made

theorem families_of_withFormula {outcome : Except Error Formula}
    (executed : p.withFormula outcome = .ok after) : after.pool.families = p.pool.families := by
  obtain ⟨f, -, rfl⟩ := withFormula_eq_ok_iff.mp executed
  rfl

theorem families_of_links (links : c.links = true) (executed : p.execute c = .ok after) :
    after.pool.families = p.pool.families := by
  obtain ⟨m, -, left⟩ := p.exists_perform_eq_withEqualities links
  rw [perform, executed] at left
  exact congrArg (fun q => q.pool.families) left

theorem families_of_taking {model : Option (List Int)} (taken : p.taking model = .ok after) :
    after.pool.families = p.pool.families := by
  cases model with
  | none =>
      cases taken
      rfl
  | some model => exact families_of_withPool taken fun _ => Variables.families_of_decode

/-- A command that declares no family keeps the families that there are. -/
theorem families_of_execute (executed : p.execute c = .ok after)
    (plain : c.declaresFamily = false) : after.pool.families = p.pool.families := by
  cases c with
  | declareFamily name dimensions => contradiction
  | declareGenerated dimensions => contradiction
  | declareEqual x y => exact families_of_links rfl executed
  | declareEqualAll pairs => exact families_of_links rfl executed
  | assertEqual x y => exact families_of_links rfl executed
  | assertXorWithConstant xs ys constant => exact families_of_links rfl executed
  | decode raw => exact families_of_withPool executed fun _ => Variables.families_of_decode
  | readSolution text =>
      apply families_of_withPool executed
      intro a taken
      obtain ⟨⟨b, held⟩, read, rfl⟩ := Outcome.map_eq_ok_iff.mp taken
      rcases decode_or_eq_of_readSolution read with ⟨raw, decoded⟩ | rfl
      · exact Variables.families_of_decode decoded
      · rfl
  | addImage box inputs outputs =>
      rw [execute_addImage] at executed
      exact families_of_withFormula executed
  | solve backend =>
      obtain ⟨answer, solved, rfl⟩ := Outcome.map_eq_ok_iff.mp executed
      exact families_of_taking (solve_eq_ok_iff.mp solved).2.2.2
  | _ => exact families_of_withFormula executed

variable (p)

/-- A call that declares no family keeps the families and tells of none. -/
theorem call_of_plain (plain : c.declaresFamily = false) :
    (p.call c).1.pool.families = p.pool.families ∧ declaredName? (p.call c).2 = none := by
  have executed := p.map_snd_effect c
  rw [call_eq]
  cases outcome : p.effect c with
  | error e =>
      refine ⟨?_, rfl⟩
      rw [outcome] at executed
      obtain ⟨m, -, left⟩ := exists_afterFailure_eq plain executed.symm
      exact congrArg (fun q => q.pool.families) left
  | ok result =>
      rw [outcome] at executed
      refine ⟨families_of_execute executed.symm plain, ?_⟩
      cases c with
      | declareFamily name dimensions => contradiction
      | declareGenerated dimensions => contradiction
      | _ =>
          obtain ⟨_, -, rfl⟩ := Outcome.map_eq_ok_iff.mp outcome
          rfl

/-! ## The names of a run -/

/-- A call adds the family that it tells of behind the others.  It adds a family
that it does not tell of only where a number is too long. -/
theorem exists_names_call (c : Command) :
    ∃ added, (p.call c).1.pool.families.map Family.name =
        p.pool.families.map Family.name ++ added ∧
      List.Sublist (declaredName? (p.call c).2).toList added ∧
      ((p.call c).2 ≠ .error .numberTooLong → added = (declaredName? (p.call c).2).toList) := by
  -- A declaration tells of the family if it can report it, and enters it anyway.
  have entered : ∀ {t : Text} {f : Family} {told : Reply}, told.declaredName? = some t →
      List.Sublist
          (declaredName? ((Error.writing f.reported).map fun _ => told)).toList [t] ∧
        ((Error.writing f.reported).map (fun _ => told) ≠ .error .numberTooLong →
          [t] = (declaredName? ((Error.writing f.reported).map fun _ => told)).toList) := by
    intro t f told named
    rcases Error.writing_cases f.reported with fits | tooLong
    · simp [fits, declaredName?, Except.map, Except.toOption, named]
    · simp [tooLong, declaredName?, Except.map, Except.toOption]
  cases kind : c.declaresFamily with
  | false =>
      obtain ⟨kept, silent⟩ := p.call_of_plain kind
      refine ⟨[], ?_, ?_, ?_⟩
      · rw [kept, List.append_nil]
      · rw [silent]
        exact List.Sublist.refl []
      · rw [silent]
        exact fun _ => rfl
  | true =>
      cases c with
      | declareFamily name dimensions =>
          rw [call_declareFamily]
          cases p.pool.checkFamily name dimensions with
          | error e => exact ⟨[], by simp [declaredName?, Except.toOption]⟩
          | ok f => exact ⟨[f.name], by simp [append], entered rfl⟩
      | declareGenerated dimensions =>
          rw [call_declareGenerated]
          cases checked : p.pool.checkFamily (generatedName p.pool.nextGenerated) dimensions with
          | error e => exact ⟨[], by simp [declaredName?, Except.toOption, withCounter]⟩
          | ok f => exact ⟨[f.name], by simp [append],
              name_of_checkFamily checked ▸ entered rfl⟩
      | _ => contradiction

/-- The names that some calls tell of, in the order of the calls. -/
def declaredNames (told : List (Except Error Reply)) : List Text :=
  told.filterMap declaredName?

theorem declaredNames_cons (told : Except Error Reply) (rest : List (Except Error Reply)) :
    declaredNames (told :: rest) = (declaredName? told).toList ++ declaredNames rest := by
  rw [declaredNames, declaredNames, List.filterMap_cons]
  cases declaredName? told <;> rfl

/-- The names that calls tell of are among those of the families that they add, in
the order of the families, and are all of them unless a number is too long. -/
theorem exists_names_run (commands : List Command) :
    ∃ added, (p.run commands).pool.families.map Family.name =
        p.pool.families.map Family.name ++ added ∧
      List.Sublist (declaredNames (p.replies commands)) added ∧
      ((∀ told ∈ p.replies commands, told ≠ .error .numberTooLong) →
        added = declaredNames (p.replies commands)) := by
  induction commands generalizing p with
  | nil => exact ⟨[], by simp [run, replies, declaredNames]⟩
  | cons c rest ih =>
      have after : p.run (c :: rest) = (p.call c).1.run rest := by
        rw [fst_call]
        rfl
      have told : p.replies (c :: rest) = (p.call c).2 :: (p.call c).1.replies rest := rfl
      obtain ⟨first, here, hereTold, hereAll⟩ := p.exists_names_call c
      obtain ⟨others, later, laterTold, laterAll⟩ := ih (p.call c).1
      refine ⟨first ++ others, ?_, ?_, ?_⟩
      · rw [after, later, here, List.append_assoc]
      · rw [told, declaredNames_cons]
        exact hereTold.append laterTold
      · rw [told, declaredNames_cons]
        intro short
        obtain ⟨hereShort, laterShort⟩ := List.forall_mem_cons.mp short
        rw [hereAll hereShort, laterAll laterShort]

variable {p}

/-- In any state the search for a free name ends at one number, after no more
turns than there are families and one.  A declaration under a made-up name is
never refused for the name.  If the dimensions are valid, it adds one family, of a
name that no family has and those dimensions, and tells this name if it can write
how many variables there are then.  So the names that the calls of a run tell of,
given or made up, are among those of the families, and no two families have the same
name.  They are the names of all families if no call has failed because of a number
that is too long. -/
theorem call_declareGenerated_run_spec (settings : Settings) (commands : List Command)
    (reached : (fresh settings).run commands = p) :
    (∀ n, p.pool.Finds p.pool.generated n ↔ n = p.pool.nextGenerated) ∧
      p.pool.nextGenerated ≤ p.pool.generated + p.pool.families.length + 1 ∧
      (∀ dimensions name,
        (p.call (.declareGenerated dimensions)).2 ≠ .error (.duplicateFamily name)) ∧
      (∀ v dimensions, Family.Accepts v dimensions → ∃ f : Family,
        (p.call (.declareGenerated v)).1 =
            { p with pool := (p.pool.withCounter p.pool.nextGenerated).append f } ∧
          (Decimal.Legible (p.pool.size + f.size : Nat) →
            (p.call (.declareGenerated v)).2 = .ok (.name f.name)) ∧
          (¬ Decimal.Legible (p.pool.size + f.size : Nat) →
            (p.call (.declareGenerated v)).2 = .error .numberTooLong) ∧
          f.name = generatedName p.pool.nextGenerated ∧
          f.name ∉ p.pool.families.map Family.name ∧
          f.dimensions = dimensions ∧ f.base = p.pool.size) ∧
      (p.pool.families.map Family.name).Nodup ∧
      List.Sublist (declaredNames ((fresh settings).replies commands))
        (p.pool.families.map Family.name) ∧
      ((∀ told ∈ (fresh settings).replies commands, told ≠ .error .numberTooLong) →
        declaredNames ((fresh settings).replies commands) = p.pool.families.map Family.name) := by
  have isFree := p.pool.nextGenerated_spec.2.1
  obtain ⟨added, names, told, all⟩ := (fresh settings).exists_names_run commands
  have noneBefore : (fresh settings).pool.families.map Family.name ++ added = added := rfl
  rw [noneBefore, reached] at names
  rw [← names] at told all
  refine ⟨?found, p.pool.nextGenerated_spec.2.2, ?free, ?accepted, ?distinct, told,
    fun short => (all short).symm⟩
  case found =>
    intro n
    constructor
    · intro found
      exact found.unique p.pool.finds_nextGenerated
    · rintro rfl
      exact p.pool.finds_nextGenerated
  case free =>
    intro dimensions name
    have notTaken := checkFamily_ne_duplicateFamily isFree dimensions name
    rw [call_declareGenerated]
    cases checked : p.pool.checkFamily (generatedName p.pool.nextGenerated) dimensions with
    | ok f =>
        rcases Error.writing_cases f.reported with fits | tooLong
        · simp [fits, Except.map]
        · simp [tooLong, Except.map]
    | error e =>
        rw [checked] at notTaken
        simpa using notTaken
  case accepted =>
    intro v dimensions accepted
    obtain ⟨f, checked, named, dimensioned, based⟩ :=
      exists_checkFamily_eq isFree (generatedName_ne_nil _) accepted
    have called := p.call_declareGenerated v
    rw [checked] at called
    dsimp only at called
    refine ⟨f, ?_⟩
    rw [called, ← based, ← f.legible_reported_iff]
    refine ⟨rfl, ?_, ?_, named, ?_, dimensioned, rfl⟩
    · intro legible
      rw [Error.writing_eq_ok_iff.mpr legible, named]
      rfl
    · intro tooLong
      rw [Error.writing_eq_error_iff.mpr ⟨rfl, tooLong⟩]
      rfl
    · intro isTaken
      rcases List.mem_map.mp isTaken with ⟨g, familyMem, sameName⟩
      exact declares_eq_false_iff.mp isFree g familyMem (sameName.trans named)
  case distinct =>
    rw [← reached]
    exact (wellFormed_run settings commands).names_nodup

/-- The caller has taken the fourth and the fifth name, and a refused family has
used up the third one after the first two were found taken. -/
theorem call_declareGenerated_run_spec_sixth :
    let commands : List Command :=
      [.declareFamily "__anon__2" (.ofInts [1]), .declareFamily "__anon__1" (.ofInts [3]),
        .declareGenerated (.ofInts [2, 0]), .declareFamily "__anon__5" (.ofInts [1]),
        .declareFamily "__anon__4" (.ofInts [2])]
    let p := (fresh {}).run commands
    Family.Accepts (.ofInts [2, 3]) [2, 3] ∧
      (p.call (.declareGenerated (.ofInts [2, 3]))).2 = .ok (.name "__anon__6") ∧
      declaredNames ((fresh {}).replies commands) =
        ["__anon__2", "__anon__1", "__anon__5", "__anon__4"] := by
  intro commands p
  have accepted : Family.Accepts (.ofInts [2, 3]) [2, 3] :=
    Family.accepts_ofInts_iff.mpr (by decide)
  obtain ⟨-, -, -, declares, -, -, names⟩ := call_declareGenerated_run_spec {} commands rfl
  obtain ⟨f, -, told, -, named, -, dimensioned, -⟩ := declares _ _ accepted
  have number : p.pool.nextGenerated = 6 := by decide +kernel
  have spelled : generatedName 6 = "__anon__6" := by decide +kernel
  have total : p.pool.size + f.size = 13 := by
    rw [Family.size, dimensioned]
    decide +kernel
  refine ⟨accepted, ?_, ?_⟩
  · rw [told (by rw [total]; exact Decimal.legible_of_natAbs_lt (by decide)), named, number,
      spelled]
  · rw [names (by decide +kernel)]
    decide +kernel

/-- A family of too many variables for their number to be written is declared, but
its made-up name is not told. -/
theorem not_call_declareGenerated_tells_name :
    let v : Value := .ofInts [Decimal.overlong]
    Family.Accepts v [Decimal.overlong.toNat] ∧
      ((fresh {}).call (.declareGenerated v)).1.pool.families.length = 1 ∧
      ((fresh {}).call (.declareGenerated v)).2 = .error .numberTooLong := by
  intro v
  refine ⟨?_, by decide +kernel, by decide +kernel⟩
  exact Family.accepts_ofInts_iff.mpr (by decide +kernel)

end Problem

end Clausal
