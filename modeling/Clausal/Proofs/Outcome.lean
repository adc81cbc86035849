/-!
# Outcomes of operations that can fail

An operation gives a result or the cause of its failure.  A sequence of
operations succeeds when each of them does, and so does one operation carried
out on every member of a list.
-/

namespace Clausal.Outcome

variable {ε α β : Type}

theorem ok_bind (a : α) (next : α → Except ε β) : (Except.ok a >>= next) = next a :=
  rfl

/-- What comes after a failure is not carried out. -/
theorem error_bind (e : ε) (next : α → Except ε β) : (Except.error e >>= next) = .error e :=
  rfl

/-- Two operations in sequence succeed when both do. -/
theorem bind_eq_ok_iff {first : Except ε α} {next : α → Except ε β} {b : β} :
    (first >>= next) = .ok b ↔ ∃ a, first = .ok a ∧ next a = .ok b := by
  cases first with
  | error e => simp [bind, Except.bind]
  | ok a => simp [bind, Except.bind]

theorem pure_eq_ok_iff {a b : α} : (pure a : Except ε α) = .ok b ↔ a = b := by
  simp [pure, Except.pure]

theorem map_eq_ok_iff {first : Except ε α} {f : α → β} {b : β} :
    first.map f = .ok b ↔ ∃ a, first = .ok a ∧ f a = b := by
  cases first with
  | error e => simp [Except.map]
  | ok a => simp [Except.map]

theorem map_eq_error_iff {first : Except ε α} {f : α → β} {e : ε} :
    first.map f = .error e ↔ first = .error e := by
  cases first with
  | error e => simp [Except.map]
  | ok a => simp [Except.map]

/-- Another cause for a failure leaves what succeeds. -/
theorem mapError_eq_ok_iff {φ : Type} {first : Except ε α} {f : ε → φ} {a : α} :
    first.mapError f = .ok a ↔ first = .ok a := by
  cases first with
  | error e => exact iff_of_false nofun nofun
  | ok b =>
      change (.ok b : Except φ α) = .ok a ↔ _
      simp

theorem mapError_eq_error_iff {φ : Type} {first : Except ε α} {f : ε → φ} {e : φ} :
    first.mapError f = .error e ↔ ∃ cause, first = .error cause ∧ f cause = e := by
  cases first with
  | error cause =>
      change (.error (f cause) : Except φ α) = .error e ↔ _
      simp
  | ok b => exact iff_of_false nofun nofun

/-- The cause of a failure, if there is one. -/
def cause? : Except ε α → Option ε
  | .ok _ => none
  | .error e => some e

theorem cause?_eq_none_iff {outcome : Except ε Unit} :
    cause? outcome = none ↔ outcome = .ok () := by
  cases outcome <;> simp [cause?]

theorem cause?_eq_some_iff {outcome : Except ε α} {e : ε} :
    cause? outcome = some e ↔ outcome = .error e := by
  cases outcome <;> simp [cause?]

/-! ## Operations on every member of a list -/

variable {f : α → Except ε β}

theorem mapM_cons_eq_ok_iff {x : α} {xs : List α} {ys : List β} :
    (x :: xs).mapM f = .ok ys ↔ ∃ y rest, f x = .ok y ∧ xs.mapM f = .ok rest ∧ y :: rest = ys := by
  rw [List.mapM_cons, bind_eq_ok_iff]
  simp only [bind_eq_ok_iff, pure_eq_ok_iff, exists_and_left]

/-- A list of operations succeeds when each of them gives the member of the
result at its place. -/
theorem mapM_eq_ok_iff {xs : List α} {ys : List β} :
    xs.mapM f = .ok ys ↔ xs.map f = ys.map .ok := by
  induction xs generalizing ys with
  | nil => cases ys <;> simp [pure, Except.pure]
  | cons x xs ih =>
      rw [mapM_cons_eq_ok_iff, List.map_cons]
      constructor
      · rintro ⟨y, rest, first, made, rfl⟩
        rw [first, ih.mp made, List.map_cons]
      · intro equal
        cases ys with
        | nil => simp at equal
        | cons y ys =>
            injection equal with first rest
            exact ⟨y, ys, first, ih.mpr rest, rfl⟩

theorem length_eq_of_mapM {xs : List α} {ys : List β} (made : xs.mapM f = .ok ys) :
    xs.length = ys.length := by
  simpa using congrArg List.length (mapM_eq_ok_iff.mp made)

/-- Each result is that of the member at its place. -/
theorem getElem_of_mapM {xs : List α} {ys : List β} (made : xs.mapM f = .ok ys) {i : Nat}
    (below : i < xs.length) (resultBelow : i < ys.length) : f xs[i] = .ok ys[i] := by
  have there : i < (xs.map f).length := by rwa [List.length_map]
  have atPlace := List.getElem_of_eq (mapM_eq_ok_iff.mp made) there
  rwa [List.getElem_map, List.getElem_map] at atPlace

theorem mapM_drop {xs : List α} {ys : List β} (made : xs.mapM f = .ok ys) (count : Nat) :
    (xs.drop count).mapM f = .ok (ys.drop count) := by
  rw [mapM_eq_ok_iff, List.map_drop, List.map_drop, mapM_eq_ok_iff.mp made]

theorem mapM_append {xs others : List α} {ys rest : List β} (made : xs.mapM f = .ok ys)
    (othersMade : others.mapM f = .ok rest) : (xs ++ others).mapM f = .ok (ys ++ rest) := by
  rw [mapM_eq_ok_iff, List.map_append, List.map_append, mapM_eq_ok_iff.mp made,
    mapM_eq_ok_iff.mp othersMade]

/-- Operations that cannot fail give the list of their results. -/
theorem mapM_eq_ok_map {xs : List α} {g : α → β} (results : ∀ x ∈ xs, f x = .ok (g x)) :
    xs.mapM f = .ok (xs.map g) := by
  rw [mapM_eq_ok_iff, List.map_map]
  exact List.map_congr_left results

theorem exists_mapM_eq_ok {xs : List α} (succeeds : ∀ x ∈ xs, ∃ y, f x = .ok y) :
    ∃ ys, xs.mapM f = .ok ys := by
  induction xs with
  | nil => exact ⟨[], rfl⟩
  | cons x xs ih =>
      rcases succeeds x List.mem_cons_self with ⟨y, first⟩
      rcases ih fun x later => succeeds x (List.mem_cons_of_mem _ later) with ⟨ys, rest⟩
      rw [mapM_eq_ok_iff] at rest
      exact ⟨y :: ys, by rw [mapM_eq_ok_iff, List.map_cons, List.map_cons, first, rest]⟩

/-- Where each operation can give one result only, the results are known. -/
theorem eq_map_of_mapM {xs : List α} {ys : List β} {g : α → β} (made : xs.mapM f = .ok ys)
    (results : ∀ x y, f x = .ok y → y = g x) : ys = xs.map g := by
  induction xs generalizing ys with
  | nil =>
      cases made
      rfl
  | cons x xs ih =>
      rcases mapM_cons_eq_ok_iff.mp made with ⟨y, rest, first, restMade, rfl⟩
      rw [results x y first, ih restMade, List.map_cons]

/-- A property of all results is one of all members, where the two go together
for every member and its result. -/
theorem forall_mem_of_mapM {xs : List α} {ys : List β} (made : xs.mapM f = .ok ys)
    {P : β → Prop} {Q : α → Prop} (results : ∀ x ∈ xs, ∀ y, f x = .ok y → (P y ↔ Q x)) :
    (∀ y ∈ ys, P y) ↔ ∀ x ∈ xs, Q x := by
  induction xs generalizing ys with
  | nil =>
      cases made
      simp
  | cons x xs ih =>
      rcases mapM_cons_eq_ok_iff.mp made with ⟨y, rest, first, restMade, rfl⟩
      rw [List.forall_mem_cons, List.forall_mem_cons, results x List.mem_cons_self y first,
        ih restMade fun other later => results other (List.mem_cons_of_mem x later)]

/-- What holds of every result that a member can have holds of all results. -/
theorem forall_mem_results {xs : List α} {ys : List β} (made : xs.mapM f = .ok ys) {P : β → Prop}
    (results : ∀ x ∈ xs, ∀ y, f x = .ok y → P y) : ∀ y ∈ ys, P y := by
  have both := forall_mem_of_mapM made fun x member y result =>
    iff_true_intro (results x member y result)
  exact both.mpr fun _ _ => trivial

/-- Where an operation fails on some member of a list and can fail for one reason
only, the list of operations fails for it. -/
theorem mapM_eq_error {xs : List α} {e : ε} (fails : ∃ x ∈ xs, f x = .error e)
    (only : ∀ x ∈ xs, ∀ other, f x = .error other → other = e) : xs.mapM f = .error e := by
  induction xs with
  | nil =>
      obtain ⟨x, impossible, -⟩ := fails
      cases impossible
  | cons x xs ih =>
      rw [List.mapM_cons]
      cases first : f x with
      | error other =>
          rw [only x List.mem_cons_self other first]
          rfl
      | ok y =>
          have later : ∃ x ∈ xs, f x = .error e := by
            obtain ⟨z, zMem, failed⟩ := fails
            obtain rfl | inRest := List.mem_cons.mp zMem
            · rw [first] at failed
              contradiction
            · exact ⟨z, inRest, failed⟩
          have rest := ih later fun z zMem => only z (List.mem_cons_of_mem x zMem)
          change (xs.mapM f >>= _) = _
          rw [rest]
          rfl

end Clausal.Outcome
