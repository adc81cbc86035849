import Clausal.Proofs.Clause
import Clausal.Proofs.Equalities.Report
import Clausal.Variables.Assigned

/-!
# What operations on variables change

A declaration appends a family and keeps the equalities; taking an answer sets
the values and keeps everything else; making literals equal changes the
equalities and nothing else, by the pairs that are kept.
-/

namespace Clausal

/-- A family that has been checked has the name and the offset that were
checked. -/
theorem Family.name_base_of_check {name : Text} {dimensions : Option Value} {base : Nat}
    {f : Family} (checked : check (some (.text name)) dimensions (some (.int base)) = .ok f) :
    f.name = name ∧ f.base = base := by
  unfold check at checked
  dsimp only at checked
  split at checked
  · rename_i n ds b nameChecked _ baseChecked
    cases checked
    constructor
    · rw [Record.required, Record.below_eq_ok_iff] at nameChecked
      obtain ⟨t, isText, rest⟩ := Outcome.bind_eq_ok_iff.mp nameChecked
      cases isText
      split at rest
      · cases rest
        rfl
      · contradiction
    · rw [Record.required, Record.below_eq_ok_iff] at baseChecked
      obtain ⟨n, isInteger, rest⟩ := Outcome.bind_eq_ok_iff.mp baseChecked
      cases isInteger
      rw [if_neg (Int.not_lt.mpr (Int.natCast_nonneg base))] at rest
      cases rest
      rfl
  · contradiction

namespace Variables

open Equalities

variable {a after : Variables}

/-! ## Declaring families -/

/-- A family that has been checked has a new name and begins after the last
code. -/
theorem of_checkFamily {name : Text} {dimensions : Value} {f : Family}
    (checked : a.checkFamily name dimensions = .ok f) :
    f.name = name ∧ a.declares f.name = false ∧ f.base = a.size := by
  unfold checkFamily at checked
  split at checked
  · contradiction
  · rename_i isNew
    split at checked
    · contradiction
    · have found := Outcome.mapError_eq_ok_iff.mp checked
      obtain ⟨sameName, base⟩ := Family.name_base_of_check found
      rw [← sameName] at isNew
      exact ⟨sameName, Bool.eq_false_iff.mpr isNew, base⟩

/-- A family is refused for other reasons than a number that is too long. -/
theorem ne_numberTooLong_of_checkFamily {name : Text} {dimensions : Value} {e : Error}
    (refused : a.checkFamily name dimensions = .error e) : e ≠ .numberTooLong := by
  unfold checkFamily at refused
  rintro rfl
  split at refused
  · cases refused
  · split at refused
    · cases refused
    · obtain ⟨flaws, -, impossible⟩ := Outcome.mapError_eq_error_iff.mp refused
      cases impossible

/-- A family that has been checked is appended, whatever becomes of its report. -/
theorem declareFrom_of_checkFamily {name : Text} {dimensions : Value} {f : Family}
    (checked : a.checkFamily name dimensions = .ok f) :
    a.declareFrom name dimensions = (a.append f, (Error.writing f.reported).map fun _ => f) := by
  rw [declareFrom, checked]

theorem declareFrom_of_checkFamily_eq_error {name : Text} {dimensions : Value} {e : Error}
    (refused : a.checkFamily name dimensions = .error e) :
    a.declareFrom name dimensions = (a, .error e) := by
  rw [declareFrom, refused]

/-- A family that is refused changes nothing, unless it is its report that fails. -/
theorem fst_declareFrom_of_error {name : Text} {dimensions : Value} {e : Error}
    (refused : (a.declareFrom name dimensions).2 = .error e) (other : e ≠ .numberTooLong) :
    (a.declareFrom name dimensions).1 = a := by
  cases checked : a.checkFamily name dimensions with
  | error _ => rw [declareFrom_of_checkFamily_eq_error checked]
  | ok f =>
      rw [declareFrom_of_checkFamily checked] at refused
      have failed := Outcome.map_eq_error_iff.mp refused
      exact absurd (Error.writing_eq_error_iff.mp failed).1 other

/-- A family that is not refused itself is appended before its report fails. -/
theorem exists_of_declareFrom_eq_error {name : Text} {dimensions : Value}
    (refused : (a.declareFrom name dimensions).2 = .error .numberTooLong) :
    ∃ f, a.checkFamily name dimensions = .ok f ∧
      (a.declareFrom name dimensions).1 = a.append f := by
  cases checked : a.checkFamily name dimensions with
  | error e =>
      rw [declareFrom_of_checkFamily_eq_error checked] at refused
      cases refused
      exact absurd rfl (ne_numberTooLong_of_checkFamily checked)
  | ok f =>
      rw [declareFrom_of_checkFamily checked]
      exact ⟨f, rfl, rfl⟩

/-! ## Equalities -/

/-- A single declaration is one of several: it has nothing to put back. -/
theorem declareEqual_eq_declareEqualAll (a : Variables) (x y : Int) :
    a.declareEqual x y = a.declareEqualAll [(x, y)] := by
  rw [declareEqual, declareEqualAll, enterAll_singleton]
  cases declared : a.equalities.declare x y with
  | error e =>
      rw [enter_of_declare_eq_error declared]
      dsimp only
      rw [ite_self]
  | ok m =>
      rw [enter_of_declare declared]
      cases reported : a.equalities.report x y with
      | ok _ => rfl
      | error e =>
          rw [eq_numberTooLong_of_report reported]
          rfl

/-- Several declarations make equal what is kept of them. -/
theorem exists_fst_declareEqualAll (a : Variables) (pairs : List (Int × Int)) :
    ∃ m, a.equalities.declareAll (a.equalities.kept pairs) = .ok m ∧
      (a.declareEqualAll pairs).1 = { a with equalities := m } := by
  rw [declareEqualAll, kept]
  cases outcome : a.equalities.enterAll pairs with
  | mk m told =>
      have made := a.equalities.declareAll_entered pairs
      rw [outcome] at made
      cases told with
      | ok _ =>
          refine ⟨m, ?_, rfl⟩
          rwa [entered_eq_self (by rw [outcome])] at made
      | error e =>
          dsimp only
          by_cases own : e.isOwn = true
          · rw [if_pos own, if_pos own]
            exact ⟨a.equalities, rfl, rfl⟩
          · rw [if_neg own, if_neg own]
            exact ⟨m, made, rfl⟩

theorem snd_declareEqualAll (a : Variables) (pairs : List (Int × Int)) :
    (a.declareEqualAll pairs).2 = (a.equalities.enterAll pairs).2 := by
  rw [declareEqualAll]
  rcases a.equalities.enterAll pairs with ⟨m, _ | _⟩ <;> rfl

/-- Declarations that succeed make their pairs equal. -/
theorem exists_fst_declareEqualAll_of_ok {pairs : List (Int × Int)}
    (succeeded : (a.equalities.enterAll pairs).2 = .ok ()) :
    ∃ m, a.equalities.declareAll pairs = .ok m ∧
      (a.declareEqualAll pairs).1 = { a with equalities := m } := by
  obtain ⟨m, made, after⟩ := a.exists_fst_declareEqualAll pairs
  rw [kept_of_ok succeeded] at made
  exact ⟨m, made, after⟩

/-! ## Taking an answer -/

theorem decode_eq_ok_iff {raw : List Int} :
    a.decode raw = .ok after ↔ a.families ≠ [] ∧ a.size < Word.signedBound ∧
      ∃ values, (List.range' 1 a.size).foldlM (settle a.equalities) (directValues a.size raw) =
        .ok values ∧ { a with values := some values } = after := by
  rw [decode]
  by_cases noFamilies : a.families = []
  · simp [noFamilies]
  · rw [if_neg (mt List.isEmpty_iff.mp noFamilies)]
    by_cases bounded : a.size < Word.signedBound
    · rw [if_neg (Nat.not_le.mpr bounded), Outcome.bind_eq_ok_iff]
      simp only [Outcome.pure_eq_ok_iff, noFamilies, bounded, ne_eq, not_false_eq_true, true_and]
    · rw [if_pos (Nat.not_lt.mp bounded)]
      simp [bounded]

theorem families_of_decode {raw : List Int} (decoded : a.decode raw = .ok after) :
    after.families = a.families := by
  obtain ⟨-, -, values, -, rfl⟩ := decode_eq_ok_iff.mp decoded
  rfl

/-- An answer as text is taken when it holds an assignment; otherwise nothing
changes. -/
theorem decode_or_eq_of_readSolution {text : Text} {held : Bool}
    (taken : a.readSolution text = .ok (after, held)) :
    (∃ raw, a.decode raw = .ok after) ∨ after = a := by
  unfold readSolution at taken
  split at taken
  · contradiction
  · obtain ⟨parsed, -, rest⟩ := Outcome.bind_eq_ok_iff.mp taken
    cases parsed with
    | none =>
        cases rest
        exact Or.inr rfl
    | some raw =>
        obtain ⟨decoded, found, equal⟩ := Outcome.bind_eq_ok_iff.mp rest
        cases equal
        exact Or.inl ⟨raw, found⟩

end Variables

end Clausal
