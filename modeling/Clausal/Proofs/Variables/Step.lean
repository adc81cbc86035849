import Clausal.Proofs.Variables.Decode
import Clausal.Proofs.Variables.Layout

/-!
# Steps of the variables

Whatever a command does, the variables make one of four steps: the counter of
generated names moves or nothing does, a family is appended, pairs of literals
are linked, or an answer is taken.  Each of them keeps variables well-formed and
keeps the families that there are.
-/

namespace Clausal.Variables

/-- What one command can make of some variables, and the pairs that it makes
equal. -/
inductive Becomes (a : Variables) : List (Int × Int) → Variables → Prop
  /-- Nothing changes but the counter of generated names. -/
  | counted (n : Nat) : a.Becomes [] { a with generated := n }
  /-- A new family begins after the last code. -/
  | declared (n : Nat) (f : Family) (isNew : a.declares f.name = false) (base : f.base = a.size) :
      a.Becomes [] ({ a with generated := n }.append f)
  /-- Pairs are linked. -/
  | linked (pairs : List (Int × Int)) (m : Equalities)
      (made : a.equalities.declareAll pairs = .ok m) : a.Becomes pairs { a with equalities := m }
  /-- An answer is taken. -/
  | taken (raw : List Int) (after : Variables) (decoded : a.decode raw = .ok after) :
      a.Becomes [] after

/-- Nothing has to change. -/
theorem Becomes.refl (a : Variables) : a.Becomes [] a :=
  .counted a.generated

variable {a after : Variables} {pairs : List (Int × Int)}

/-- A declaration after the counter has moved makes a step whether it succeeds or
not. -/
theorem becomes_declareFrom (a : Variables) (n : Nat) (name : Text) (dimensions : Value) :
    a.Becomes [] (({ a with generated := n } : Variables).declareFrom name dimensions).1 := by
  cases checked : ({ a with generated := n } : Variables).checkFamily name dimensions with
  | error e =>
      rw [declareFrom_of_checkFamily_eq_error checked]
      exact .counted n
  | ok f =>
      rw [declareFrom_of_checkFamily checked]
      obtain ⟨-, isNew, base⟩ := of_checkFamily checked
      exact .declared n f isNew base

theorem becomes_declareGenerated (a : Variables) (dimensions : Value) :
    a.Becomes [] (a.declareGenerated dimensions).1 :=
  becomes_declareFrom a _ _ dimensions

namespace Becomes

variable (becomes : a.Becomes pairs after)

include becomes

/-- A step makes its pairs equal and no others. -/
theorem declareAll : a.equalities.declareAll pairs = .ok after.equalities := by
  cases becomes with
  | counted n => rfl
  | declared n f _ _ => rfl
  | linked pairs m made => exact made
  | taken raw _ decoded =>
      obtain ⟨-, -, values, -, rfl⟩ := decode_eq_ok_iff.mp decoded
      rfl

/-- A step keeps variables well-formed. -/
theorem wellFormed (before : a.WellFormed) : after.WellFormed := by
  cases becomes with
  | counted n =>
      exact ⟨before.forest, before.names_nodup, before.base_eq, before.size_eq,
        before.length_values⟩
  | declared n f isNew base =>
      have counted : { a with generated := n }.WellFormed :=
        ⟨before.forest, before.names_nodup, before.base_eq, before.size_eq, before.length_values⟩
      exact counted.append isNew base
  | linked pairs m made =>
      exact ⟨before.forest.declareAll made, before.names_nodup, before.base_eq, before.size_eq,
        before.length_values⟩
  | taken raw _ decoded =>
      obtain ⟨families, bounded, -⟩ := decode_eq_ok_iff.mp decoded
      rw [decode_eq before.forest families bounded] at decoded
      cases decoded
      refine ⟨before.forest, before.names_nodup, before.base_eq, before.size_eq, ?_⟩
      intro values held
      cases held
      rw [List.length_map, List.length_range']

/-- A step keeps the families that there are, in their order. -/
theorem families_prefix : a.families <+: after.families := by
  cases becomes with
  | counted n => exact List.prefix_rfl
  | declared n f _ _ => exact List.prefix_append a.families [f]
  | linked pairs m _ => exact List.prefix_rfl
  | taken raw _ decoded =>
      obtain ⟨-, -, values, -, rfl⟩ := decode_eq_ok_iff.mp decoded
      exact List.prefix_rfl

/-- A step does not take variables away. -/
theorem size_le : a.size ≤ after.size := by
  cases becomes with
  | counted n => exact Nat.le_refl a.size
  | declared n f _ _ => exact Nat.le_add_right a.size f.size
  | linked pairs m _ => exact Nat.le_refl a.size
  | taken raw _ decoded =>
      obtain ⟨-, -, values, -, rfl⟩ := decode_eq_ok_iff.mp decoded
      exact Nat.le_refl a.size

/-- Valuations that respect the equalities after a step respected those before
it. -/
theorem respectedBy (forest : a.equalities.Forest) {s : Valuation}
    (respected : after.equalities.RespectedBy s) : a.equalities.RespectedBy s :=
  ((forest.respectedBy_declareAll becomes.declareAll).mp respected).1

end Becomes

/-! ## Codes -/

/-- A code that was given out stays that of its variable when more families are
declared. -/
theorem codeOf_of_families_prefix (grown : a.families <+: after.families) {name : Text}
    {coordinates : List Int} {code : Int} (coded : a.codeOf name coordinates = .ok code) :
    after.codeOf name coordinates = .ok code := by
  obtain ⟨f, found, inRange, rfl⟩ := codeOf_eq_ok_iff.mp coded
  obtain ⟨more, whole⟩ := grown
  have stillFound : after.family name = .ok f := by
    unfold family at found ⊢
    rw [← whole, List.find?_append]
    split at found
    · rename_i g first
      rw [first, Option.some_or]
      exact found
    · contradiction
  exact codeOf_eq stillFound inRange

end Clausal.Variables
