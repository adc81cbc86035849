import Clausal.Proofs.Equalities.Chain
import Clausal.Proofs.Equalities.Declaration
import Clausal.Proofs.Writing

/-!
# Declarations and their reports

A declaration is entered and then reported, and what has been entered stays where
the report cannot be written.  So what a call makes of a map is what `declareAll`
makes of it for the pairs that the call has entered: all of them if it succeeds,
and otherwise those in front of the first failure, with the pair of this failure
if only its report fails.

The report of a link names the two literals and their roots.  Roots of a forest
are not of greater magnitude, so the report can be written when the literals can.
-/

namespace Clausal.Equalities

variable {m after : Equalities} {x y : Int} {pairs rest : List (Int × Int)} {e : Error}

/-- The report of a declaration. -/
def report (m : Equalities) (x y : Int) : Except Error Unit :=
  match m.linkFor x y with
  | .ok (some l) => Error.writing [x, y, l.source, l.target]
  | _ => .ok ()

/-- The pairs that are entered when several are to be made equal. -/
def entered (m : Equalities) : List (Int × Int) → List (Int × Int)
  | [] => []
  | (x, y) :: rest =>
      match m.declare x y with
      | .error _ => []
      | .ok after =>
          match m.report x y with
          | .error _ => [(x, y)]
          | .ok _ => (x, y) :: after.entered rest

/-- The pairs that stay equal after several were to be made equal: none where the
map that there was is put back. -/
def kept (m : Equalities) (pairs : List (Int × Int)) : List (Int × Int) :=
  match (m.enterAll pairs).2 with
  | .ok _ => pairs
  | .error e => if e.isOwn then [] else m.entered pairs

/-! ## What is entered -/

/-- A single declaration is one of several. -/
theorem enterAll_singleton (m : Equalities) (x y : Int) : m.enterAll [(x, y)] = m.enter x y := by
  rw [enterAll]
  rcases m.enter x y with ⟨after, _ | _⟩ <;> rfl

/-- A declaration that is accepted is entered, whatever becomes of its report. -/
theorem enter_of_declare (declared : m.declare x y = .ok after) :
    m.enter x y = (after, m.report x y) := by
  rw [declare] at declared
  rw [enter, report]
  cases linked : m.linkFor x y with
  | error e =>
      rw [linked] at declared
      contradiction
  | ok found =>
      rw [linked] at declared
      cases found <;> (cases declared; rfl)

theorem enter_of_declare_eq_error (refused : m.declare x y = .error e) :
    m.enter x y = (m, .error e) := by
  rw [declare] at refused
  rw [enter]
  cases linked : m.linkFor x y with
  | error other =>
      rw [linked] at refused
      cases refused
      rfl
  | ok found =>
      rw [linked] at refused
      cases found <;> contradiction

/-- What a call makes of a map is due to the pairs that it has entered. -/
theorem declareAll_entered (m : Equalities) (pairs : List (Int × Int)) :
    m.declareAll (m.entered pairs) = .ok (m.enterAll pairs).1 := by
  induction pairs generalizing m with
  | nil => rfl
  | cons pair rest ih =>
      obtain ⟨x, y⟩ := pair
      rw [entered, enterAll]
      cases declared : m.declare x y with
      | error e =>
          rw [enter_of_declare_eq_error declared]
          rfl
      | ok after =>
          rw [enter_of_declare declared]
          cases m.report x y with
          | error e => exact declareAll_cons_of_declare declared []
          | ok _ => exact (declareAll_cons_of_declare declared _).trans (ih after)

/-- A call that succeeds has entered all pairs. -/
theorem entered_eq_self (succeeded : (m.enterAll pairs).2 = .ok ()) : m.entered pairs = pairs := by
  induction pairs generalizing m with
  | nil => rfl
  | cons pair rest ih =>
      obtain ⟨x, y⟩ := pair
      rw [enterAll] at succeeded
      rw [entered]
      cases declared : m.declare x y with
      | error e =>
          rw [enter_of_declare_eq_error declared] at succeeded
          contradiction
      | ok after =>
          rw [enter_of_declare declared] at succeeded
          cases reported : m.report x y with
          | error e =>
              rw [reported] at succeeded
              contradiction
          | ok _ =>
              rw [reported] at succeeded
              exact congrArg _ (ih succeeded)

/-- A call that fails does so at the first pair that cannot be declared or cannot
be reported.  The pair is entered in the second case only. -/
theorem exists_of_enterAll_eq_error (failed : (m.enterAll pairs).2 = .error e) :
    ∃ front x y back middle, pairs = front ++ (x, y) :: back ∧
      m.declareAll front = .ok middle ∧
        (middle.declare x y = .error e ∧ m.entered pairs = front ∨
          (∃ after, middle.declare x y = .ok after) ∧ middle.report x y = .error e ∧
            m.entered pairs = front ++ [(x, y)]) := by
  induction pairs generalizing m with
  | nil => contradiction
  | cons pair rest ih =>
      obtain ⟨x, y⟩ := pair
      rw [enterAll] at failed
      cases declared : m.declare x y with
      | error other =>
          rw [enter_of_declare_eq_error declared] at failed
          cases failed
          refine ⟨[], x, y, rest, m, rfl, rfl, Or.inl ⟨declared, ?_⟩⟩
          rw [entered, declared]
      | ok after =>
          rw [enter_of_declare declared] at failed
          cases reported : m.report x y with
          | error other =>
              rw [reported] at failed
              cases failed
              refine ⟨[], x, y, rest, m, rfl, rfl, Or.inr ⟨⟨after, declared⟩, reported, ?_⟩⟩
              rw [entered, declared, reported]
              rfl
          | ok _ =>
              rw [reported] at failed
              obtain ⟨front, u, v, back, middle, rfl, made, last⟩ := ih failed
              have opened : m.entered ((x, y) :: (front ++ (u, v) :: back)) =
                  (x, y) :: after.entered (front ++ (u, v) :: back) := by
                rw [entered, declared, reported]
              refine ⟨(x, y) :: front, u, v, back, middle, rfl,
                (declareAll_cons_of_declare declared front).trans made, ?_⟩
              rw [opened]
              exact last.imp (And.imp_right (congrArg _))
                (And.imp_right (And.imp_right (congrArg _)))

/-- What a call enters stays if the call succeeds. -/
theorem kept_of_ok (succeeded : (m.enterAll pairs).2 = .ok ()) : m.kept pairs = pairs := by
  rw [kept, succeeded]

/-- A failure of the library's own leaves nothing. -/
theorem kept_of_isOwn (failed : (m.enterAll pairs).2 = .error e) (own : e.isOwn = true) :
    m.kept pairs = [] := by
  rw [kept, failed]
  exact if_pos own

/-- Any other failure leaves what has been entered. -/
theorem kept_of_not_isOwn (failed : (m.enterAll pairs).2 = .error e) (foreign : e.isOwn = false) :
    m.kept pairs = m.entered pairs := by
  rw [kept, failed]
  exact if_neg (Bool.eq_false_iff.mp foreign)

/-! ## Which failures there are -/

/-- A report fails in one way. -/
theorem eq_numberTooLong_of_report (failed : m.report x y = .error e) : e = .numberTooLong := by
  rw [report] at failed
  split at failed
  · exact (Error.writing_eq_error_iff.mp failed).1
  · contradiction

/-- A literal that is not resolved is refused by the library itself, or has too many
digits to be reported. -/
theorem isOwn_or_of_resolve_eq_error {lit : Int} (failed : m.resolve lit = .error e) :
    e.isOwn = true ∨ e = .numberTooLong := by
  by_cases zero : lit = 0
  · subst zero
    cases failed
    exact Or.inl rfl
  · obtain ⟨_, -, reached, ⟨-, resolved⟩ | ⟨-, loops⟩⟩ := m.resolve_cases zero
    · rw [resolved] at failed
      contradiction
    · rw [loops] at failed
      cases failed
      exact Error.isOwn_raised_or rfl

theorem isOwn_or_of_declare_eq_error (refused : m.declare x y = .error e) :
    e.isOwn = true ∨ e = .numberTooLong := by
  rw [declare, linkFor] at refused
  cases xResolved : m.resolve x with
  | error other =>
      rw [xResolved] at refused
      cases refused
      exact isOwn_or_of_resolve_eq_error xResolved
  | ok rx =>
      rw [xResolved, Outcome.ok_bind] at refused
      cases yResolved : m.resolve y with
      | error other =>
          rw [yResolved] at refused
          cases refused
          exact isOwn_or_of_resolve_eq_error yResolved
      | ok ry =>
          rw [yResolved, Outcome.ok_bind] at refused
          split_ifs at refused
          · contradiction
          · cases refused
            exact Error.isOwn_raised_or rfl
          · contradiction
          · contradiction

/-- Declarations of any map are either refused by the library itself or fail
because a number is too long. -/
theorem isOwn_or_of_enterAll_eq_error (failed : (m.enterAll pairs).2 = .error e) :
    e.isOwn = true ∨ e = .numberTooLong := by
  obtain ⟨_, _, _, _, _, -, -, ⟨refused, -⟩ | ⟨-, reported, -⟩⟩ :=
    exists_of_enterAll_eq_error failed
  · exact isOwn_or_of_declare_eq_error refused
  · exact Or.inr (eq_numberTooLong_of_report reported)

namespace Forest

/-- A declaration is refused for a zero, or because its literals are opposites. -/
theorem eq_of_declare_eq_error (forest : m.Forest) (refused : m.declare x y = .error e) :
    e = .zeroLiteral ∨ e = (Error.oppositeLiterals x y).raised := by
  by_cases zero : x = 0 ∨ y = 0
  · rw [forest.declare_of_eq_zero zero, Except.error.injEq] at refused
    exact Or.inl refused.symm
  · obtain ⟨xNe, yNe⟩ := not_or.mp zero
    rw [forest.declare_eq xNe yNe] at refused
    split at refused
    · contradiction
    · split at refused
      · exact Or.inr (Except.error.inj refused).symm
      · contradiction

/-- The ends of a link are the roots of the two literals. -/
theorem ends_of_linkFor (forest : m.Forest) {l : Link} (linked : m.linkFor x y = .ok (some l)) :
    l.source = m.root x ∧ l.target = m.root y ∨ l.source = m.root y ∧ l.target = m.root x := by
  by_cases xZero : x = 0
  · subst xZero
    contradiction
  · by_cases yZero : y = 0
    · subst yZero
      rw [forest.linkFor_zero_right] at linked
      contradiction
    · rw [forest.linkFor_eq xZero yZero] at linked
      split at linked
      · cases linked
      · split at linked
        · cases linked
        · cases linked
          rw [linkBetween]
          split
          · exact Or.inl ⟨rfl, rfl⟩
          · exact Or.inr ⟨rfl, rfl⟩

/-- The report of two literals that can be written can be written. -/
theorem report_eq_ok (forest : m.Forest) (xLegible : Decimal.Legible x)
    (yLegible : Decimal.Legible y) : m.report x y = .ok () := by
  have xRoot := xLegible.of_natAbs_le (forest.natAbs_root_le x)
  have yRoot := yLegible.of_natAbs_le (forest.natAbs_root_le y)
  rw [report]
  split
  · rename_i l linked
    rw [Error.writing_eq_ok_iff]
    rcases forest.ends_of_linkFor linked with ⟨source, target⟩ | ⟨source, target⟩
    · rw [source, target]
      simp [xLegible, yLegible, xRoot, yRoot]
    · rw [source, target]
      simp [xLegible, yLegible, xRoot, yRoot]
  · rfl

/-- A call that fails does so at the first pair that is refused by the library
itself, or that has too long a number.  In the second case the pair is entered
unless its literals are opposites. -/
theorem exists_of_enterAll_eq_error (forest : m.Forest)
    (failed : (m.enterAll pairs).2 = .error e) :
    ∃ front x y back middle, pairs = front ++ (x, y) :: back ∧
      m.declareAll front = .ok middle ∧
        (e.isOwn = true ∧ middle.declare x y = .error e ∨
          e = .numberTooLong ∧ ¬ (Decimal.Legible x ∧ Decimal.Legible y) ∧
            (m.entered pairs = front ∨ m.entered pairs = front ++ [(x, y)])) := by
  obtain ⟨front, x, y, back, middle, split, made, last⟩ :=
    Equalities.exists_of_enterAll_eq_error failed
  have middleForest := forest.declareAll made
  refine ⟨front, x, y, back, middle, split, made, ?_⟩
  rcases last with ⟨refused, entered⟩ | ⟨-, reported, entered⟩
  · rcases middleForest.eq_of_declare_eq_error refused with rfl | opposite
    · exact Or.inl ⟨rfl, refused⟩
    · rcases Error.raised_eq_iff.mp opposite.symm with ⟨rfl, -⟩ | ⟨rfl, tooLong⟩
      · exact Or.inl ⟨rfl, refused⟩
      · refine Or.inr ⟨rfl, fun legible => tooLong ?_, Or.inl entered⟩
        simpa [Error.integers] using legible
  · have tooLong := eq_numberTooLong_of_report reported
    refine Or.inr ⟨tooLong, ?_, Or.inr entered⟩
    rintro ⟨xLegible, yLegible⟩
    rw [middleForest.report_eq_ok xLegible yLegible] at reported
    contradiction

end Forest

/-! ## Literals that can be written -/

/-- All literals of some pairs can be written. -/
def LegiblePairs (pairs : List (Int × Int)) : Prop :=
  ∀ e ∈ pairs, Decimal.Legible e.1 ∧ Decimal.Legible e.2

theorem legiblePairs_of_short
    (short : ∀ e ∈ pairs, e.1.natAbs < 10 ^ 20 ∧ e.2.natAbs < 10 ^ 20) : LegiblePairs pairs :=
  fun e pairMem => ⟨Decimal.legible_of_natAbs_lt (short e pairMem).1,
    Decimal.legible_of_natAbs_lt (short e pairMem).2⟩

/-- That two literals are opposites is reported if they can be written. -/
theorem raised_oppositeLiterals (xLegible : Decimal.Legible x) (yLegible : Decimal.Legible y) :
    (Error.oppositeLiterals x y).raised = .oppositeLiterals x y :=
  Error.raised_eq_self (List.forall_mem_cons.mpr ⟨xLegible, List.forall_mem_singleton.mpr yLegible⟩)

namespace Forest

/-- For literals that can be written a call fails as the declarations do. -/
theorem snd_enterAll (forest : m.Forest) (legible : LegiblePairs pairs) :
    (m.enterAll pairs).2 = (m.declareAll pairs).map fun _ => () := by
  induction pairs generalizing m with
  | nil => rfl
  | cons pair rest ih =>
      obtain ⟨x, y⟩ := pair
      obtain ⟨⟨xLegible, yLegible⟩, restLegible⟩ := List.forall_mem_cons.mp legible
      rw [enterAll]
      cases declared : m.declare x y with
      | error e =>
          rw [enter_of_declare_eq_error declared, Equalities.declareAll, List.foldlM_cons, declared]
          rfl
      | ok after =>
          rw [enter_of_declare declared, forest.report_eq_ok xLegible yLegible,
            declareAll_cons_of_declare declared]
          exact ih (forest.declare declared) restLegible

/-- For literals that can be written the only refusals are that of a zero and
that of two opposites. -/
theorem eq_of_declareAll_eq_error (forest : m.Forest) (legible : LegiblePairs pairs)
    (refused : m.declareAll pairs = .error e) :
    e = .zeroLiteral ∨ ∃ x y, e = .oppositeLiterals x y := by
  obtain ⟨front, x, y, back, middle, rfl, accepted, last⟩ := exists_declare_eq_error refused
  obtain ⟨xLegible, yLegible⟩ := legible (x, y) (by simp)
  refine ((forest.declareAll accepted).eq_of_declare_eq_error last).imp_right fun raised => ?_
  rw [raised_oppositeLiterals xLegible yLegible] at raised
  exact ⟨x, y, raised⟩

/-- For literals that can be written every failure is one of the library's own. -/
theorem isOwn_of_enterAll_eq_error (forest : m.Forest) (legible : LegiblePairs pairs)
    (failed : (m.enterAll pairs).2 = .error e) : e.isOwn = true := by
  obtain ⟨front, x, y, back, _, rfl, -, ⟨own, -⟩ | ⟨-, tooLong, -⟩⟩ :=
    forest.exists_of_enterAll_eq_error failed
  · exact own
  · exact absurd (legible (x, y) (by simp)) tooLong

end Forest

end Clausal.Equalities
