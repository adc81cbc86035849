import Clausal.Proofs.Template.Irredundant

/-!
# Passes level by level

Two rows that merge have as many positions that do not matter, and the merged
row has one more, unless one of them subsumes the other.  Rows that a pass does
not merge cannot be merged with each other.  So on irredundant rows the first
pass merges rows in which every position matters, the next one rows with one
position that does not, and so on: the rows left by earlier passes cannot be
merged any more, and after as many passes as there are inputs nothing can.
-/

namespace Clausal.Template

/-! ## Positions that do not matter -/

/-- How many positions of a row do not matter. -/
def Row.dontCares (r : Row) : Nat :=
  r.pattern.count 0

/-- Patterns that merge have as many zeros and the merged one has one more, or
one of them has all signs of the other. -/
theorem count_zero_mergePattern {p q merged : List Int}
    (found : mergePattern p q = some merged) (sameLength : p.length = q.length) :
    (p.count 0 = q.count 0 ∧ merged.count 0 = p.count 0 + 1) ∨
      SignsWithin p q ∨ SignsWithin q p := by
  induction p generalizing q merged with
  | nil => simp [mergePattern] at found
  | cons a p ih =>
      cases q with
      | nil => simp [mergePattern] at found
      | cons b q =>
          have restLength : p.length = q.length := by simpa using sameLength
          rw [mergePattern] at found
          split at found
          · rename_i sameSign
            subst sameSign
            obtain ⟨rest, restFound, rfl⟩ := Option.map_eq_some_iff.mp found
            rcases ih restFound restLength with counts | within | within
            · left
              simp only [List.count_cons]
              omega
            · exact Or.inr (Or.inl (within.cons a))
            · exact Or.inr (Or.inr (within.cons a))
          · rename_i different
            split at found
            · rename_i restAgrees
              cases found
              cases (agree_iff restLength).mp restAgrees
              by_cases firstZero : a = 0
              · subst firstZero
                exact Or.inr (Or.inl (signsWithin_zero_cons b p))
              · by_cases secondZero : b = 0
                · subst secondZero
                  exact Or.inr (Or.inr (signsWithin_zero_cons a p))
                · left
                  simp [firstZero, secondZero]
            · contradiction

/-- Rows that merge have as many positions that do not matter and the merged row
has one more, unless one of them subsumes the other. -/
theorem dontCares_merge {width : Nat} {r s merged : Row} (signed : r.Signed width)
    (otherSigned : s.Signed width) (found : merge r s = some merged)
    (notSubsumes : ¬ r.Subsumes s ∧ ¬ s.Subsumes r) :
    r.dontCares = s.dontCares ∧ merged.dontCares = r.dontCares + 1 := by
  obtain ⟨sameOutput, -, patternFound⟩ := merge_eq_some_iff.mp found
  have sameLength := signed.length_pattern.trans otherSigned.length_pattern.symm
  rcases count_zero_mergePattern patternFound sameLength with counts | within | within
  · exact counts
  · exact absurd ⟨sameOutput, within⟩ notSubsumes.1
  · exact absurd ⟨sameOutput.symm, within⟩ notSubsumes.2

/-! ## What a pass merges and what it keeps -/

/-- The pairs of rows that a pass merges, in the order of the merged rows. -/
def mergedPairs : List Row → List (Row × Row)
  | [] => []
  | r :: rest =>
      ((rest.filter fun s => (merge r s).isSome).map fun s => (r, s)) ++
        mergedPairs (unmerged r rest)
termination_by rows => rows.length
decreasing_by
  exact Nat.lt_succ_of_le (List.length_filter_le _ _)

variable {rows : List Row}

/-- The merged rows of a pass are those of its pairs. -/
theorem map_merge_mergedPairs (rows : List Row) :
    (mergedPairs rows).map (fun e => merge e.1 e.2) = (pass rows).merged.map some := by
  induction rows using pass.induct with
  | case1 =>
      rw [mergedPairs, pass]
      rfl
  | case2 r rest ih =>
      rw [mergedPairs, pass, List.map_append, ih, List.map_map]
      simp only [Pass.after, List.map_append]
      rw [List.map_filterMap_some_eq_filter_map_isSome, List.filter_map]
      rfl

/-- Every merged row comes from a pair. -/
theorem exists_mem_mergedPairs {row : Row} (mergedMem : row ∈ (pass rows).merged) :
    ∃ e ∈ mergedPairs rows, merge e.1 e.2 = some row := by
  have someMem := List.mem_map_of_mem (f := some) mergedMem
  rw [← map_merge_mergedPairs] at someMem
  exact List.mem_map.mp someMem

/-- Every pair gives a merged row. -/
theorem merge_ne_none_of_mem_mergedPairs {e : Row × Row} (pairMem : e ∈ mergedPairs rows) :
    merge e.1 e.2 ≠ none := by
  have outcomeMem := List.mem_map_of_mem (f := fun e => merge e.1 e.2) pairMem
  rw [map_merge_mergedPairs] at outcomeMem
  obtain ⟨row, -, found⟩ := List.mem_map.mp outcomeMem
  rw [← found]
  exact Option.some_ne_none row

/-- Of the rows of a pair that a pass merges the first one comes first. -/
theorem sublist_of_mem_mergedPairs {e : Row × Row} (pairMem : e ∈ mergedPairs rows) :
    [e.1, e.2].Sublist rows := by
  induction rows using pass.induct with
  | case1 =>
      rw [mergedPairs] at pairMem
      contradiction
  | case2 first rest ih =>
      rw [mergedPairs] at pairMem
      rcases List.mem_append.mp pairMem with here | later
      · obtain ⟨partner, partnerMem, rfl⟩ := List.mem_map.mp here
        exact (List.singleton_sublist.mpr (List.mem_filter.mp partnerMem).1).cons_cons _
      · exact ((ih later).trans List.filter_sublist).cons _

/-- A pass keeps rows of those that there were, in their order. -/
theorem kept_sublist (rows : List Row) : (pass rows).kept.Sublist rows := by
  induction rows using pass.induct with
  | case1 => simp [pass]
  | case2 r rest ih =>
      have later := ih.trans (List.filter_sublist (p := fun s => (merge r s).isNone) (l := rest))
      rw [pass, Pass.after]
      split
      · exact later.cons_cons r
      · exact later.cons r

/-- The rows that a pass keeps cannot be merged with each other. -/
theorem pairwise_kept_pass (rows : List Row) :
    (pass rows).kept.Pairwise fun r s => merge r s = none := by
  induction rows using pass.induct with
  | case1 =>
      rw [pass]
      exact List.Pairwise.nil
  | case2 r rest ih =>
      rw [pass, Pass.after]
      split
      · rename_i noMerge
        rw [List.isEmpty_iff, List.filterMap_eq_nil_iff] at noMerge
        apply List.Pairwise.cons _ ih
        intro s keptMem
        exact noMerge s (List.filter_sublist.subset ((kept_sublist _).subset keptMem))
      · exact ih

/-! ## Levels -/

/-- Irredundant rows in which at most `count` positions do not matter, and of
which only those can be merged in which `count` positions do not. -/
structure Level (width count : Nat) (rows : List Row) : Prop where
  signed : ∀ r ∈ rows, r.Signed width
  irredundant : Irredundant rows
  dontCares_le : ∀ r ∈ rows, r.dontCares ≤ count
  dontCares_eq : rows.Pairwise fun r s =>
    merge r s ≠ none → r.dontCares = count ∧ s.dontCares = count

namespace Level

variable {width count : Nat}

/-- A pass merges rows in which `count` positions do not matter. -/
theorem dontCares_mergedPairs (level : Level width count rows) :
    ∀ e ∈ mergedPairs rows, e.1.dontCares = count ∧ e.2.dontCares = count := by
  intro e pairMem
  have ordered := sublist_of_mem_mergedPairs pairMem
  exact List.pairwise_iff_forall_sublist.mp level.dontCares_eq ordered
    (merge_ne_none_of_mem_mergedPairs pairMem)

/-- In the merged rows one more position does not matter. -/
theorem dontCares_merged (level : Level width count rows) :
    ∀ row ∈ (pass rows).merged, row.dontCares = count + 1 := by
  intro row mergedMem
  obtain ⟨⟨r, s⟩, pairMem, found⟩ := exists_mem_mergedPairs mergedMem
  have ordered : [r, s].Sublist rows := sublist_of_mem_mergedPairs pairMem
  have signed := level.signed r (ordered.subset List.mem_cons_self)
  have otherSigned := level.signed s (ordered.subset (by simp))
  have apart := List.pairwise_iff_forall_sublist.mp level.irredundant.pairwise_not_subsumes ordered
  rw [(dontCares_merge signed otherSigned found apart).2, (level.dontCares_mergedPairs _ pairMem).1]

/-- Rows at a level are at the next one after a pass. -/
theorem rows_pass (level : Level width count rows) : Level width (count + 1) (pass rows).rows := by
  have signed := signed_pass level.signed
  have irredundant := level.irredundant.pass level.signed
  have keptLe : ∀ r ∈ (pass rows).kept, r.dontCares ≤ count := fun r keptMem =>
    level.dontCares_le r ((kept_sublist rows).subset keptMem)
  refine ⟨signed, irredundant, ?_, ?_⟩
  · intro r rowMem
    rcases List.mem_append.mp rowMem with mergedMem | keptMem
    · exact Nat.le_of_eq (level.dontCares_merged r mergedMem)
    · exact Nat.le_succ_of_le (keptLe r keptMem)
  · apply List.pairwise_append.mpr
    refine ⟨?merged, ?kept, ?across⟩
    case merged =>
      apply List.pairwise_of_forall_mem_list
      intro r rowMem s otherMem _
      exact ⟨level.dontCares_merged r rowMem, level.dontCares_merged s otherMem⟩
    case kept => exact (pairwise_kept_pass rows).imp fun apart merges => absurd apart merges
    case across =>
      -- A merged row is on another level than a row that was kept.
      intro r mergedMem s keptMem merges
      obtain ⟨row, found⟩ := Option.ne_none_iff_exists'.mp merges
      have apart := (List.pairwise_append.mp irredundant.pairwise_not_subsumes).2.2
        r mergedMem s keptMem
      have counts := dontCares_merge (signed r (List.mem_append_left _ mergedMem))
        (signed s (List.mem_append_right _ keptMem)) found apart
      have above := level.dontCares_merged r mergedMem
      have below := keptLe s keptMem
      omega

/-- At the level of all positions no rows can be merged. -/
theorem merges_eq_zero (level : Level width width rows) : (pass rows).merges = 0 := by
  apply List.length_eq_zero_iff.mpr
  apply List.eq_nil_iff_forall_not_mem.mpr
  intro row mergedMem
  have counted := level.dontCares_merged row mergedMem
  have bound : row.dontCares ≤ row.pattern.length := List.count_le_length
  rw [(level.rows_pass.signed row (List.mem_append_left _ mergedMem)).length_pattern] at bound
  omega

end Level

/-! ## The rows of a table -/

variable {inputs outputs : Nat}

/-- In the pattern of an input every position matters. -/
theorem zero_not_mem_patternOf (inputs x : Nat) : (0 : Int) ∉ patternOf inputs x := by
  intro zeroMem
  obtain ⟨bit, -, sign⟩ := List.mem_map.mp zeroMem
  cases bit <;> contradiction

/-- The rows of a table are at the lowest level. -/
theorem level_naive {table : List Int} (tableLength : table.length ≤ Bits.span inputs) :
    Level inputs 0 (naive inputs outputs table) := by
  have allMatter : ∀ r ∈ naive inputs outputs table, r.dontCares = 0 := by
    intro r rowMem
    obtain ⟨x, y, -, entryMem⟩ := mem_naive_iff.mp rowMem
    obtain ⟨k, bit, -, rfl⟩ := mem_rowsOf_iff.mp entryMem
    exact List.count_eq_zero.mpr (zero_not_mem_patternOf inputs x)
  refine ⟨fun r rowMem => (fits_of_mem_naive rowMem).toSigned, irredundant_naive tableLength,
    fun r rowMem => Nat.le_of_eq (allMatter r rowMem), ?_⟩
  apply List.pairwise_of_forall_mem_list
  intro r rowMem s otherMem _
  exact ⟨allMatter r rowMem, allMatter s otherMem⟩

/-- After `count` passes the rows of a table are at level `count`. -/
theorem level_afterPasses_naive {table : List Int} (tableLength : table.length ≤ Bits.span inputs)
    (count : Nat) : Level inputs count (afterPasses count (naive inputs outputs table)) :=
  afterPasses_induction (P := Level inputs) (level_naive tableLength)
    (fun _ _ level => level.rows_pass) count

end Clausal.Template
