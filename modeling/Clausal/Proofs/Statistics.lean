import Mathlib.Tactic.SplitIfs
import Mathlib.Algebra.Order.BigOperators.Group.List
import Mathlib.Algebra.Order.Field.Rat
import Clausal.Statistics

/-!
# What statistics conserve

Each literal of an input is counted once: in the length of its clause, in the bin
of its variable and as positive or not.  No literal is zero and none is beyond the
announced variables, so no bin is added for one and none is lost with the bin that
is left out.  Hence all the totals are the same number, and means and ratios give
it back when they are multiplied out.

Counts do not depend on an order, so neither do the statistics.
-/

namespace Clausal

/-! ## Bins -/

namespace Statistics

variable {ns : List Nat}

theorem getElem?_foldl_tally (ns bins : List Nat) (i : Nat) :
    (ns.foldl tally bins)[i]? = bins[i]?.map (· + ns.count i) := by
  induction ns generalizing bins with
  | nil => simp
  | cons n ns ih =>
      rw [List.foldl_cons, ih, tally, List.getElem?_modify, List.count_cons]
      cases bins[i]? with
      | none => rfl
      | some b =>
          by_cases here : n = i
          · simp [here, Nat.add_assoc, Nat.add_comm 1]
          · simp [here]

/-- No more bins are taken than asked for where these have room for all
numbers. -/
theorem binCount_of_forall_lt {atLeast : Nat} (room : ∀ n ∈ ns, n < atLeast) :
    binCount atLeast ns = atLeast := by
  induction ns with
  | nil => rfl
  | cons n ns ih =>
      have fits := room n List.mem_cons_self
      have rest := ih fun m later => room m (List.mem_cons_of_mem n later)
      rw [binCount] at rest ⊢
      rw [List.foldl_cons, Nat.max_eq_left fits]
      exact rest

/-- There is one bin for each of the variables, and it says how many literals are
on the variable. -/
theorem occurrences_eq {count : Nat} {lits : List Int}
    (within : ∀ lit ∈ lits, lit.natAbs ≤ count) :
    occurrences count lits =
      (List.range' 1 count).map fun v => (lits.map Int.natAbs).count v := by
  have room : ∀ n ∈ lits.map Int.natAbs, n < count + 1 := by
    intro n numberMem
    rcases List.mem_map.mp numberMem with ⟨lit, literalMem, rfl⟩
    exact Nat.lt_succ_of_le (within lit literalMem)
  -- The bin of a variable is at its number, one place further on than its count.
  apply List.ext_getElem?
  intro i
  rw [occurrences, bins, binCount_of_forall_lt room, List.getElem?_drop, getElem?_foldl_tally,
    List.getElem?_map, List.getElem?_replicate]
  by_cases inside : i < count
  · rw [if_pos (by omega), List.getElem?_range' inside]
    simp
  · rw [if_neg (by omega), List.getElem?_eq_none (by simpa using inside)]
    rfl

/-- Up to the next bound there are in addition the numbers that are this bound. -/
theorem countP_between_succ (ns : List Nat) (bound : Nat) :
    ns.countP (fun n => 0 < n && n ≤ bound + 1) =
      ns.countP (fun n => 0 < n && n ≤ bound) + ns.count (bound + 1) := by
  induction ns with
  | nil => rfl
  | cons n ns ih =>
      rw [List.countP_cons, List.countP_cons, List.count_cons, ih]
      simp only [Bool.and_eq_true, decide_eq_true_eq, beq_iff_eq]
      split_ifs <;> omega

/-- Counting each of the numbers from one to some bound counts all numbers that
are between them. -/
theorem sum_map_count_range' (ns : List Nat) (bound : Nat) :
    ((List.range' 1 bound).map fun k => ns.count k).sum =
      ns.countP fun n => 0 < n && n ≤ bound := by
  induction bound with
  | zero =>
      symm
      simp [Nat.pos_iff_ne_zero]
  | succ bound ih =>
      rw [List.range'_concat, List.map_append, List.sum_append, ih, countP_between_succ]
      simp [Nat.add_comm 1]

/-- The bins of the variables have as many counts as there are literals. -/
theorem sum_occurrences {count : Nat} {lits : List Int}
    (within : ∀ lit ∈ lits, lit ≠ 0 ∧ lit.natAbs ≤ count) :
    (occurrences count lits).sum = lits.length := by
  rw [occurrences_eq fun lit literalMem => (within lit literalMem).2, sum_map_count_range',
    List.countP_map, List.countP_eq_length]
  intro lit literalMem
  have inRange := within lit literalMem
  simp only [Function.comp_apply, Bool.and_eq_true, decide_eq_true_eq]
  omega

/-! ## The histogram -/

/-- The counts of the histogram are those of all clauses but the empty ones. -/
theorem sum_histogramOf (lengths : List Nat) :
    (histogramOf lengths).sum + lengths.countP (fun n => longest < n) =
      lengths.countP fun n => 0 < n := by
  rw [histogramOf, sum_map_count_range']
  induction lengths with
  | nil => rfl
  | cons n lengths ih =>
      rw [List.countP_cons, List.countP_cons, List.countP_cons, ← ih]
      simp only [Bool.and_eq_true, decide_eq_true_eq]
      split_ifs <;> omega

/-- The ratio of the positive literals gives their number back. -/
theorem polarityOf_mul_length {lits : List Int} (some : lits ≠ []) :
    polarityOf lits * lits.length = (lits.countP fun lit => 0 < lit : Nat) := by
  have count : (lits.length : Rat) ≠ 0 := by
    exact_mod_cast mt List.length_eq_zero_iff.mp some
  rw [polarityOf, if_neg (mt List.isEmpty_iff.mp some), div_mul_cancel₀ _ count]

end Statistics

/-! ## Means -/

namespace Spread

variable {counts others : List Nat}

/-- The mean is the quotient of the sum and the number of counts, also where there
is nothing to count and it stands for zero. -/
theorem mean_ofCounts (counts : List Nat) :
    (ofCounts counts).mean.getD 0 = (counts.sum : Rat) / counts.length := by
  cases counts with
  | nil => simp [ofCounts, mean?]
  | cons n counts => rfl

theorem mean_mul_length (counts : List Nat) :
    (ofCounts counts).mean.getD 0 * counts.length = counts.sum := by
  rw [mean_ofCounts]
  cases counts with
  | nil => simp
  | cons n counts => exact div_mul_cancel₀ _ (Nat.cast_ne_zero.mpr (Nat.succ_ne_zero _))

/-- The mean lies between the least and the greatest count. -/
def Ordered (s : Spread) : Prop :=
  s.least ≤ s.mean.getD 0 ∧ s.mean.getD 0 ≤ s.greatest

theorem least_le_mean (counts : List Nat) :
    (ofCounts counts).least ≤ (ofCounts counts).mean.getD 0 := by
  rw [mean_ofCounts, ofCounts]
  cases found : counts.min? with
  | none => simp [List.min?_eq_none_iff.mp found]
  | some least =>
      obtain ⟨leastMem, below⟩ := List.min?_eq_some_iff.mp found
      have count : (0 : Rat) < counts.length := Nat.cast_pos.mpr (List.length_pos_of_mem leastMem)
      have atLeast := counts.card_nsmul_le_sum least below
      rw [Option.getD_some, le_div_iff₀ count, mul_comm]
      exact_mod_cast atLeast

theorem mean_le_greatest (counts : List Nat) :
    (ofCounts counts).mean.getD 0 ≤ (ofCounts counts).greatest := by
  rw [mean_ofCounts, ofCounts]
  cases found : counts.max? with
  | none => simp [List.max?_eq_none_iff.mp found]
  | some greatest =>
      obtain ⟨greatestMem, above⟩ := List.max?_eq_some_iff.mp found
      have count : (0 : Rat) < counts.length :=
        Nat.cast_pos.mpr (List.length_pos_of_mem greatestMem)
      have atMost := counts.sum_le_card_nsmul greatest above
      rw [Option.getD_some, div_le_iff₀ count, mul_comm]
      exact_mod_cast atMost

theorem ordered_ofCounts (counts : List Nat) : (ofCounts counts).Ordered :=
  ⟨least_le_mean counts, mean_le_greatest counts⟩

/-- The spread of some counts does not depend on their order. -/
theorem ofCounts_perm (perm : counts.Perm others) : ofCounts counts = ofCounts others := by
  have sameLeast : counts.min? = others.min? := by
    apply Option.ext
    intro n
    simp only [List.min?_eq_some_iff, perm.mem_iff]
  have sameGreatest : counts.max? = others.max? := by
    apply Option.ext
    intro n
    simp only [List.max?_eq_some_iff, perm.mem_iff]
  have sameTotal : total counts = total others := perm.sum_eq
  rw [ofCounts, ofCounts, mean?, mean?, sameLeast, sameGreatest, sameTotal, perm.isEmpty_eq,
    perm.length_eq]

end Spread

/-! ## Rearranged clauses -/

namespace Cnf

/-- Two inputs differ in nothing but the order of their clauses and of the
literals within clauses. -/
def Rearranges (d e : Cnf) : Prop :=
  d.variableCount = e.variableCount ∧
    ∃ clauses, List.Forall₂ List.Perm d.clauses clauses ∧ clauses.Perm e.clauses

/-- Clauses keep their lengths when their literals are rearranged. -/
theorem map_length_eq {front back : List (List Int)}
    (literals : List.Forall₂ List.Perm front back) :
    front.map List.length = back.map List.length := by
  induction literals with
  | nil => rfl
  | cons first _ ih => rw [List.map_cons, List.map_cons, first.length_eq, ih]

namespace Rearranges

variable {d e : Cnf} (rearranged : d.Rearranges e)

include rearranged

theorem lengths_perm : (d.clauses.map List.length).Perm (e.clauses.map List.length) := by
  obtain ⟨-, clauses, literals, perm⟩ := rearranged
  rw [map_length_eq literals]
  exact perm.map List.length

theorem literals_perm : d.clauses.flatten.Perm e.clauses.flatten := by
  obtain ⟨-, clauses, literals, perm⟩ := rearranged
  exact (List.Perm.flatten_congr literals).trans perm.flatten

theorem clauseCount_eq : d.clauseCount = e.clauseCount := by
  have sameLength := rearranged.lengths_perm.length_eq
  rw [List.length_map, List.length_map] at sameLength
  exact sameLength

theorem isEmpty_eq : d.clauses.isEmpty = e.clauses.isEmpty := by
  have sameLength : d.clauses.length = e.clauses.length := rearranged.clauseCount_eq
  rw [Bool.eq_iff_iff, List.isEmpty_iff_length_eq_zero, List.isEmpty_iff_length_eq_zero,
    sameLength]

end Rearranges

/-- How many literals an input has. -/
def literalCount (d : Cnf) : Nat :=
  (d.clauses.map List.length).sum

/-- No literal of an input is zero or beyond its variables. -/
theorem in_range_flatten (d : Cnf) :
    ∀ lit ∈ d.clauses.flatten, lit ≠ 0 ∧ lit.natAbs ≤ d.variableCount := by
  intro lit literalMem
  rcases List.mem_flatten.mp literalMem with ⟨c, clauseMem, inClause⟩
  exact d.in_range c clauseMem lit inClause

end Cnf

namespace Statistics

variable {d e : Cnf}

theorem occurrences_of_rearranges (rearranged : d.Rearranges e) :
    occurrences d.variableCount d.clauses.flatten =
      occurrences e.variableCount e.clauses.flatten := by
  rw [occurrences_eq fun lit literalMem => (d.in_range_flatten lit literalMem).2,
    occurrences_eq fun lit literalMem => (e.in_range_flatten lit literalMem).2, rearranged.1]
  apply List.map_congr_left
  intro v _
  exact (rearranged.literals_perm.map Int.natAbs).count_eq v

/-- Statistics do not depend on the order of the clauses or of the literals in
them, and neither does it whether there are any. -/
theorem ofCnf_of_rearranges (rearranged : d.Rearranges e) : ofCnf d = ofCnf e := by
  have lengths := rearranged.lengths_perm
  have literals := rearranged.literals_perm
  have sameObstacle : obstacle? d = obstacle? e := by
    rw [obstacle?, obstacle?, rearranged.1, rearranged.isEmpty_eq, literals.all_eq]
  have samePolarity : polarityOf d.clauses.flatten = polarityOf e.clauses.flatten := by
    rw [polarityOf, polarityOf, literals.isEmpty_eq, literals.length_eq, literals.countP_eq]
  have sameHistogram : histogramOf (d.clauses.map List.length) =
      histogramOf (e.clauses.map List.length) :=
    List.map_congr_left fun n _ => lengths.count_eq n
  have sameCount : count d = count e := by
    rw [count, count, rearranged.isEmpty_eq, rearranged.clauseCount_eq, samePolarity, sameHistogram,
      occurrences_of_rearranges rearranged, rearranged.1, Spread.ofCounts_perm lengths,
      lengths.countP_eq]
  rw [ofCnf, ofCnf, sameObstacle, sameCount]

/-- The literals have sixty-four bits if the number of bins has. -/
theorem all_isSigned (numbered : d.variableCount + 1 < 2 ^ 63) :
    d.clauses.flatten.all Word.isSigned = true := by
  rw [List.all_eq_true]
  intro lit literalMem
  have within := (d.in_range_flatten lit literalMem).2
  rw [Word.isSigned, Bool.and_eq_true, decide_eq_true_eq, decide_eq_true_eq, Word.least,
    Word.signedBound]
  omega

/-- There is no obstacle to counting where the octets of the bins are few
enough. -/
theorem obstacle?_eq_none (few : d.variableCount + 1 < 2 ^ 60) : obstacle? d = none := by
  have inWord : ¬ Word.signedBound ≤ d.variableCount + 1 := by
    rw [Word.signedBound]
    omega
  have inArray : ¬ Word.signedBound ≤ octetsPerBin * (d.variableCount + 1) := by
    rw [Word.signedBound, octetsPerBin]
    omega
  rw [obstacle?, all_isSigned (few.trans (by decide))]
  simp [inWord, inArray]

theorem ofCnf_eq (few : d.variableCount + 1 < 2 ^ 60) : ofCnf d = .ok (count d) := by
  rw [ofCnf, obstacle?_eq_none few]

/-- Bins that can be numbered but have too many octets are refused. -/
theorem ofCnf_eq_beyondArray (nonempty : d.clauses ≠ []) (many : 2 ^ 60 ≤ d.variableCount + 1)
    (numbered : d.variableCount + 1 < 2 ^ 63) : ofCnf d = .error .beyondArray := by
  have inWord : ¬ Word.signedBound ≤ d.variableCount + 1 := by
    rw [Word.signedBound]
    omega
  have inArray : Word.signedBound ≤ octetsPerBin * (d.variableCount + 1) := by
    rw [Word.signedBound, octetsPerBin]
    omega
  rw [ofCnf, obstacle?, all_isSigned numbered]
  simp [nonempty, inWord, inArray]

/-- What the statistics of an input conserve of the number of its literals. -/
structure Conserves (s : Statistics) (d : Cnf) : Prop where
  variableCount_eq : s.variableCount = d.variableCount
  clauseCount_eq : s.clauseCount = d.clauses.length
  occurrence_eq : s.occurrence = .ofCounts (occurrences d.variableCount d.clauses.flatten)
  clauseLength_eq : s.clauseLength = .ofCounts (d.clauses.map List.length)
  /-- There is one count for each variable. -/
  length_occurrences :
    (occurrences d.variableCount d.clauses.flatten).length = d.variableCount
  /-- It says how many literals are on the variable. -/
  getElem_occurrences : ∀ v, 0 < v → v ≤ d.variableCount →
    (occurrences d.variableCount d.clauses.flatten)[v - 1]? =
      some (d.clauses.flatten.countP fun lit => lit.natAbs = v)
  sum_occurrences :
    (occurrences d.variableCount d.clauses.flatten).sum = d.literalCount
  mean_occurrence : s.occurrence.mean.getD 0 * d.variableCount = d.literalCount
  mean_clauseLength : s.clauseLength.mean.getD 0 * d.clauses.length = d.literalCount
  polarity_mul : 0 < d.literalCount →
    s.polarity * d.literalCount = (d.clauses.flatten.countP fun lit => 0 < lit : Nat)
  occurrence_ordered : s.occurrence.Ordered
  clauseLength_ordered : s.clauseLength.Ordered
  length_histogram : s.histogram.length = 10
  /-- Each clause is in the histogram but the empty ones. -/
  sum_histogram : s.histogram.sum + s.longer = d.clauses.countP fun c => c ≠ []

theorem conserves_count (nonempty : d.clauses ≠ []) : (count d).Conserves d := by
  have counted : count d =
      { variableCount := d.variableCount
        clauseCount := d.clauseCount
        clauseLength := .ofCounts (d.clauses.map List.length)
        polarity := polarityOf d.clauses.flatten
        occurrence := .ofCounts (occurrences d.variableCount d.clauses.flatten)
        gini := Gini.coefficient
          ((occurrences d.variableCount d.clauses.flatten).map fun (n : Nat) => (n : Rat))
        histogram := histogramOf (d.clauses.map List.length)
        longer := (d.clauses.map List.length).countP fun n => longest < n } :=
    if_neg (mt List.isEmpty_iff.mp nonempty)
  have uses := occurrences_eq fun lit literalMem => (d.in_range_flatten lit literalMem).2
  have length : (occurrences d.variableCount d.clauses.flatten).length = d.variableCount := by
    rw [uses, List.length_map, List.length_range']
  have sum : (occurrences d.variableCount d.clauses.flatten).sum = d.literalCount := by
    rw [sum_occurrences d.in_range_flatten, List.length_flatten, Cnf.literalCount]
  have meanLength := Spread.mean_mul_length (d.clauses.map List.length)
  have meanUse := Spread.mean_mul_length (occurrences d.variableCount d.clauses.flatten)
  rw [List.length_map] at meanLength
  rw [length, sum] at meanUse
  rw [counted]
  refine ⟨rfl, rfl, rfl, rfl, length, ?place, sum, meanUse, meanLength, ?polarity,
    Spread.ordered_ofCounts _, Spread.ordered_ofCounts _, ?ten, ?histogram⟩
  case place =>
    intro v positive within
    have inside : v - 1 < d.variableCount := by omega
    have place : 1 + 1 * (v - 1) = v := by omega
    rw [uses, List.getElem?_map, List.getElem?_range' inside, Option.map_some, place, List.count,
      List.countP_map]
    rfl
  case polarity =>
    intro some
    rw [Cnf.literalCount, ← List.length_flatten] at some ⊢
    exact polarityOf_mul_length (List.ne_nil_of_length_pos some)
  case ten =>
    rw [histogramOf, List.length_map, List.length_range', longest]
  case histogram =>
    rw [sum_histogramOf, List.countP_map]
    apply List.countP_congr
    intro c _
    simp [List.length_pos_iff]

/-- The statistics of an input with clauses, if there can be bins for its
variables, count every literal once, and they are the same in every order of the
clauses and of the literals in them. -/
theorem ofCnf_spec (nonempty : d.clauses ≠ []) (few : d.variableCount + 1 < 2 ^ 60) :
    ∃ s, ofCnf d = .ok s ∧ s.Conserves d ∧ ∀ e, d.Rearranges e → ofCnf e = .ok s := by
  refine ⟨count d, ofCnf_eq few, conserves_count nonempty, ?_⟩
  intro e rearranged
  rw [← ofCnf_of_rearranges rearranged, ofCnf_eq few]

/-- Clauses of which one is empty, over five variables of which the fourth does not
occur. -/
theorem ofCnf_spec_five :
    ∃ s, ofCnf ⟨5, [[1, -2], [], [3, 3, 5]], by decide⟩ = .ok s ∧
      s.occurrence.mean.getD 0 * 5 = 5 ∧
      s.polarity * 5 = 4 ∧
      s.histogram.sum + s.longer = 2 ∧
      ofCnf ⟨5, [[5, 3, 3], [-2, 1], []], by decide⟩ = .ok s := by
  obtain ⟨s, counted, conserves, same⟩ :=
    ofCnf_spec (d := ⟨5, [[1, -2], [], [3, 3, 5]], by decide⟩) (by decide) (by decide)
  refine ⟨s, counted, conserves.mean_occurrence, conserves.polarity_mul (by decide),
    conserves.sum_histogram, same _ ⟨rfl, [[-2, 1], [], [5, 3, 3]], ?_, by decide⟩⟩
  exact .cons (by decide) (.cons (by decide) (.cons (by decide) .nil))

/-- The statistics of a solver's input can be refused for its variables alone. -/
theorem not_ofCnf_of_lt :
    ¬ ∀ d : Cnf, d.clauses ≠ [] → d.variableCount < 2 ^ 63 → ∃ s, ofCnf d = .ok s := by
  intro counts
  let d : Cnf := ⟨1152921504606846975, [[1]], by decide⟩
  obtain ⟨s, counted⟩ := counts d (by decide) (by decide)
  have refused : ofCnf d = .error .beyondArray :=
    ofCnf_eq_beyondArray (by decide) (by decide) (by decide)
  rw [refused] at counted
  cases counted

end Statistics

end Clausal
