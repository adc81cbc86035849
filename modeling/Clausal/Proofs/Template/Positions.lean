import Mathlib.Data.Finset.Card
import Mathlib.Data.Finset.Dedup
import Clausal.Template.Positions

/-!
# The two loops of a pass

What the two loops over the positions merge is what `pass` merges, and they keep
the same rows.  A row is in a merge as the first one with all its partners, or as
the second one with one row before it.  So the rows that come first in some merge
are as many as a pass makes the rows fewer.
-/

namespace Clausal.Template

/-- Rows with their positions that stand at different positions. -/
def Apart (placed : List (Row × Nat)) : Prop :=
  (placed.map Prod.snd).Nodup

theorem apart_zipIdx (rows : List Row) : Apart rows.zipIdx := by
  rw [Apart, List.zipIdx_map_snd]
  exact List.nodup_range'

variable {e f : Row × Nat} {placed rest : List (Row × Nat)} {made : List Merge} {k : Nat}

namespace Apart

theorem sublist (apart : Apart placed) (sublist : rest.Sublist placed) : Apart rest :=
  List.Nodup.sublist (sublist.map Prod.snd) apart

theorem tail (apart : Apart (e :: rest)) : Apart rest :=
  apart.sublist (List.sublist_cons_self e rest)

theorem ne_of_mem (apart : Apart (e :: rest)) (memRest : f ∈ rest) : f.2 ≠ e.2 := by
  rintro same
  exact (List.nodup_cons.mp apart).1 (same ▸ List.mem_map_of_mem memRest)

theorem eq_of_snd_eq (apart : Apart placed) (eMem : e ∈ placed) (fMem : f ∈ placed)
    (same : e.2 = f.2) : e = f :=
  List.inj_on_of_nodup_map apart eMem fMem same

end Apart

/-! ## Rows in merges -/

theorem isTreated_append (made more : List Merge) (k : Nat) :
    isTreated (made ++ more) k = (isTreated made k || isTreated more k) := by
  rw [isTreated, List.any_append]
  rfl

theorem isTreated_eq_true_iff :
    isTreated made k = true ↔ ∃ m ∈ made, m.first = k ∨ m.second = k := by
  simp [isTreated]

theorem mergeAt_eq_some_iff {m : Merge} :
    mergeAt e f = some m ↔ m.first = e.2 ∧ m.second = f.2 ∧ merge e.1 f.1 = some m.row := by
  rw [mergeAt, Option.map_eq_some_iff]
  constructor
  · rintro ⟨row, found, rfl⟩
    exact ⟨rfl, rfl, found⟩
  · rintro ⟨first, second, found⟩
    exact ⟨m.row, found, by rw [← first, ← second]⟩

/-- Of the later rows those are in a merge with a row that can be merged with
it. -/
theorem isTreated_filterMap_mergeAt (apart : Apart (e :: rest)) (memRest : f ∈ rest) :
    isTreated (rest.filterMap (mergeAt e)) f.2 = (merge e.1 f.1).isSome := by
  rw [Bool.eq_iff_iff, isTreated_eq_true_iff, Option.isSome_iff_exists]
  constructor
  · rintro ⟨m, mergeMem, position⟩
    obtain ⟨g, otherMem, found⟩ := List.mem_filterMap.mp mergeMem
    obtain ⟨first, second, merged⟩ := mergeAt_eq_some_iff.mp found
    rcases position with isFirst | isSecond
    · exact absurd (isFirst.symm.trans first) (apart.ne_of_mem memRest)
    · have same := apart.tail.eq_of_snd_eq otherMem memRest (second.symm.trans isSecond)
      exact ⟨m.row, same ▸ merged⟩
  · rintro ⟨row, merged⟩
    exact ⟨⟨e.2, f.2, row⟩,
      List.mem_filterMap.mpr ⟨f, memRest, mergeAt_eq_some_iff.mpr ⟨rfl, rfl, merged⟩⟩, Or.inr rfl⟩

/-- The first row is in a merge if there is any. -/
theorem isTreated_filterMap_mergeAt_self (e : Row × Nat) (rest : List (Row × Nat)) :
    isTreated (rest.filterMap (mergeAt e)) e.2 = !(rest.filterMap (mergeAt e)).isEmpty := by
  cases merges : rest.filterMap (mergeAt e) with
  | nil => rfl
  | cons m others =>
      obtain ⟨f, -, found⟩ := List.mem_filterMap.mp (merges ▸ List.mem_cons_self)
      exact isTreated_eq_true_iff.mpr
        ⟨m, List.mem_cons_self, Or.inl (mergeAt_eq_some_iff.mp found).1⟩

/-! ## Rows in no merge -/

theorem mem_of_mem_untreated (free : f ∈ untreated made placed) : f ∈ placed :=
  (List.mem_filter.mp free).1

theorem untreated_cons_of_treated (treated : isTreated made e.2 = true) :
    untreated made (e :: rest) = untreated made rest :=
  List.filter_cons_of_neg (by rw [treated]; exact Bool.false_ne_true)

theorem untreated_cons_of_not_treated (free : isTreated made e.2 = false) :
    untreated made (e :: rest) = e :: untreated made rest :=
  List.filter_cons_of_pos (by rw [free]; rfl)

theorem untreated_append (made more : List Merge) (placed : List (Row × Nat)) :
    untreated (made ++ more) placed = untreated more (untreated made placed) := by
  rw [untreated, untreated, untreated, List.filter_filter]
  apply List.filter_congr
  intro f _
  rw [isTreated_append, Bool.not_or, Bool.and_comm]

theorem Apart.cons_untreated (apart : Apart (e :: rest)) (made : List Merge) :
    Apart (e :: untreated made rest) :=
  apart.sublist (List.filter_sublist.cons_cons e)

/-- The rows that cannot be merged with an earlier one. -/
def unmergedAt (e : Row × Nat) (placed : List (Row × Nat)) : List (Row × Nat) :=
  placed.filter fun f => (merge e.1 f.1).isNone

/-- The merges of a row with later ones leave those that cannot be merged with
it. -/
theorem untreated_filterMap_mergeAt (apart : Apart (e :: rest)) :
    untreated (rest.filterMap (mergeAt e)) rest = unmergedAt e rest := by
  apply List.filter_congr
  intro f memRest
  rw [isTreated_filterMap_mergeAt apart memRest, Option.not_isSome]

/-! ## The inner loop -/

/-- A merge of two rows leaves the rows behind them as they were. -/
theorem untreated_toList_mergeAt (apart : Apart (e :: f :: rest)) (made : List Merge) :
    untreated (mergeAt e f).toList (untreated made rest) = untreated made rest := by
  apply List.filter_eq_self.mpr
  intro g free
  have otherMem : g ∈ rest := mem_of_mem_untreated free
  have notFirst := apart.ne_of_mem (List.mem_cons_of_mem f otherMem)
  have notSecond := apart.tail.ne_of_mem otherMem
  rw [Bool.not_eq_true', Bool.eq_false_iff, ne_eq, isTreated_eq_true_iff]
  rintro ⟨m, mergeMem, position⟩
  obtain ⟨first, second, -⟩ := mergeAt_eq_some_iff.mp (Option.mem_toList.mp mergeMem)
  omega

/-- A row is merged with the rows behind it that were in no merge before. -/
theorem foldl_tryMerge (apart : Apart (e :: rest)) (made : List Merge) :
    rest.foldl (tryMerge e) made = made ++ (untreated made rest).filterMap (mergeAt e) := by
  induction rest generalizing made with
  | nil => exact (List.append_nil made).symm
  | cons f rest ih =>
      have apartWithout : Apart (e :: rest) :=
        apart.sublist ((List.sublist_cons_self f rest).cons_cons e)
      rw [List.foldl_cons, ih apartWithout, tryMerge]
      cases treated : isTreated made f.2 with
      | true => rw [if_pos rfl, untreated_cons_of_treated treated]
      | false =>
          -- Whether or not the two rows merge, those behind them are still free.
          rw [if_neg Bool.false_ne_true, untreated_append, untreated_toList_mergeAt apart,
            untreated_cons_of_not_treated treated, List.filterMap_cons, List.append_assoc]
          cases mergeAt e f <;> rfl

/-! ## The outer loop -/

/-- The merges of the first row with later ones, and those of the rows that it
leaves. -/
def mergesAmong : List (Row × Nat) → List Merge
  | [] => []
  | e :: rest => rest.filterMap (mergeAt e) ++ mergesAmong (unmergedAt e rest)
termination_by placed => placed.length
decreasing_by
  exact Nat.lt_succ_of_le (List.length_filter_le _ _)

/-- From some position on the loop makes the merges among the rows that are in
no merge yet. -/
theorem foldl_mergeWithLater (rows : List Row) (made : List Merge) {position : Nat}
    (here : rows.zipIdx.drop position = placed) :
    placed.foldl (mergeWithLater rows) made = made ++ mergesAmong (untreated made placed) := by
  induction placed generalizing position made with
  | nil =>
      rw [untreated, List.filter_nil, mergesAmong, List.append_nil]
      rfl
  | cons e rest ih =>
      have apart : Apart (e :: rest) := here ▸ (apart_zipIdx rows).sublist (List.drop_sublist _ _)
      have found : rows.zipIdx[position]? = some e := by
        rw [← List.head?_drop, here, List.head?_cons]
      have entry : position = e.2 := by
        rw [List.getElem?_zipIdx, Option.map_eq_some_iff] at found
        obtain ⟨row, -, rfl⟩ := found
        exact (Nat.zero_add position).symm
      have behind : rows.zipIdx.drop (e.2 + 1) = rest := by
        rw [← List.tail_drop, ← entry, here, List.tail_cons]
      rw [List.foldl_cons, ih _ behind, mergeWithLater, behind]
      cases treated : isTreated made e.2 with
      | true => rw [if_pos rfl, untreated_cons_of_treated treated]
      | false =>
          -- The rows that are free after this visit are those that the row leaves.
          rw [if_neg Bool.false_ne_true, foldl_tryMerge apart, untreated_append,
            untreated_filterMap_mergeAt (apart.cons_untreated made),
            untreated_cons_of_not_treated treated, mergesAmong, List.append_assoc]

/-- There is nothing behind the last row, so the loop can leave it out. -/
theorem mergesOf_eq_foldl (rows : List Row) :
    mergesOf rows = rows.zipIdx.foldl (mergeWithLater rows) [] := by
  rw [mergesOf]
  rcases rows.eq_nil_or_concat' with rfl | ⟨front, last, rfl⟩
  · rfl
  · have nothing : ∀ made, mergeWithLater (front ++ [last]) made (last, front.length) = made := by
      intro made
      rw [mergeWithLater, List.drop_eq_nil_of_le (by simp)]
      exact ite_self made
    rw [List.zipIdx_append, List.zipIdx_singleton, List.dropLast_concat, List.foldl_append,
      Nat.zero_add, List.foldl_cons, nothing, List.foldl_nil]

/-- The two loops make the merges among all rows. -/
theorem mergesOf_eq (rows : List Row) : mergesOf rows = mergesAmong rows.zipIdx := by
  rw [mergesOf_eq_foldl, foldl_mergeWithLater rows [] List.drop_zero, List.nil_append]
  exact congrArg mergesAmong (List.filter_true rows.zipIdx)

/-! ## The outcome of a pass -/

theorem map_fst_unmergedAt (e : Row × Nat) (placed : List (Row × Nat)) :
    (unmergedAt e placed).map Prod.fst = unmerged e.1 (placed.map Prod.fst) := by
  rw [unmerged, List.filter_map]
  rfl

theorem map_row_filterMap_mergeAt (e : Row × Nat) (placed : List (Row × Nat)) :
    (placed.filterMap (mergeAt e)).map Merge.row =
      (placed.map Prod.fst).filterMap (merge e.1) := by
  rw [List.map_filterMap, List.filterMap_map]
  apply List.filterMap_congr
  intro f _
  rw [mergeAt, Option.map_map]
  exact Option.map_id'

/-- The merged rows are those of the pass over the rows alone. -/
theorem map_row_mergesAmong (placed : List (Row × Nat)) :
    (mergesAmong placed).map Merge.row = (pass (placed.map Prod.fst)).merged := by
  induction placed using mergesAmong.induct with
  | case1 => simp [mergesAmong, pass]
  | case2 e rest ih =>
      rw [mergesAmong, List.map_append, ih, map_row_filterMap_mergeAt, map_fst_unmergedAt,
        List.map_cons, pass, Pass.after]

/-- Merges among some rows are of rows that are among them. -/
theorem mem_map_snd_of_isTreated (treated : isTreated (mergesAmong placed) k = true) :
    k ∈ placed.map Prod.snd := by
  induction placed using mergesAmong.induct with
  | case1 => simp [mergesAmong, isTreated] at treated
  | case2 e rest ih =>
      rw [mergesAmong, isTreated_append, Bool.or_eq_true] at treated
      rcases treated with here | later
      · obtain ⟨m, mergeMem, position⟩ := isTreated_eq_true_iff.mp here
        obtain ⟨f, memRest, found⟩ := List.mem_filterMap.mp mergeMem
        obtain ⟨first, second, -⟩ := mergeAt_eq_some_iff.mp found
        rcases position with rfl | rfl
        · rw [first]
          exact List.mem_cons_self
        · rw [second]
          exact List.mem_cons_of_mem _ (List.mem_map_of_mem memRest)
      · exact List.mem_cons_of_mem _ ((List.filter_sublist.map Prod.snd).subset (ih later))

/-- Of the later rows those are in no merge that the first row leaves and that
are in none among them. -/
theorem untreated_mergesAmong_cons (apart : Apart (e :: rest)) :
    untreated (mergesAmong (e :: rest)) rest =
      untreated (mergesAmong (unmergedAt e rest)) (unmergedAt e rest) := by
  rw [mergesAmong, untreated_append, untreated_filterMap_mergeAt apart]

/-- The first row is in no merge of rows that it leaves. -/
theorem isTreated_mergesAmong_unmergedAt (apart : Apart (e :: rest)) :
    isTreated (mergesAmong (unmergedAt e rest)) e.2 = false := by
  rw [Bool.eq_false_iff]
  intro treated
  obtain ⟨f, left, same⟩ := List.mem_map.mp (mem_map_snd_of_isTreated treated)
  exact apart.ne_of_mem (List.filter_sublist.subset left) same

/-- The first row is in a merge if it can be merged with a later one. -/
theorem isTreated_mergesAmong_self (apart : Apart (e :: rest)) :
    isTreated (mergesAmong (e :: rest)) e.2 = !(rest.filterMap (mergeAt e)).isEmpty := by
  rw [mergesAmong, isTreated_append, isTreated_mergesAmong_unmergedAt apart,
    isTreated_filterMap_mergeAt_self, Bool.or_false]

/-- The rows in no merge are those that the pass over the rows alone keeps. -/
theorem map_fst_untreated (apart : Apart placed) :
    (untreated (mergesAmong placed) placed).map Prod.fst = (pass (placed.map Prod.fst)).kept := by
  induction placed using mergesAmong.induct with
  | case1 => simp [untreated, pass]
  | case2 e rest ih =>
      have leftApart : Apart (unmergedAt e rest) := apart.tail.sublist List.filter_sublist
      have self := isTreated_mergesAmong_self apart
      rw [List.map_cons, pass, Pass.after, ← map_fst_unmergedAt, ← ih leftApart,
        ← untreated_mergesAmong_cons apart, ← map_row_filterMap_mergeAt, List.isEmpty_map]
      cases alone : (rest.filterMap (mergeAt e)).isEmpty with
      | true =>
          rw [alone, Bool.not_true] at self
          rw [untreated_cons_of_not_treated self, List.map_cons, if_pos rfl]
      | false =>
          rw [alone, Bool.not_false] at self
          rw [untreated_cons_of_treated self, if_neg Bool.false_ne_true]

/-- Two loops over the positions and the recursion on the rows that are left do
the same. -/
theorem passByPosition_eq (rows : List Row) : passByPosition rows = pass rows := by
  have merged := map_row_mergesAmong rows.zipIdx
  have kept := map_fst_untreated (apart_zipIdx rows)
  rw [List.zipIdx_map_fst] at merged kept
  rw [passByPosition, mergesOf_eq, merged, kept]

/-- The loops make as many merges as the pass over the rows alone. -/
theorem length_mergesOf (rows : List Row) : (mergesOf rows).length = (pass rows).merges := by
  rw [← passByPosition_eq, Pass.merges, passByPosition, List.length_map]

/-! ## How many rows a pass takes away -/

/-- The positions of the rows that come first in some merge. -/
def leading (made : List Merge) : Finset Nat :=
  (made.map Merge.first).toFinset

theorem mem_leading_iff : k ∈ leading made ↔ ∃ m ∈ made, m.first = k := by
  rw [leading, List.mem_toFinset, List.mem_map]

theorem leading_append (made more : List Merge) :
    leading (made ++ more) = leading made ∪ leading more := by
  rw [leading, List.map_append, List.toFinset_append]
  rfl

/-- In all its merges the first row comes first. -/
theorem leading_filterMap_mergeAt (merging : rest.filterMap (mergeAt e) ≠ []) :
    leading (rest.filterMap (mergeAt e)) = {e.2} := by
  have first : ∀ m ∈ rest.filterMap (mergeAt e), m.first = e.2 := by
    intro m mergeMem
    obtain ⟨f, -, found⟩ := List.mem_filterMap.mp mergeMem
    exact (mergeAt_eq_some_iff.mp found).1
  obtain ⟨m, mergeMem⟩ := List.exists_mem_of_ne_nil _ merging
  apply Finset.eq_singleton_iff_unique_mem.mpr
  refine ⟨mem_leading_iff.mpr ⟨m, mergeMem, first m mergeMem⟩, ?_⟩
  intro position leads
  obtain ⟨m, mergeMem, rfl⟩ := mem_leading_iff.mp leads
  exact first m mergeMem

/-- The first row comes first in a merge if it can be merged with a later one. -/
theorem card_leading_mergesAmong_cons (apart : Apart (e :: rest)) :
    (leading (mergesAmong (e :: rest))).card =
      (leading (mergesAmong (unmergedAt e rest))).card +
        if (rest.filterMap (mergeAt e)).isEmpty then 0 else 1 := by
  have notLater : e.2 ∉ leading (mergesAmong (unmergedAt e rest)) := by
    intro leads
    obtain ⟨m, mergeMem, first⟩ := mem_leading_iff.mp leads
    have treated := isTreated_eq_true_iff.mpr ⟨m, mergeMem, Or.inl first⟩
    exact Bool.eq_false_iff.mp (isTreated_mergesAmong_unmergedAt apart) treated
  rw [mergesAmong, leading_append]
  by_cases alone : rest.filterMap (mergeAt e) = []
  · rw [alone]
    exact congrArg Finset.card (Finset.empty_union _)
  · rw [leading_filterMap_mergeAt alone, ← Finset.insert_eq, Finset.card_insert_of_notMem notLater,
      if_neg (by rwa [List.isEmpty_iff])]

/-- A row that comes first in a merge goes with its partners into as many rows as
it has partners. -/
theorem length_rows_pass_add_card_leading (apart : Apart placed) :
    (pass (placed.map Prod.fst)).rows.length + (leading (mergesAmong placed)).card =
      placed.length := by
  induction placed using mergesAmong.induct with
  | case1 => simp [pass, Pass.rows, mergesAmong, leading]
  | case2 e rest ih =>
      have later := ih (apart.tail.sublist List.filter_sublist)
      have parts := length_filterMap_add_length_unmerged e.1 (rest.map Prod.fst)
      rw [← map_fst_unmergedAt, List.length_map, List.length_map] at parts
      rw [List.map_cons, pass, Pass.length_rows_after, ← map_fst_unmergedAt,
        card_leading_mergesAmong_cons apart, List.length_cons]
      rw [← map_row_filterMap_mergeAt] at parts ⊢
      rw [List.isEmpty_map]
      split <;> omega

/-- A pass leaves as many rows fewer as there are rows that come first in one of
its merges. -/
theorem length_rows_pass_add_card (rows : List Row) :
    (pass rows).rows.length + (leading (mergesOf rows)).card = rows.length := by
  have count := length_rows_pass_add_card_leading (apart_zipIdx rows)
  rwa [List.zipIdx_map_fst, List.length_zipIdx, ← mergesOf_eq] at count

end Clausal.Template
