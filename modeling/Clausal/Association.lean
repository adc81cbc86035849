/-!
# Association lists

A finite map can be kept as the list of its entries, looked up by key.  The
newest entry of a key is put in front, and the older one is filtered out.
-/

namespace Clausal.Association

variable {κ : Type} {α : Type} [BEq κ] [LawfulBEq κ]

/-- A key that leads to nothing has no entry. -/
theorem ne_of_lookup_eq_none {entries : List (κ × α)} {key : κ}
    (absent : entries.lookup key = none) {e : κ × α} (entryMem : e ∈ entries) : e.1 ≠ key :=
  (bne_iff_ne.mp (List.lookup_eq_none_iff.mp absent e entryMem)).symm

variable [DecidableEq κ]

/-- Entries without those of a key. -/
def without (key : κ) (entries : List (κ × α)) : List (κ × α) :=
  entries.filter fun e => e.1 ≠ key

/-- For a key that leads to nothing there is nothing to leave out. -/
theorem without_eq_self {entries : List (κ × α)} {key : κ} (absent : entries.lookup key = none) :
    without key entries = entries := by
  rw [without, List.filter_eq_self]
  exact fun _ entryMem => decide_eq_true (ne_of_lookup_eq_none absent entryMem)

/-- Leaving out a key does not change what the others lead to. -/
theorem lookup_without_of_ne (entries : List (κ × α)) {key other : κ} (hne : other ≠ key) :
    (without key entries).lookup other = entries.lookup other := by
  induction entries with
  | nil => rfl
  | cons entry rest ih =>
      rcases entry with ⟨k, v⟩
      rw [without] at ih ⊢
      by_cases hkey : k = key
      · subst hkey
        rw [List.lookup_cons, beq_false_of_ne hne, List.filter_cons_of_neg (by simp)]
        exact ih
      · rw [List.filter_cons_of_pos (by simpa using hkey), List.lookup_cons, List.lookup_cons, ih]

/-- An entry put in front shows at its own key and nowhere else. -/
theorem lookup_cons_without (entries : List (κ × α)) (key other : κ) (value : α) :
    ((key, value) :: without key entries).lookup other =
      if other = key then some value else entries.lookup other := by
  by_cases hkey : other = key
  · subst hkey
    simp
  · rw [List.lookup_cons, beq_false_of_ne hkey, if_neg hkey]
    exact lookup_without_of_ne entries hkey

end Clausal.Association
