import Mathlib.Data.List.Nodup
import Mathlib.Tactic

/-!
# Rows that hold places

A table of rows with distinct keys, each of which may hold one place.  A write that is refused where
a row of another key holds the place never makes a place more crowded than it was, however crowded
it was before: a place that was free or held once stays so.
-/

set_option autoImplicit false

namespace Foundation

namespace Places

variable {α ι κ : Type} [DecidableEq ι] [DecidableEq κ] (key : α → ι) (place : α → Option κ)

/-- How many rows hold a place. -/
def holders (rows : List α) (p : κ) : ℕ := rows.countP fun row => place row = some p

/-- Whether a row of another key holds the place of a row. -/
def isTaken (rows : List α) (row : α) : Bool :=
  (place row).isSome && rows.any fun other => key other ≠ key row ∧ place other = place row

/-- The table with one row changed. -/
def modify (rows : List α) (k : ι) (f : α → α) : List α :=
  rows.map fun row => if key row = k then f row else row

variable {key place}

theorem place_ne_of_not_isTaken {rows : List α} {row other : α} {p : κ}
    (h : isTaken key place rows row = false) (hp : place row = some p) (hother : other ∈ rows)
    (hkey : key other ≠ key row) : place other ≠ some p := by
  intro hsame
  have htaken : isTaken key place rows row = true := by
    unfold isTaken
    rw [hp, Option.isSome_some, Bool.true_and, List.any_eq_true]
    exact ⟨other, hother, decide_eq_true ⟨hkey, hsame⟩⟩
  rw [h] at htaken
  cases htaken

/-- **One more row.** -/
theorem holders_append_le {rows : List α} {row : α} (hnew : ∀ other ∈ rows, key other ≠ key row)
    (hfree : isTaken key place rows row = false) (p : κ) :
    holders place (rows ++ [row]) p ≤ max 1 (holders place rows p) := by
  unfold holders
  rw [List.countP_append, List.countP_singleton]
  by_cases hp : place row = some p
  · have hnone : rows.countP (fun other => place other = some p) = 0 := by
      rw [List.countP_eq_zero]
      intro other hother
      rw [decide_eq_true_iff]
      exact place_ne_of_not_isTaken hfree hp hother (hnew other hother)
    rw [hnone, zero_add]
    split
    · exact le_max_left _ _
    · exact Nat.zero_le _
  · rw [if_neg (by simpa using hp), add_zero]
    exact le_max_right _ _

variable {f : α → α} {k : ι}

/-- A change that keeps the places. -/
theorem holders_modify_of_place_eq {rows : List α}
    (hplace : ∀ row ∈ rows, key row = k → place (f row) = place row) (p : κ) :
    holders place (modify key rows k f) p = holders place rows p := by
  unfold holders modify
  rw [List.countP_map]
  refine List.countP_congr fun row hrow => ?_
  rw [Function.comp_apply, decide_eq_true_iff, decide_eq_true_iff]
  by_cases hkey : key row = k
  · rw [if_pos hkey, hplace row hrow hkey]
  · rw [if_neg hkey]

/-- A change that takes no place that the row did not have. -/
theorem holders_modify_mono {rows : List α} {p : κ}
    (hplace : ∀ row ∈ rows, key row = k → place (f row) = some p → place row = some p) :
    holders place (modify key rows k f) p ≤ holders place rows p := by
  unfold holders modify
  rw [List.countP_map]
  refine List.countP_mono_left fun row hrow hcounted => ?_
  rw [Function.comp_apply, decide_eq_true_iff] at hcounted
  rw [decide_eq_true_iff]
  by_cases hkey : key row = k
  · rw [if_pos hkey] at hcounted
    exact hplace row hrow hkey hcounted
  · rwa [if_neg hkey] at hcounted

/-- Of rows with distinct keys only one has a key. -/
theorem countP_key_le {rows : List α} (hkeys : (rows.map key).Nodup) (k : ι) :
    rows.countP (fun row => key row = k) ≤ 1 := by
  have hcount := List.nodup_iff_count_le_one.mp hkeys k
  rw [List.count, List.countP_map] at hcount
  refine le_trans (List.countP_mono_left fun row _ h => ?_) hcount
  rw [Function.comp_apply, beq_iff_eq]
  exact of_decide_eq_true h

/-- **One row changed**, where the place it then has is not taken. -/
theorem holders_modify_le {rows : List α} (hkeys : (rows.map key).Nodup)
    (hkey : ∀ row, key (f row) = key row)
    (hfree : ∀ row ∈ rows, key row = k → isTaken key place rows (f row) = false) (p : κ) :
    holders place (modify key rows k f) p ≤ max 1 (holders place rows p) := by
  by_cases hp : ∃ row ∈ rows, key row = k ∧ place (f row) = some p
  · -- the changed row holds the place, so no other does
    obtain ⟨row, hrow, hk, hplace⟩ := hp
    refine le_max_of_le_left (le_trans ?_ (countP_key_le hkeys k))
    unfold holders modify
    rw [List.countP_map]
    refine List.countP_mono_left fun other hother hcounted => ?_
    rw [Function.comp_apply, decide_eq_true_iff] at hcounted
    rw [decide_eq_true_iff]
    by_contra hother'
    rw [if_neg hother'] at hcounted
    refine place_ne_of_not_isTaken (hfree row hrow hk) hplace hother ?_ hcounted
    rw [hkey, hk]
    exact hother'
  · -- it does not, so the place is held at most as often as before
    exact le_max_of_le_right (holders_modify_mono fun row hrow hk hplace =>
      absurd ⟨row, hrow, hk, hplace⟩ hp)

theorem countP_or_le (p q : α → Bool) (rows : List α) :
    rows.countP (fun row => p row || q row) ≤ rows.countP p + rows.countP q := by
  induction rows with
  | nil => exact le_rfl
  | cons row rows ih =>
    simp only [List.countP_cons]
    cases p row <;> cases q row <;> simp <;> omega

/-- A change of one row makes a place more crowded by one at most. -/
theorem holders_modify_le_succ {rows : List α} (hkeys : (rows.map key).Nodup) (p : κ) :
    holders place (modify key rows k f) p ≤ holders place rows p + 1 := by
  unfold holders modify
  rw [List.countP_map]
  refine le_trans ?_ (Nat.add_le_add_left (countP_key_le hkeys k) _)
  refine le_trans (List.countP_mono_left fun row _ hcounted => ?_) (countP_or_le _ _ rows)
  rw [Function.comp_apply, decide_eq_true_iff] at hcounted
  rw [Bool.or_eq_true, decide_eq_true_iff, decide_eq_true_iff]
  by_cases hk : key row = k
  · exact .inr hk
  · rw [if_neg hk] at hcounted
    exact .inl hcounted

/-- What a change keeps of every row, it keeps of the table. -/
theorem map_modify {β : Type} (g : α → β) {rows : List α}
    (hkept : ∀ row ∈ rows, key row = k → g (f row) = g row) :
    (modify key rows k f).map g = rows.map g := by
  unfold modify
  rw [List.map_map]
  refine List.map_congr_left fun row hrow => ?_
  rw [Function.comp_apply]
  split
  · rename_i hk
    exact hkept row hrow hk
  · rfl

theorem mem_modify {rows : List α} {row : α} :
    row ∈ modify key rows k f ↔
      (row ∈ rows ∧ key row ≠ k) ∨ ∃ old ∈ rows, key old = k ∧ row = f old := by
  unfold modify
  rw [List.mem_map]
  constructor
  · rintro ⟨old, hold, rfl⟩
    by_cases hk : key old = k
    · rw [if_pos hk]
      exact .inr ⟨old, hold, hk, rfl⟩
    · rw [if_neg hk]
      exact .inl ⟨hold, hk⟩
  · rintro (⟨hrow, hk⟩ | ⟨old, hold, hk, rfl⟩)
    · exact ⟨row, hrow, if_neg hk⟩
    · exact ⟨old, hold, if_pos hk⟩

end Places

end Foundation
