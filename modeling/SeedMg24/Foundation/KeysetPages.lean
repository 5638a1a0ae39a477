import Mathlib.Data.List.Sort
import Mathlib.Tactic

/-!
# Pages of a list, with a cursor

A list in a strict order is fetched page by page: a cursor marks the last member that was fetched, a
page is made of the members behind it, up to a limit, and a full page comes with the next cursor.
Following the cursors fetches every member once and comes to an end.
-/

set_option autoImplicit false

namespace Foundation

namespace Keyset

variable {α κ ε : Type}

/-- The pages that are fetched by following the cursors: request `n` is answered with a page and, as
long as there is one, the next cursor. -/
inductive Walk (fetch : ℕ → Option κ → Except ε (List α × Option κ)) :
    ℕ → Option κ → List (List α) → Prop where
  | last {n : ℕ} {cursor : Option κ} {items : List α} (h : fetch n cursor = .ok (items, none)) :
      Walk fetch n cursor [items]
  | next {n : ℕ} {cursor : Option κ} {items : List α} {c : κ} {pages : List (List α)}
      (h : fetch n cursor = .ok (items, some c)) (rest : Walk fetch (n + 1) (some c) pages) :
      Walk fetch n cursor (items :: pages)

/-- There is only one way to follow the cursors. -/
theorem Walk.unique {fetch : ℕ → Option κ → Except ε (List α × Option κ)} {n : ℕ}
    {cursor : Option κ} {pages others : List (List α)} (h : Walk fetch n cursor pages)
    (h' : Walk fetch n cursor others) : pages = others := by
  induction h generalizing others with
  | last hfetch =>
    cases h' with
    | last hother =>
      rw [hfetch] at hother
      cases hother
      rfl
    | next hother _ =>
      rw [hfetch] at hother
      cases hother
  | next hfetch _ ih =>
    cases h' with
    | last hother =>
      rw [hfetch] at hother
      cases hother
    | next hother hrest =>
      rw [hfetch] at hother
      cases hother
      rw [ih hrest]

/-- A cursor marks the end of what was fetched: there is none at the beginning. -/
inductive Marks (mark : α → κ → Prop) : List α → Option κ → Prop where
  | start : Marks mark [] none
  | after {front : List α} {a : α} {c : κ} (h : mark a c) : Marks mark (front ++ [a]) (some c)

/-- Every request behind some members of the list is answered with the next ones, and with a cursor
for the last of them if they are as many as the limit. -/
def Fetches (mark : α → κ → Prop) (limit : ℕ) (l : List α)
    (fetch : ℕ → Option κ → Except ε (List α × Option κ)) : Prop :=
  ∀ n cursor fetched left, l = fetched ++ left → Marks mark fetched cursor →
    ∃ next, fetch n cursor = .ok (left.take limit, next) ∧
      if (left.take limit).length = limit then Marks mark (left.take limit) next else next = none

/-- Behind a page comes the rest. -/
theorem exists_walk {mark : α → κ → Prop} {limit : ℕ} (hlimit : 0 < limit) {l : List α}
    {fetch : ℕ → Option κ → Except ε (List α × Option κ)} (h : Fetches mark limit l fetch)
    (n : ℕ) {cursor : Option κ} {fetched left : List α} (hl : l = fetched ++ left)
    (hcursor : Marks mark fetched cursor) :
    ∃ pages, Walk fetch n cursor pages ∧ pages.flatten = left := by
  induction hlength : left.length using Nat.strong_induction_on generalizing n cursor fetched left with
  | _ length ih =>
    subst hlength
    obtain ⟨next, hfetch, hnext⟩ := h n cursor fetched left hl hcursor
    by_cases hfull : (left.take limit).length = limit
    · rw [if_pos hfull] at hnext
      have hle : limit ≤ left.length := by
        rw [List.length_take] at hfull
        omega
      generalize hpage : left.take limit = page at hfetch hfull hnext
      cases hnext with
      | start =>
        rw [List.length_nil] at hfull
        omega
      | @after front a c hmark =>
        have hsplit : l = (fetched ++ front ++ [a]) ++ left.drop limit := by
          rw [List.append_assoc fetched, ← hpage, List.append_assoc, List.take_append_drop]
          exact hl
        obtain ⟨pages, hwalk, hpages⟩ := ih (left.drop limit).length
          (by rw [List.length_drop]; omega) (n + 1) hsplit (.after hmark) rfl
        refine ⟨(front ++ [a]) :: pages, .next hfetch hwalk, ?_⟩
        rw [List.flatten_cons, hpages, ← hpage, List.take_append_drop]
    · rw [if_neg hfull] at hnext
      subst hnext
      have hall : left.take limit = left := by
        rw [List.length_take] at hfull
        exact List.take_of_length_le (by omega)
      rw [hall] at hfetch
      exact ⟨[left], .last hfetch, by simp⟩

/-- **Following the cursors from the beginning** fetches the list, and comes to an end. -/
theorem exists_walk_start {mark : α → κ → Prop} {limit : ℕ} (hlimit : 0 < limit) {l : List α}
    {fetch : ℕ → Option κ → Except ε (List α × Option κ)} (h : Fetches mark limit l fetch) (n : ℕ) :
    ∃ pages, Walk fetch n none pages ∧ pages.flatten = l :=
  exists_walk hlimit h n (List.nil_append l).symm .start

/-! ## What comes behind a member -/

/-- Behind a member of a list in a strict order comes what is after it. -/
theorem filter_behind {R : α → α → Prop} [DecidableRel R] (hirrefl : ∀ a, ¬ R a a)
    (hasymm : ∀ a b, R a b → ¬ R b a) {front left : List α} {a : α}
    (h : (front ++ [a] ++ left).Pairwise R) :
    (front ++ [a] ++ left).filter (fun b => R a b) = left := by
  rw [List.append_assoc, List.pairwise_append, List.singleton_append, List.pairwise_cons] at h
  obtain ⟨-, ⟨hleft, -⟩, hfront⟩ := h
  have hfrontNone : front.filter (fun b => R a b) = [] := by
    refine List.filter_eq_nil_iff.mpr fun b hb => ?_
    rw [decide_eq_true_iff]
    exact hasymm b a (hfront b hb a List.mem_cons_self)
  have hleftAll : left.filter (fun b => R a b) = left := by
    refine List.filter_eq_self.mpr fun b hb => ?_
    rw [decide_eq_true_iff]
    exact hleft b hb
  rw [List.append_assoc, List.filter_append, List.singleton_append, List.filter_cons, hfrontNone,
    hleftAll, if_neg (by simpa using hirrefl a), List.nil_append]

/-- Sorting some of the members is the same before and after they are taken out, if no two of them
stand in the order both ways. -/
theorem filter_insertionSort {R : α → α → Prop} [DecidableRel R] [Std.Total R] [IsTrans α R]
    {l : List α} (hanti : ∀ a ∈ l, ∀ b ∈ l, R a b → R b a → a = b) (p : α → Bool) :
    (l.filter p).insertionSort R = (l.insertionSort R).filter p := by
  have hperm : ((l.filter p).insertionSort R).Perm ((l.insertionSort R).filter p) :=
    (List.perm_insertionSort R _).trans ((List.perm_insertionSort R l).symm.filter p)
  refine hperm.eq_of_pairwise (fun a b ha hb hab hba => ?_) (List.pairwise_insertionSort R _)
    ((List.pairwise_insertionSort R l).sublist List.filter_sublist)
  have ha : a ∈ l := by
    rw [List.mem_insertionSort, List.mem_filter] at ha
    exact ha.1
  have hb : b ∈ l := by
    rw [List.mem_filter, List.mem_insertionSort] at hb
    exact hb.1
  exact hanti a ha b hb hab hba

end Keyset

end Foundation
