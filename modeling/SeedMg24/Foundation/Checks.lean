import Mathlib.Tactic

/-!
# Checks one after the other

A program that reads its input by checks stops at the first that fails.  Some errors reject the
input, as the program promises, and others escape from it; which of them happens is decided by the
first check that does not accept.
-/

set_option autoImplicit false

namespace Foundation

/-- What becomes of a check. -/
inductive Verdict where
  | accepts
  | rejects
  | escapes
deriving DecidableEq

namespace Verdict

/-- Of two checks the second is made only if the first accepts. -/
def andThen : Verdict → Verdict → Verdict
  | accepts, v => v
  | v, _ => v

/-- The verdict of the first check that does not accept. -/
def first (verdicts : List Verdict) : Verdict := verdicts.foldr andThen accepts

@[simp] theorem accepts_andThen (v : Verdict) : accepts.andThen v = v := rfl

@[simp] theorem rejects_andThen (v : Verdict) : rejects.andThen v = rejects := rfl

@[simp] theorem escapes_andThen (v : Verdict) : escapes.andThen v = escapes := rfl

@[simp] theorem andThen_accepts (v : Verdict) : v.andThen accepts = v := by
  cases v <;> rfl

theorem andThen_assoc (u v w : Verdict) : (u.andThen v).andThen w = u.andThen (v.andThen w) := by
  cases u <;> rfl

@[simp] theorem first_nil : first [] = accepts := rfl

@[simp] theorem first_cons (v : Verdict) (rest : List Verdict) :
    first (v :: rest) = v.andThen (first rest) := rfl

theorem first_append (vs ws : List Verdict) :
    first (vs ++ ws) = (first vs).andThen (first ws) := by
  induction vs with
  | nil => rfl
  | cons v vs ih => rw [List.cons_append, first_cons, first_cons, ih, andThen_assoc]

end Verdict

namespace Checks

open Verdict

variable {ε α β : Type} (isRejection : ε → Bool)

/-- The verdict of a computation that may fail. -/
def verdict : Except ε α → Verdict
  | .ok _ => accepts
  | .error e => if isRejection e then rejects else escapes

@[simp] theorem verdict_ok (a : α) : verdict isRejection (.ok a : Except ε α) = accepts := rfl

/-- A computation goes on with what was accepted. -/
theorem verdict_bind (x : Except ε α) (f : α → Except ε β) {v : Verdict}
    (h : ∀ a, x = .ok a → verdict isRejection (f a) = v) :
    verdict isRejection (x >>= f) = (verdict isRejection x).andThen v := by
  cases x with
  | ok a => exact h a rfl
  | error e =>
    show (if isRejection e then rejects else escapes) =
      (if isRejection e then rejects else escapes).andThen v
    split
    · rfl
    · rfl

/-- What is returned at the end changes nothing. -/
theorem verdict_map (x : Except ε α) (f : α → β) :
    verdict isRejection (x.map f) = verdict isRejection x := by
  cases x <;> rfl

/-- Items are read up to the first that is not accepted. -/
theorem verdict_mapM (f : α → Except ε β) (items : List α) :
    verdict isRejection (items.mapM f) = first (items.map fun item => verdict isRejection (f item)) := by
  induction items with
  | nil => rfl
  | cons item rest ih =>
    rw [List.mapM_cons, List.map_cons, first_cons]
    apply verdict_bind
    intro b _
    rw [← ih]
    exact (verdict_bind isRejection (v := accepts) _ _ fun _ _ => rfl).trans (andThen_accepts _)

/-- The same where the items are read one after the other into a state. -/
theorem verdict_foldlM {f : β → α → Except ε β} {g : α → Verdict}
    (h : ∀ b item, verdict isRejection (f b item) = g item) (items : List α) (b : β) :
    verdict isRejection (items.foldlM f b) = first (items.map g) := by
  induction items generalizing b with
  | nil => rfl
  | cons item rest ih =>
    rw [List.foldlM_cons, List.map_cons, first_cons, ← h b item]
    exact verdict_bind isRejection _ _ fun b' _ => ih b'

/-- What is read of each item. -/
theorem forall₂_of_mapM {f : α → Except ε β} {items : List α} {results : List β}
    (h : items.mapM f = .ok results) :
    List.Forall₂ (fun item result => f item = .ok result) items results := by
  induction items generalizing results with
  | nil =>
    cases h
    exact List.Forall₂.nil
  | cons item rest ih =>
    rw [List.mapM_cons] at h
    cases hitem : f item with
    | error e =>
      rw [hitem] at h
      cases h
    | ok result =>
      cases hrest : rest.mapM f with
      | error e =>
        rw [hitem, hrest] at h
        cases h
      | ok others =>
        rw [hitem, hrest] at h
        cases h
        exact List.Forall₂.cons hitem (ih hrest)

/-- What is the same of every item and its result is the same of the lists. -/
theorem map_eq_of_forall₂ {γ : Type} {R : α → β → Prop} {f : α → γ} {g : β → γ} {items : List α}
    {results : List β} (h : List.Forall₂ R items results) (hR : ∀ a b, R a b → g b = f a) :
    results.map g = items.map f := by
  induction h with
  | nil => rfl
  | cons hfirst _ ih => rw [List.map_cons, List.map_cons, ih, hR _ _ hfirst]

/-- What holds of every result holds of all of them. -/
theorem forall_mem_of_forall₂ {R : α → β → Prop} {P : β → Prop} {items : List α}
    {results : List β} (h : List.Forall₂ R items results) (hR : ∀ a b, R a b → P b) :
    ∀ b ∈ results, P b := by
  induction h with
  | nil => exact fun b hb => absurd hb List.not_mem_nil
  | cons hfirst _ ih => exact List.forall_mem_cons.mpr ⟨hR _ _ hfirst, ih⟩

/-- What a computation returns was made from what was accepted before. -/
theorem exists_of_bind {x : Except ε α} {f : α → Except ε β} {b : β} (h : x >>= f = .ok b) :
    ∃ a, x = .ok a ∧ f a = .ok b := by
  cases x with
  | ok a => exact ⟨a, rfl, h⟩
  | error e => cases h

theorem exists_of_map {x : Except ε α} {f : α → β} {b : β} (h : x.map f = .ok b) :
    ∃ a, x = .ok a ∧ f a = b := by
  cases x with
  | ok a => exact ⟨a, rfl, Except.ok.inj h⟩
  | error e => cases h

/-- What every item keeps of a state is kept by all of them. -/
theorem foldlM_invariant {P : β → Prop} {f : β → α → Except ε β} {items : List α} {b b' : β}
    (hstart : P b) (hstep : ∀ b item b', P b → f b item = .ok b' → P b')
    (h : items.foldlM f b = .ok b') : P b' := by
  induction items generalizing b with
  | nil =>
    cases h
    exact hstart
  | cons item rest ih =>
    rw [List.foldlM_cons] at h
    obtain ⟨b₁, hfirst, hrest⟩ := exists_of_bind h
    exact ih (hstep b item b₁ hstart hfirst) hrest

end Checks

end Foundation
