import Mathlib.Data.List.Basic
import Mathlib.Data.List.Infix

/-!
# Runs

A machine that takes one event after the other, and what holds along its runs.  A property holds
all along a run exactly when every step of the run meets the condition under which one step keeps
the property.
-/

set_option autoImplicit false

namespace Foundation

namespace Runs

variable {σ ε : Type} (next : σ → ε → σ)

/-- The state after a run. -/
def after (s : σ) (events : List ε) : σ := events.foldl next s

@[simp] theorem after_nil (s : σ) : after next s [] = s := rfl

@[simp] theorem after_cons (s : σ) (e : ε) (events : List ε) :
    after next s (e :: events) = after next (next s e) events := rfl

theorem after_append (s : σ) (a b : List ε) :
    after next s (a ++ b) = after next (after next s a) b := by
  simp [after]

theorem after_snoc (s : σ) (events : List ε) (e : ε) :
    after next s (events ++ [e]) = next (after next s events) e := by
  simp [after]

/-- What every step keeps holds after every run. -/
theorem after_invariant {I : σ → Prop} {s : σ} (hstart : I s)
    (hstep : ∀ s e, I s → I (next s e)) (events : List ε) : I (after next s events) := by
  induction events generalizing s with
  | nil => exact hstart
  | cons e events ih => exact ih (hstep s e hstart)

/-- A property of every state a run passes through. -/
def Always (P : σ → Prop) (s : σ) (events : List ε) : Prop :=
  ∀ before, before <+: events → P (after next s before)

/-- A condition on every step of a run, and the state it is taken in. -/
def Throughout (C : σ → ε → Prop) (s : σ) (events : List ε) : Prop :=
  ∀ before e, before ++ [e] <+: events → C (after next s before) e

/-- The property of the last state. -/
theorem Always.last {P : σ → Prop} {s : σ} {events : List ε} (h : Always next P s events) :
    P (after next s events) :=
  h events (List.prefix_refl events)

/-- A run whose steps all meet a condition keeps what such steps keep. -/
theorem Throughout.always {I : σ → Prop} {C : σ → ε → Prop} {s : σ} {events : List ε}
    (h : Throughout next C s events) (hstart : I s)
    (hstep : ∀ s e, I s → C s e → I (next s e)) : Always next I s events := by
  intro before hbefore
  induction before using List.reverseRecOn with
  | nil => exact hstart
  | append_singleton before e ih =>
    rw [after_snoc]
    exact hstep _ e (ih ((List.prefix_append before [e]).trans hbefore)) (h before e hbefore)

theorem throughout_nil (C : σ → ε → Prop) (s : σ) : Throughout next C s [] := by
  intro before e hbefore
  have hlength := hbefore.length_le
  simp at hlength

/-- The first step, and the others. -/
theorem throughout_cons {C : σ → ε → Prop} {s : σ} {e : ε} {events : List ε} :
    Throughout next C s (e :: events) ↔ C s e ∧ Throughout next C (next s e) events := by
  constructor
  · intro h
    refine ⟨h [] e (by simp), fun before f hbefore => ?_⟩
    exact h (e :: before) f (by simpa using hbefore)
  · rintro ⟨hfirst, hrest⟩ before f hbefore
    cases before with
    | nil =>
      obtain ⟨rfl, -⟩ := List.cons_prefix_cons.mp hbefore
      exact hfirst
    | cons g before =>
      rw [List.cons_append] at hbefore
      obtain ⟨rfl, hprefix⟩ := List.cons_prefix_cons.mp hbefore
      exact hrest before f hprefix

instance decidableThroughout (C : σ → ε → Prop) [∀ s e, Decidable (C s e)] :
    ∀ (events : List ε) (s : σ), Decidable (Throughout next C s events)
  | [], s => isTrue (throughout_nil next C s)
  | e :: events, s =>
    have := decidableThroughout C events (next s e)
    decidable_of_iff (C s e ∧ Throughout next C (next s e) events) (throughout_cons next).symm

/-- **A property holds all along a run exactly when every step meets its condition**, if from a
state with the property and the invariant the condition decides whether a step keeps it. -/
theorem always_iff_throughout {I P : σ → Prop} {C : σ → ε → Prop} {s : σ} {events : List ε}
    (hI : I s) (hP : P s) (hinvariant : ∀ s e, I s → I (next s e))
    (hstep : ∀ s e, I s → P s → (P (next s e) ↔ C s e)) :
    Always next P s events ↔ Throughout next C s events := by
  constructor
  · intro h before e hbefore
    have hlast := h (before ++ [e]) hbefore
    rw [after_snoc] at hlast
    have hfirst := h before ((List.prefix_append before [e]).trans hbefore)
    exact (hstep _ e (after_invariant next hI hinvariant before) hfirst).mp hlast
  · intro h before hbefore
    have hboth : Always next (fun s => I s ∧ P s) s events :=
      h.always next ⟨hI, hP⟩ fun s e hs hC => ⟨hinvariant s e hs.1, (hstep s e hs.1 hs.2).mpr hC⟩
    exact (hboth before hbefore).2

/-- **Two conditions are met by the same runs**, if they agree wherever an invariant holds that is
kept as long as they are met. -/
theorem throughout_iff_throughout {I : σ → Prop} {A C : σ → ε → Prop} {s : σ} {events : List ε}
    (hI : I s) (hinvariant : ∀ s e, I s → C s e → I (next s e))
    (hstep : ∀ s e, I s → (A s e ↔ C s e)) :
    Throughout next A s events ↔ Throughout next C s events := by
  induction events generalizing s with
  | nil => exact ⟨fun _ => throughout_nil next C s, fun _ => throughout_nil next A s⟩
  | cons e events ih =>
    rw [throughout_cons, throughout_cons, hstep s e hI]
    exact and_congr_right fun hfirst => ih (hinvariant s e hI hfirst)

end Runs

end Foundation
