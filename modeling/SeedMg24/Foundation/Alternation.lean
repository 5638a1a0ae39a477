import Mathlib.Data.List.Chain

/-!
# Switches

The log of a switch that is off at first: it is turned on and off in turns, and the last entry says
whether it is on.
-/

set_option autoImplicit false

namespace Foundation

namespace Switch

/-- Whether the switch is on after a log. -/
def isOn (log : List Bool) : Bool := log.getLast?.getD false

/-- The switch is turned on and off in turns, on first. -/
structure Alternates (log : List Bool) : Prop where
  first : log.head? ≠ some false
  turns : log.IsChain (· ≠ ·)

@[simp] theorem isOn_nil : isOn [] = false := rfl

@[simp] theorem isOn_snoc (log : List Bool) (on : Bool) : isOn (log ++ [on]) = on := by
  unfold isOn
  rw [List.getLast?_append, List.getLast?_singleton]
  rfl

theorem alternates_nil : Alternates [] := ⟨nofun, .nil⟩

/-- **One more turn**: the switch goes to what it is not. -/
theorem Alternates.snoc {log : List Bool} (h : Alternates log) {on : Bool}
    (hturn : on = !isOn log) : Alternates (log ++ [on]) := by
  rcases List.eq_nil_or_concat log with rfl | ⟨before, last, rfl⟩
  · subst hturn
    exact ⟨nofun, .singleton _⟩
  · rw [List.concat_eq_append] at h hturn ⊢
    rw [isOn_snoc] at hturn
    refine ⟨?_, List.isChain_append.mpr ⟨h.turns, .singleton _, ?_⟩⟩
    · rw [List.head?_append_of_ne_nil _ (List.append_ne_nil_of_right_ne_nil _ (List.cons_ne_nil _ _))]
      exact h.first
    · intro x hx y hy
      rw [List.getLast?_append, List.getLast?_singleton] at hx
      obtain rfl : last = x := Option.some.inj hx
      obtain rfl : on = y := Option.some.inj hy
      rw [hturn]
      cases last <;> exact nofun

/-- The turns on are as many as the turns off, or one more while the switch is on. -/
theorem Alternates.count_true {log : List Bool} (h : Alternates log) :
    log.count true = log.count false + (isOn log).toNat := by
  induction log using List.reverseRecOn with
  | nil => rfl
  | append_singleton log on ih =>
    have hlog : Alternates log := by
      refine ⟨fun hfirst => h.first ?_, (List.isChain_append.mp h.turns).1⟩
      rw [List.head?_append, hfirst]
      rfl
    have hturn : on = !isOn log := by
      cases hlast : log.getLast? with
      | none =>
        obtain rfl := List.getLast?_eq_none_iff.mp hlast
        cases on with
        | true => rfl
        | false => exact absurd rfl h.first
      | some last =>
        have hne := (List.isChain_append.mp h.turns).2.2 last hlast on rfl
        unfold isOn
        rw [hlast, Option.getD_some]
        exact (Bool.eq_not_of_ne hne.symm)
    have hcount := ih hlog
    rw [List.count_append, List.count_append, isOn_snoc]
    subst hturn
    cases hon : isOn log <;> rw [hon] at hcount <;> simp_all

end Switch

end Foundation
