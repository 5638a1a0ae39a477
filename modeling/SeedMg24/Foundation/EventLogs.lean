import Mathlib.Data.List.Basic

/-!
# Logs of events

What may not come behind what in a log that only grows.
-/

set_option autoImplicit false

namespace Foundation

variable {α : Type}

/-- The second of two entries never comes behind the first. -/
def NeverAfter (first second : α) (log : List α) : Prop :=
  ∀ before after, log = before ++ second :: after → first ∉ before

theorem neverAfter_nil (first second : α) : NeverAfter first second [] := by
  intro before after h
  simp at h

/-- **One more entry.** -/
theorem neverAfter_snoc {first second entry : α} {log : List α} :
    NeverAfter first second (log ++ [entry]) ↔
      NeverAfter first second log ∧ (entry = second → first ∉ log) := by
  constructor
  · intro h
    refine ⟨fun before after hlog => ?_, fun hentry => ?_⟩
    · exact h before (after ++ [entry]) (by rw [hlog]; simp)
    · exact h log [] (by rw [hentry])
  · rintro ⟨hlog, hentry⟩ before after hsplit
    rcases List.eq_nil_or_concat after with rfl | ⟨rest, last, rfl⟩
    · obtain ⟨rfl, hsecond⟩ := List.append_inj' hsplit rfl
      exact hentry (List.singleton_inj.mp hsecond)
    · have hsplit' : log ++ [entry] = (before ++ second :: rest) ++ [last] := by
        rw [hsplit, List.concat_eq_append, List.append_assoc, List.cons_append]
      exact hlog before rest (List.append_inj' hsplit' rfl).1

end Foundation
