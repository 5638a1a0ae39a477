import Mathlib.Data.List.Basic

/-!
# Fair locks

A lock that is handed on in the order of arrival, as `asyncio.Lock` is: a task that finds it held,
or finds others in line, joins the line, and whoever is first in line takes the lock once it is
released.
-/

set_option autoImplicit false

namespace Foundation

/-- Whether the lock is held, and who waits for it. -/
structure FairLock (τ : Type) where
  locked : Bool := false
  waiters : List τ := []
deriving DecidableEq, Repr

namespace FairLock

variable {τ : Type}

/-- Whether a task that arrives gets the lock at once. -/
def isFree (lock : FairLock τ) : Bool := !lock.locked && lock.waiters.isEmpty

/-- A task that arrives gets the lock. -/
def acquire (lock : FairLock τ) : FairLock τ := { lock with locked := true }

/-- A task that arrives has to wait. -/
def joinLine (lock : FairLock τ) (task : τ) : FairLock τ :=
  { lock with waiters := lock.waiters ++ [task] }

/-- Whether a task that waits may go on. -/
def isTurn [DecidableEq τ] (lock : FairLock τ) (task : τ) : Bool :=
  !lock.locked && lock.waiters.head? = some task

/-- The first task in line gets the lock. -/
def takeTurn (lock : FairLock τ) : FairLock τ := ⟨true, lock.waiters.tail⟩

/-- The task that has the lock is through with it. -/
def release (lock : FairLock τ) : FairLock τ := { lock with locked := false }

/-! ## The lock and its tasks -/

/-- A lock serves the tasks that hold it and those that wait for it: one task at most holds it, it
is locked while a task does, and the line is made of those that wait. -/
structure Serves (lock : FairLock τ) (holds waits : τ → Prop) : Prop where
  one : ∀ a b, holds a → holds b → a = b
  locked : lock.locked = true ↔ ∃ a, holds a
  line : ∀ a, waits a ↔ a ∈ lock.waiters
  nodup : lock.waiters.Nodup

variable {lock : FairLock τ} {holds waits : τ → Prop}

/-- A lock nobody has asked for. -/
theorem serves_new : Serves (τ := τ) {} (fun _ => False) (fun _ => False) where
  one _ _ h := h.elim
  locked := ⟨fun h => absurd h Bool.false_ne_true, fun ⟨_, h⟩ => h.elim⟩
  line _ := ⟨False.elim, fun h => absurd h List.not_mem_nil⟩
  nodup := List.nodup_nil

/-- Only who holds the lock and who waits matters. -/
theorem Serves.congr (h : Serves lock holds waits) {holds' waits' : τ → Prop}
    (hholds : ∀ a, holds' a ↔ holds a) (hwaits : ∀ a, waits' a ↔ waits a) :
    Serves lock holds' waits' := by
  obtain rfl : holds' = holds := funext fun a => propext (hholds a)
  obtain rfl : waits' = waits := funext fun a => propext (hwaits a)
  exact h

/-- A lock that is not locked is held by nobody. -/
theorem Serves.not_holds (h : Serves lock holds waits) (hlocked : lock.locked = false) (a : τ) :
    ¬ holds a := by
  intro ha
  rw [h.locked.mpr ⟨a, ha⟩] at hlocked
  cases hlocked

/-- A task that is alone with a lock. -/
theorem one_of_not_holds {task : τ} (hnone : ∀ a, ¬ holds a) (a b : τ) (ha : holds a ∨ a = task)
    (hb : holds b ∨ b = task) : a = b := by
  rw [or_iff_right (hnone a)] at ha
  rw [or_iff_right (hnone b)] at hb
  exact ha.trans hb.symm

/-- **A task that arrives at a free lock holds it.** -/
theorem Serves.acquire (h : Serves lock holds waits) (hfree : lock.isFree = true) (task : τ) :
    Serves lock.acquire (fun a => holds a ∨ a = task) waits := by
  unfold isFree at hfree
  rw [Bool.and_eq_true, Bool.not_eq_true'] at hfree
  exact ⟨one_of_not_holds (h.not_holds hfree.1), ⟨fun _ => ⟨task, .inr rfl⟩, fun _ => rfl⟩,
    h.line, h.nodup⟩

/-- **A task that has to wait is the last in line.** -/
theorem Serves.joinLine (h : Serves lock holds waits) {task : τ} (hnew : ¬ waits task) :
    Serves (lock.joinLine task) holds (fun a => waits a ∨ a = task) := by
  refine ⟨h.one, h.locked, fun a => ?_, ?_⟩
  · unfold FairLock.joinLine
    rw [List.mem_append, List.mem_singleton, h.line a]
  · unfold FairLock.joinLine
    rw [List.nodup_append]
    refine ⟨h.nodup, List.pairwise_singleton .., fun a ha b hb hab => ?_⟩
    rw [List.mem_singleton] at hb
    exact hnew ((h.line task).mpr (hb ▸ hab ▸ ha))

/-- **The first task in line takes the lock that nobody holds.** -/
theorem Serves.takeTurn [DecidableEq τ] (h : Serves lock holds waits) {task : τ}
    (hturn : lock.isTurn task = true) :
    Serves lock.takeTurn (fun a => holds a ∨ a = task) (fun a => waits a ∧ a ≠ task) := by
  unfold isTurn at hturn
  rw [Bool.and_eq_true, Bool.not_eq_true', decide_eq_true_eq] at hturn
  obtain ⟨others, hothers⟩ := List.head?_eq_some_iff.mp hturn.2
  have hnodup := h.nodup
  rw [hothers, List.nodup_cons] at hnodup
  refine ⟨one_of_not_holds (h.not_holds hturn.1), ⟨fun _ => ⟨task, .inr rfl⟩, fun _ => rfl⟩,
    fun a => ?_, ?_⟩
  · unfold FairLock.takeTurn
    rw [h.line a, hothers, List.mem_cons, List.tail_cons]
    constructor
    · rintro ⟨htask | hmem, hne⟩
      · exact absurd htask hne
      · exact hmem
    · intro hmem
      exact ⟨.inr hmem, fun htask => hnodup.1 (htask ▸ hmem)⟩
  · unfold FairLock.takeTurn
    rw [hothers]
    exact hnodup.2

/-- **The task that holds the lock releases it.** -/
theorem Serves.release (h : Serves lock holds waits) {task : τ} (htask : holds task) :
    Serves lock.release (fun a => holds a ∧ a ≠ task) waits := by
  have hnone : ∀ a, ¬ (holds a ∧ a ≠ task) := fun a ha => ha.2 (h.one a task ha.1 htask)
  exact ⟨fun a b ha _ => (hnone a ha).elim,
    ⟨fun hlocked => absurd hlocked Bool.false_ne_true, fun ⟨a, ha⟩ => (hnone a ha).elim⟩,
    h.line, h.nodup⟩

/-- **Nobody waits in vain**: while a task waits, another holds the lock, or the first in line may
take it. -/
theorem Serves.moves [DecidableEq τ] (h : Serves lock holds waits) {task : τ}
    (hwaits : waits task) : (∃ a, holds a) ∨ ∃ a, waits a ∧ lock.isTurn a = true := by
  cases hlocked : lock.locked with
  | true => exact .inl (h.locked.mp hlocked)
  | false =>
    right
    have hmem := (h.line task).mp hwaits
    obtain ⟨first, others, hline⟩ := List.exists_cons_of_ne_nil (List.ne_nil_of_mem hmem)
    refine ⟨first, (h.line first).mpr (hline ▸ List.mem_cons_self), ?_⟩
    unfold isTurn
    rw [hlocked, hline]
    simp

end FairLock

end Foundation
