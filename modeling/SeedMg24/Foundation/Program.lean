import Mathlib.Tactic
import Mathlib.Logic.Function.Basic

/-!
# Programs over a faulty environment

A `Program` is the tree of calls a piece of code makes on the operations of some interface:
each node is one operation, its children are the continuations for every possible answer.
An `Environment` gives the operations their meaning on a state; what it does besides is
chosen, call by call, by a stream of faults.  A program is a finite tree, so a run always
ends: `Program.run` is total.  `Program.crash` is the state a power cut leaves behind after
a number of calls.

`Ensures` is the Hoare triple with a crash condition over every fault stream.  Its rules
(`ensures_done`, `ensures_call`, `ensures_bind`, `ensures_foldlM`) are the only way the
developments over this file reason about runs.
-/

set_option autoImplicit false

namespace Foundation

/-- A program calling the operations `Op`, each answered by its own `Answer` type. -/
inductive Program {Op : Type} (Answer : Op → Type) (α : Type) : Type where
  | done (value : α)
  | call (op : Op) (next : Answer op → Program Answer α)

/-- What the operations do: the answer and the new state, under one fault per call. -/
structure Environment {Op : Type} (Answer : Op → Type) (σ φ : Type) where
  step : σ → (op : Op) → φ → Answer op × σ

/-- The end of a run: the returned value, the state, and the faults not yet used. -/
structure Outcome (σ φ α : Type) where
  value : α
  state : σ
  rest : ℕ → φ

namespace Program

variable {Op : Type} {Answer : Op → Type} {σ φ ψ α β γ : Type}

/-- Sequencing: `f` continues at every leaf of `p`. -/
protected def bind : Program Answer α → (α → Program Answer β) → Program Answer β
  | .done a, f => f a
  | .call op next, f => .call op fun r => (next r).bind f

instance : Monad (Program Answer) where
  pure := .done
  bind := Program.bind

@[simp] theorem pure_eq_done (a : α) : (pure a : Program Answer α) = .done a := rfl

@[simp] theorem done_bind (a : α) (f : α → Program Answer β) :
    (Program.done a >>= f) = f a := rfl

@[simp] theorem call_bind (op : Op) (next : Answer op → Program Answer α)
    (f : α → Program Answer β) :
    (Program.call op next >>= f) = .call op fun r => next r >>= f := rfl

theorem bind_done (p : Program Answer α) : (p >>= Program.done) = p := by
  induction p with
  | done a => rfl
  | call op next ih => simp only [call_bind, ih]

@[simp] theorem bind_assoc' (p : Program Answer α) (f : α → Program Answer β)
    (g : β → Program Answer γ) : (p >>= f >>= g) = p >>= fun a => f a >>= g := by
  induction p with
  | done a => rfl
  | call op next ih => simp only [call_bind, ih]

/-- One call, returning its answer. -/
def perform (op : Op) : Program Answer (Answer op) := .call op .done

@[simp] theorem perform_bind (op : Op) (f : Answer op → Program Answer β) :
    (perform op >>= f) = .call op f := rfl

/-- The faults left after the first call. -/
def later (ω : ℕ → φ) : ℕ → φ := fun i => ω (i + 1)

@[simp] theorem later_apply (ω : ℕ → φ) (i : ℕ) : later ω i = ω (i + 1) := rfl

@[simp] theorem later_const (f : φ) : later (fun _ : ℕ => f) = fun _ => f := rfl

/-- The whole run of a program: call number `i` meets fault `ω i`. -/
def run (E : Environment Answer σ φ) : Program Answer α → σ → (ℕ → φ) → Outcome σ φ α
  | .done a, s, ω => ⟨a, s, ω⟩
  | .call op next, s, ω =>
    (next (E.step s op (ω 0)).1).run E (E.step s op (ω 0)).2 (later ω)

/-- The state a power cut leaves after `n` calls (the final state if there are fewer). -/
def crash (E : Environment Answer σ φ) : Program Answer α → σ → (ℕ → φ) → ℕ → σ
  | .done _, s, _, _ => s
  | .call _ _, s, _, 0 => s
  | .call op next, s, ω, n + 1 =>
    (next (E.step s op (ω 0)).1).crash E (E.step s op (ω 0)).2 (later ω) n

/-- The operations a run calls, in order. -/
def trace (E : Environment Answer σ φ) : Program Answer α → σ → (ℕ → φ) → List Op
  | .done _, _, _ => []
  | .call op next, s, ω =>
    op :: (next (E.step s op (ω 0)).1).trace E (E.step s op (ω 0)).2 (later ω)

section Equations

variable (E : Environment Answer σ φ) (s : σ) (ω : ℕ → φ)

@[simp] theorem run_done (a : α) : (Program.done a : Program Answer α).run E s ω = ⟨a, s, ω⟩ := rfl

@[simp] theorem run_call (op : Op) (next : Answer op → Program Answer α) :
    (Program.call op next).run E s ω =
      (next (E.step s op (ω 0)).1).run E (E.step s op (ω 0)).2 (later ω) := rfl

@[simp] theorem crash_done (a : α) (n : ℕ) :
    (Program.done a : Program Answer α).crash E s ω n = s := rfl

@[simp] theorem crash_zero (p : Program Answer α) : p.crash E s ω 0 = s := by
  cases p <;> rfl

@[simp] theorem crash_call (op : Op) (next : Answer op → Program Answer α) (n : ℕ) :
    (Program.call op next).crash E s ω (n + 1) =
      (next (E.step s op (ω 0)).1).crash E (E.step s op (ω 0)).2 (later ω) n := rfl

/-- A sequence runs its parts one after the other, on the faults the first part left. -/
theorem run_bind (p : Program Answer α) (f : α → Program Answer β) :
    (p >>= f).run E s ω =
      (f (p.run E s ω).value).run E (p.run E s ω).state (p.run E s ω).rest := by
  induction p generalizing s ω with
  | done a => rfl
  | call op next ih => simp only [call_bind, run_call, ih]

end Equations

/-- Calls of a sequence: those of the first part, then those of the second. -/
theorem trace_bind (E : Environment Answer σ φ) (p : Program Answer α)
    (f : α → Program Answer β) (s : σ) (ω : ℕ → φ) :
    (p >>= f).trace E s ω =
      p.trace E s ω ++ (f (p.run E s ω).value).trace E (p.run E s ω).state (p.run E s ω).rest := by
  induction p generalizing s ω with
  | done a => rfl
  | call op next ih => simp only [call_bind, trace, ih, run_call, List.cons_append]

end Program

/-- The environment `E` in which operation `op` only meets the faults `g op f`. -/
def Environment.restrict {Op : Type} {Answer : Op → Type} {σ φ ψ : Type}
    (E : Environment Answer σ φ) (g : Op → ψ → φ) : Environment Answer σ ψ :=
  ⟨fun s op f => E.step s op (g op f)⟩

namespace Program

variable {Op : Type} {Answer : Op → Type} {σ φ ψ α : Type}

/-- A run under restricted faults is a run of the full environment. -/
theorem run_restrict (E : Environment Answer σ φ) (g : ψ → φ) (p : Program Answer α) (s : σ)
    (ω : ℕ → ψ) :
    p.run E s (fun i => g (ω i)) =
      ⟨(p.run (E.restrict fun _ f => g f) s ω).value, (p.run (E.restrict fun _ f => g f) s ω).state,
        fun i => g ((p.run (E.restrict fun _ f => g f) s ω).rest i)⟩ := by
  induction p generalizing s ω with
  | done a => rfl
  | call op next ih => exact ih _ _ (later ω)

/-- So is a run that is cut. -/
theorem crash_restrict (E : Environment Answer σ φ) (g : ψ → φ) (p : Program Answer α) (s : σ)
    (ω : ℕ → ψ) (n : ℕ) :
    p.crash (E.restrict fun _ f => g f) s ω n = p.crash E s (fun i => g (ω i)) n := by
  induction p generalizing s ω n with
  | done a => rfl
  | call op next ih =>
    cases n with
    | zero => rfl
    | succ n => exact ih _ _ (later ω) n

end Program

/-- Every run of `p` from `s` ends as `Q` says, and every state a power cut can leave on the
way satisfies `C`. -/
def Ensures {Op : Type} {Answer : Op → Type} {σ φ α : Type} (E : Environment Answer σ φ)
    (C : σ → Prop) (p : Program Answer α) (s : σ) (Q : α → σ → Prop) : Prop :=
  ∀ ω : ℕ → φ, Q (p.run E s ω).value (p.run E s ω).state ∧ ∀ n, C (p.crash E s ω n)

section Rules

variable {Op : Type} {Answer : Op → Type} {σ φ ψ α β : Type}
variable {E : Environment Answer σ φ} {C : σ → Prop} {s : σ}

namespace Ensures

/-- A returning program ensures what holds of the value it returns. -/
theorem done {a : α} {Q : α → σ → Prop} (hC : C s) (hQ : Q a s) :
    Ensures E C (Program.done a) s Q :=
  fun _ => ⟨hQ, fun _ => hC⟩

/-- A call ensures what its continuation ensures after every fault. -/
theorem call {op : Op} {next : Answer op → Program Answer α} {Q : α → σ → Prop} (hC : C s)
    (h : ∀ f, Ensures E C (next (E.step s op f).1) (E.step s op f).2 Q) :
    Ensures E C (Program.call op next) s Q := by
  intro ω
  refine ⟨(h (ω 0) (Program.later ω)).1, fun n => ?_⟩
  cases n with
  | zero => exact hC
  | succ n => exact (h (ω 0) (Program.later ω)).2 n

/-- One call, then the rest. -/
theorem perform {op : Op} {f : Answer op → Program Answer α} {Q : α → σ → Prop} (hC : C s)
    (h : ∀ fault, Ensures E C (f (E.step s op fault).1) (E.step s op fault).2 Q) :
    Ensures E C (Program.perform op >>= f) s Q :=
  call hC h

/-- Conversely, a call that ensures `Q` leaves a continuation that does, after every fault. -/
theorem of_call {op : Op} {next : Answer op → Program Answer α} {Q : α → σ → Prop}
    (h : Ensures E C (Program.call op next) s Q) (f : φ) :
    Ensures E C (next (E.step s op f).1) (E.step s op f).2 Q := by
  intro ω
  -- the stream that starts with `f` and goes on as `ω`
  have hω := h fun i => Nat.casesOn i f ω
  exact ⟨hω.1, fun n => hω.2 (n + 1)⟩

/-- The state a program starts in is one a power cut can leave. -/
theorem here {p : Program Answer α} {Q : α → σ → Prop} (h : Ensures E C p s Q) (f : φ) : C s := by
  simpa using (h fun _ => f).2 0

/-- What a program ensures may be weakened. -/
theorem mono {p : Program Answer α} {Q Q' : α → σ → Prop} {C' : σ → Prop}
    (h : Ensures E C p s Q) (hC : ∀ t, C t → C' t) (hQ : ∀ a t, Q a t → Q' a t) :
    Ensures E C' p s Q' :=
  fun ω => ⟨hQ _ _ (h ω).1, fun n => hC _ ((h ω).2 n)⟩

/-- Every program ensures what is always true. -/
theorem trivial (p : Program Answer α) (s : σ) :
    Ensures E (fun _ => True) p s fun _ _ => True :=
  fun _ => ⟨True.intro, fun _ => True.intro⟩

/-- Two guarantees of one program hold together. -/
theorem and {p : Program Answer α} {Q Q' : α → σ → Prop} {C' : σ → Prop}
    (h : Ensures E C p s Q) (h' : Ensures E C' p s Q') :
    Ensures E (fun t => C t ∧ C' t) p s fun a t => Q a t ∧ Q' a t :=
  fun ω => ⟨⟨(h ω).1, (h' ω).1⟩, fun n => ⟨(h ω).2 n, (h' ω).2 n⟩⟩

/-- A sequence ensures `Q` if its first part ensures that the second one does. -/
theorem bind {p : Program Answer α} {f : α → Program Answer β} {Q : β → σ → Prop}
    (h : Ensures E C p s fun a t => Ensures E C (f a) t Q) : Ensures E C (p >>= f) s Q := by
  induction p generalizing s with
  | done a => exact fun ω => (h ω).1 ω
  | call op next ih =>
    rw [Program.call_bind]
    intro ω
    exact call ((h ω).2 0) (fun f => ih _ (h.of_call f)) ω

/-- A sequence, from a guarantee `R` of its first part. -/
theorem seq {p : Program Answer α} {f : α → Program Answer β} {R : α → σ → Prop}
    {Q : β → σ → Prop} (h : Ensures E C p s R) (hf : ∀ a t, R a t → Ensures E C (f a) t Q) :
    Ensures E C (p >>= f) s Q :=
  bind (h.mono (fun _ ht => ht) hf)

/-- A loop over a list keeps an invariant that each of its steps keeps. -/
theorem foldlM {l : List β} {step : α → β → Program Answer α} {I : α → σ → Prop} {a : α}
    (hI : I a s) (hC : ∀ a t, I a t → C t)
    (h : ∀ a t, ∀ b ∈ l, I a t → Ensures E C (step a b) t I) :
    Ensures E C (l.foldlM step a) s I := by
  induction l generalizing a s with
  | nil => exact done (hC a s hI) hI
  | cons b l ih =>
    rw [List.foldlM_cons]
    refine seq (h a s b (by simp) hI) fun a' t hI' => ih hI' fun a t c hc => ?_
    exact h a t c (by simp [hc])

/-- A restricted environment ensures what the full one does. -/
theorem restrict [Inhabited φ] {p : Program Answer α} {Q : α → σ → Prop}
    (h : Ensures E C p s Q) (g : Op → ψ → φ) : Ensures (E.restrict g) C p s Q := by
  induction p generalizing s with
  | done a => exact fun _ => h fun _ => default
  | call op next ih =>
    have hhere : C s := h.here default
    exact call hhere fun f => ih _ (h.of_call (g op f))

end Ensures

end Rules

end Foundation
