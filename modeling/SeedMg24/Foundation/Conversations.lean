import SeedMg24.Foundation.Program

/-!
# Conversations

What a program does where nothing is known of its environment.  A conversation is a list of calls
with their answers: `Program.Answered` says that a program, answered so, makes just these calls and
returns a value.  A run in any environment is such a conversation, so what holds of all conversations
holds whatever the environment does.  A program that may raise is one that returns an `Except`.
-/

set_option autoImplicit false

namespace Foundation

/-- A call with its answer. -/
abbrev Event {Op : Type} (Answer : Op → Type) : Type := Sigma Answer

namespace Program

variable {Op : Type} {Answer : Op → Type} {σ φ ε α β : Type}

/-- Answered as in a list of events, a program makes these calls and returns a value. -/
def Answered : Program Answer α → List (Event Answer) → α → Prop
  | .done a, events, b => events = [] ∧ a = b
  | .call op next, events, b =>
    ∃ answer rest, events = ⟨op, answer⟩ :: rest ∧ (next answer).Answered rest b

@[simp] theorem answered_done {a b : α} {events : List (Event Answer)} :
    (Program.done a).Answered events b ↔ events = [] ∧ a = b := Iff.rfl

theorem answered_call {op : Op} {next : Answer op → Program Answer α} {events : List (Event Answer)}
    {b : α} : (Program.call op next).Answered events b ↔
      ∃ answer rest, events = ⟨op, answer⟩ :: rest ∧ (next answer).Answered rest b := Iff.rfl

/-- The conversation of one call. -/
theorem answered_perform {op : Op} {events : List (Event Answer)} {answer : Answer op}
    (h : (perform op).Answered events answer) : events = [⟨op, answer⟩] := by
  obtain ⟨other, rest, rfl, rfl, rfl⟩ := answered_call.mp h
  rfl

/-- The conversation of a sequence is that of its first part, and then that of the second. -/
theorem answered_bind {p : Program Answer α} {f : α → Program Answer β}
    {events : List (Event Answer)} {b : β} (h : (p >>= f).Answered events b) :
    ∃ a front back, events = front ++ back ∧ p.Answered front a ∧ (f a).Answered back b := by
  induction p generalizing events with
  | done a => exact ⟨a, [], events, rfl, ⟨rfl, rfl⟩, h⟩
  | call op next ih =>
    obtain ⟨answer, rest, rfl, hrest⟩ := answered_call.mp h
    obtain ⟨a, front, back, rfl, hfront, hback⟩ := ih answer hrest
    exact ⟨a, ⟨op, answer⟩ :: front, back, rfl, ⟨answer, front, rfl, hfront⟩, hback⟩

/-- A conversation with the first part goes on with one with the second. -/
theorem Answered.bind {p : Program Answer α} {f : α → Program Answer β}
    {front back : List (Event Answer)} {a : α} {b : β} (hp : p.Answered front a)
    (hf : (f a).Answered back b) : (p >>= f).Answered (front ++ back) b := by
  induction p generalizing front with
  | done c =>
    obtain ⟨rfl, rfl⟩ := hp
    exact hf
  | call op next ih =>
    obtain ⟨answer, rest, rfl, hrest⟩ := answered_call.mp hp
    exact ⟨answer, rest ++ back, rfl, ih answer hrest⟩

/-! ## What a program calls at all -/

/-- Whatever it is answered, a program makes only good calls. -/
def OnlyCalls (good : Op → Prop) : Program Answer α → Prop
  | .done _ => True
  | .call op next => good op ∧ ∀ answer, (next answer).OnlyCalls good

section OnlyCalls

variable {good : Op → Prop}

theorem OnlyCalls.forall_events {p : Program Answer α} (h : p.OnlyCalls good)
    {events : List (Event Answer)} {a : α} (hanswered : p.Answered events a) :
    ∀ e ∈ events, good e.1 := by
  induction p generalizing events with
  | done b =>
    obtain ⟨rfl, -⟩ := hanswered
    exact fun e he => absurd he List.not_mem_nil
  | call op next ih =>
    obtain ⟨answer, rest, rfl, hrest⟩ := answered_call.mp hanswered
    rw [List.forall_mem_cons]
    exact ⟨h.1, ih answer (h.2 answer) hrest⟩

theorem OnlyCalls.bind {p : Program Answer α} {f : α → Program Answer β} (h : p.OnlyCalls good)
    (hf : ∀ a, (f a).OnlyCalls good) : (p >>= f).OnlyCalls good := by
  induction p with
  | done a => exact hf a
  | call op next ih => exact ⟨h.1, fun answer => ih answer (h.2 answer)⟩

theorem OnlyCalls.mono {other : Op → Prop} (hgood : ∀ op, good op → other op) {p : Program Answer α}
    (h : p.OnlyCalls good) : p.OnlyCalls other := by
  induction p with
  | done a => trivial
  | call op next ih => exact ⟨hgood op h.1, fun answer => ih answer (h.2 answer)⟩

end OnlyCalls

/-! ## Programs that may raise -/

/-- A sequence of which the first part may raise makes only good calls if its parts do. -/
theorem OnlyCalls.bind_except {good : Op → Prop} {x : ExceptT ε (Program Answer) α}
    {f : α → ExceptT ε (Program Answer) β} (h : x.run.OnlyCalls good)
    (hf : ∀ a, (f a).run.OnlyCalls good) : (x >>= f).run.OnlyCalls good := by
  refine OnlyCalls.bind h fun r => ?_
  cases r with
  | error e => trivial
  | ok a => exact hf a

/-- A sequence of which the first part may raise. -/
theorem answered_bind_except {x : ExceptT ε (Program Answer) α} {f : α → ExceptT ε (Program Answer) β}
    {events : List (Event Answer)} {r : Except ε β} (h : (x >>= f).run.Answered events r) :
    (∃ e, r = .error e ∧ x.run.Answered events (.error e)) ∨
      ∃ a front back, events = front ++ back ∧ x.run.Answered front (.ok a) ∧
        (f a).run.Answered back r := by
  obtain ⟨first, front, back, rfl, hfront, hback⟩ := answered_bind h
  cases first with
  | error e =>
    obtain ⟨rfl, rfl⟩ := hback
    exact .inl ⟨e, rfl, by rwa [List.append_nil]⟩
  | ok a => exact .inr ⟨a, front, back, rfl, hfront, hback⟩

/-- A conversation in which the first part does not raise. -/
theorem Answered.bind_except {x : ExceptT ε (Program Answer) α} {f : α → ExceptT ε (Program Answer) β}
    {front back : List (Event Answer)} {a : α} {r : Except ε β} (hx : x.run.Answered front (.ok a))
    (hf : (f a).run.Answered back r) : (x >>= f).run.Answered (front ++ back) r :=
  Answered.bind hx hf

/-- A value that is returned at once. -/
theorem answered_pure_except {a : α} {events : List (Event Answer)} {r : Except ε α}
    (h : (pure a : ExceptT ε (Program Answer) α).run.Answered events r) : events = [] ∧ r = .ok a :=
  ⟨h.1, h.2.symm⟩

/-- What is raised at once. -/
theorem answered_throw {e : ε} {events : List (Event Answer)} {r : Except ε α}
    (h : (throw e : ExceptT ε (Program Answer) α).run.Answered events r) :
    events = [] ∧ r = .error e :=
  ⟨h.1, h.2.symm⟩

/-! ## Runs are conversations -/

/-- The calls of a run with their answers. -/
def events (E : Environment Answer σ φ) : Program Answer α → σ → (ℕ → φ) → List (Event Answer)
  | .done _, _, _ => []
  | .call op next, s, ω =>
    ⟨op, (E.step s op (ω 0)).1⟩ ::
      (next (E.step s op (ω 0)).1).events E (E.step s op (ω 0)).2 (later ω)

/-- A run in an environment is a conversation. -/
theorem answered_events (E : Environment Answer σ φ) (p : Program Answer α) (s : σ) (ω : ℕ → φ) :
    p.Answered (p.events E s ω) (p.run E s ω).value := by
  induction p generalizing s ω with
  | done a => exact ⟨rfl, rfl⟩
  | call op next ih => exact ⟨_, _, rfl, ih _ _ _⟩

/-- Its calls are those of the run. -/
theorem map_fst_events (E : Environment Answer σ φ) (p : Program Answer α) (s : σ) (ω : ℕ → φ) :
    (p.events E s ω).map Sigma.fst = p.trace E s ω := by
  induction p generalizing s ω with
  | done a => rfl
  | call op next ih => rw [events, trace, List.map_cons, ih]

end Program

end Foundation
