import SeedMg24.Foundation.Runs
import SeedMg24.Model.FactoryReset

/-!
# Reset challenges over time

The calls `prepare`, `confirm` and `cancel` of the factory reset controller, one after the other,
with a clock that is the time in milliseconds reduced modulo `2 ^ 32`.  A confirmation that passes
its checks is for the one challenge that is outstanding; it is in time unless it comes so late that
the signed difference of the clock readings has turned negative again.
-/

set_option autoImplicit false

namespace SeedMg24.Analysis

open Foundation Foundation.Runs Model

/-! ## The calls -/

/-- A challenge that was handed out. -/
structure IssuedChallenge where
  scope : ResetScope
  hardwareId : Text
  operationId : Text
  challenge : Text
  ttl : UInt32
  issuedAt : ℕ
deriving DecidableEq, Repr

/-- Whether a challenge is the one a confirmation names. -/
def IssuedChallenge.isNamed (p : IssuedChallenge) (scope : ResetScope)
    (hardwareId operationId challenge : Text) : Bool :=
  p.scope = scope && p.hardwareId = hardwareId && p.operationId = operationId &&
    p.challenge = challenge

/-- The moment a challenge expires at. -/
def IssuedChallenge.expiresAt (p : IssuedChallenge) : ℕ := p.issuedAt + p.ttl.toNat

/-- A call of the controller; the storage meets a fault at every operation of a reset. -/
inductive ResetCall where
  | prepare (scope : ResetScope) (hardwareId expectedHardwareId operationId challenge : Text)
      (ttl : UInt32)
  | confirm (scope : ResetScope) (expectedHardwareId operationId challenge : Text)
      (faults : ℕ → BackendFault)
  | cancel

/-- The controller and the storage, the true time, and the challenges that are handed out and were
neither cancelled nor consumed since. -/
structure ResetSession where
  controller : FactoryResetController := {}
  nvm : Nvm
  time : ℕ
  outstanding : List IssuedChallenge := []

namespace ResetSession

/-- What the node's clock shows at a time. -/
def clock (time : ℕ) : UInt32 := UInt32.ofNat time

/-- Whether a confirmation passes the checks of the controller at a time.
SOURCE: factory_reset.cpp:71-75 -/
def passes (s : ResetSession) (scope : ResetScope)
    (expectedHardwareId operationId challenge : Text) (time : ℕ) : Bool :=
  s.controller.challenge.pending && FactoryResetController.confirmable s.controller.challenge scope
    expectedHardwareId operationId challenge (clock time)

/-- One call, some milliseconds after the call before. -/
def next (s : ResetSession) (e : ℕ × ResetCall) : ResetSession :=
  let time := s.time + e.1
  match e.2 with
  | .prepare scope hardwareId expectedHardwareId operationId challenge ttl =>
    match s.controller.prepare scope hardwareId expectedHardwareId operationId challenge (clock time)
        ttl with
    | (.ok, controller) => { s with
        controller := controller
        time := time
        outstanding := s.outstanding ++ [⟨scope, hardwareId, operationId, challenge, ttl, time⟩] }
    | (_, controller) => { s with controller := controller, time := time }
  | .confirm scope expectedHardwareId operationId challenge faults =>
    let after := (s.controller.confirm scope expectedHardwareId operationId challenge
      (clock time)).run backend s.nvm faults
    { controller := after.value.2, nvm := after.state, time := time, outstanding := [] }
  | .cancel => { s with controller := s.controller.cancel, time := time, outstanding := [] }

end ResetSession

open ResetSession

/-- A confirmation that passes is for exactly one challenge that is outstanding, and in time. -/
def Authorised (s : ResetSession) : ℕ × ResetCall → Prop
  | (elapsed, .confirm scope hardwareId operationId challenge _) =>
    s.passes scope hardwareId operationId challenge (s.time + elapsed) → ∃ p,
      s.outstanding.filter (·.isNamed scope hardwareId operationId challenge) = [p] ∧
        s.time + elapsed < p.expiresAt
  | _ => True

/-- A confirmation that names an outstanding challenge comes before it expires, or at most so late
that the clock readings still show that it has expired: for `2 ^ 31` milliseconds after that, and
then in every other span of this length. -/
def Timely (s : ResetSession) : ℕ × ResetCall → Prop
  | (elapsed, .confirm scope hardwareId operationId challenge _) => ∀ p ∈ s.outstanding,
      p.isNamed scope hardwareId operationId challenge →
        (s.time + elapsed - p.expiresAt) % 2 ^ 32 < 2 ^ 31
  | _ => True

/-! ## The clock -/

/-- The signed difference of two clock readings is negative before the moment, and then again in
every other span of `2 ^ 31` milliseconds. -/
theorem clock_before_iff {time issuedAt : ℕ} {ttl : UInt32} (hissued : issuedAt ≤ time)
    (httl : ttl.toNat ≤ 300000) :
    ¬ clock time - (clock issuedAt + ttl) < 0x80000000 ↔
      time < issuedAt + ttl.toNat ∨ 2 ^ 31 ≤ (time - (issuedAt + ttl.toNat)) % 2 ^ 32 := by
  have htime : (clock time).toNat = time % 2 ^ 32 := UInt32.toNat_ofNat'
  have hissuedAt : (clock issuedAt).toNat = issuedAt % 2 ^ 32 := UInt32.toNat_ofNat'
  rw [UInt32.lt_iff_toNat_lt, UInt32.toNat_sub, UInt32.toNat_add, htime, hissuedAt,
    show (0x80000000 : UInt32).toNat = 2 ^ 31 from rfl]
  omega

/-! ## The outstanding challenge -/

/-- A challenge is outstanding exactly while the controller holds it. -/
structure HoldsOutstanding (s : ResetSession) : Prop where
  idle : s.controller.challenge.pending = false → s.outstanding = []
  pending : s.controller.challenge.pending = true → ∃ p, s.outstanding = [p] ∧
    s.controller.challenge.scope = some p.scope ∧
    s.controller.challenge.hardwareId = p.hardwareId ∧
    s.controller.challenge.operationId = p.operationId ∧
    s.controller.challenge.challenge = p.challenge ∧
    s.controller.challenge.expiresAtMs = clock p.issuedAt + p.ttl ∧
    p.issuedAt ≤ s.time ∧ p.ttl.toNat ≤ 300000

/-- A confirmation that does not pass is an invalid argument, and touches nothing stored. -/
theorem run_confirm_of_not_passes {s : ResetSession} {scope : ResetScope}
    {expectedHardwareId operationId challenge : Text} {time : ℕ}
    (h : s.passes scope expectedHardwareId operationId challenge time = false)
    (faults : ℕ → BackendFault) :
    let after := (s.controller.confirm scope expectedHardwareId operationId challenge
      (clock time)).run backend s.nvm faults
    after.value.1.status = .invalidArgument ∧ after.state = s.nvm := by
  unfold ResetSession.passes at h
  unfold FactoryResetController.confirm
  cases hpending : s.controller.challenge.pending with
  | false => exact ⟨rfl, rfl⟩
  | true =>
    rw [hpending, Bool.true_and] at h
    simp only [h]
    exact ⟨rfl, rfl⟩

/-- After a confirmation no challenge is pending, whatever the storage does. -/
theorem pending_confirm (c : FactoryResetController) (scope : ResetScope)
    (expectedHardwareId operationId challenge : Text) (now : UInt32) (nvm : Nvm)
    (faults : ℕ → BackendFault) :
    ((c.confirm scope expectedHardwareId operationId challenge now).run backend nvm
      faults).value.2.challenge.pending = false := by
  unfold FactoryResetController.confirm
  cases hpending : c.challenge.pending with
  | false => exact hpending
  | true =>
    simp only [Bool.not_true, Bool.false_eq_true, if_false]
    split
    · rfl
    split
    · rw [Program.run_bind]
      rfl
    · rw [Program.run_bind]
      split
      · rfl
      rw [Program.run_bind]
      split
      · rfl
      rw [Program.run_bind]
      rfl

/-- What a successful `prepare` has checked, and the challenge it holds. -/
theorem prepare_eq_ok {c c' : FactoryResetController} {scope : ResetScope}
    {hardwareId expectedHardwareId operationId challenge : Text} {now ttl : UInt32}
    (h : c.prepare scope hardwareId expectedHardwareId operationId challenge now ttl = (.ok, c')) :
    c.challenge.pending = false ∧ ttl.toNat ≤ 300000 ∧
      c' = { c with challenge := {
        pending := true, scope := some scope, challenge, operationId, hardwareId,
        expiresAtMs := now + ttl } } := by
  unfold FactoryResetController.prepare at h
  split at h
  · cases h
  · rename_i hchecks
    cases h
    rw [not_or, not_or, not_or] at hchecks
    obtain ⟨-, hlong, hpending, -⟩ := hchecks
    refine ⟨by simpa using hpending, ?_, rfl⟩
    simpa [UInt32.lt_iff_toNat_lt] using hlong

/-- A `prepare` that fails changes nothing. -/
theorem prepare_of_ne_ok {c c' : FactoryResetController} {scope : ResetScope}
    {hardwareId expectedHardwareId operationId challenge : Text} {now ttl : UInt32}
    {status : StoreStatus} (hstatus : status ≠ .ok)
    (h : c.prepare scope hardwareId expectedHardwareId operationId challenge now ttl =
      (status, c')) : c' = c := by
  unfold FactoryResetController.prepare at h
  split at h
  · cases h
    rfl
  · cases h
    exact absurd rfl hstatus

/-- Every call keeps the outstanding challenge the one the controller holds. -/
theorem HoldsOutstanding.next {s : ResetSession} (h : HoldsOutstanding s) (e : ℕ × ResetCall) :
    HoldsOutstanding (s.next e) := by
  obtain ⟨elapsed, call⟩ := e
  cases call with
  | prepare scope hardwareId expectedHardwareId operationId challenge ttl =>
    unfold ResetSession.next
    dsimp only
    cases hprepare : s.controller.prepare scope hardwareId expectedHardwareId operationId challenge
        (clock (s.time + elapsed)) ttl with
    | mk status controller =>
      by_cases hstatus : status = .ok
      · subst hstatus
        obtain ⟨hidle, httl, rfl⟩ := prepare_eq_ok hprepare
        rw [h.idle hidle]
        refine ⟨(nomatch ·), fun _ => ?_⟩
        exact ⟨_, rfl, rfl, rfl, rfl, rfl, rfl, le_refl _, httl⟩
      · have hsame := prepare_of_ne_ok hstatus hprepare
        have hnext : HoldsOutstanding
            { s with controller := controller, time := s.time + elapsed } := by
          rw [hsame]
          refine ⟨h.idle, fun hpending => ?_⟩
          obtain ⟨p, hp, hscope, hhardware, hoperation, hchallenge, hexpires, hissued, httl⟩ :=
            h.pending hpending
          exact ⟨p, hp, hscope, hhardware, hoperation, hchallenge, hexpires,
            hissued.trans (Nat.le_add_right _ _), httl⟩
        split
        · rename_i hok
          cases hok
          exact absurd rfl hstatus
        · rename_i hok
          cases hok
          exact hnext
  | confirm scope expectedHardwareId operationId challenge faults =>
    have hpending := pending_confirm s.controller scope expectedHardwareId operationId challenge
      (clock (s.time + elapsed)) s.nvm faults
    refine ⟨fun _ => rfl, fun hpending' => ?_⟩
    have hfalse := hpending.symm.trans hpending'
    cases hfalse
  | cancel => exact ⟨fun _ => rfl, fun hpending => nomatch hpending⟩

/-! ## Confirmations -/

/-- A confirmation passes for a challenge that is outstanding and named, before it expires or when
the difference of the clock readings has turned negative again. -/
theorem passes_iff {s : ResetSession} (h : HoldsOutstanding s) {scope : ResetScope}
    {hardwareId operationId challenge : Text} {elapsed : ℕ} :
    s.passes scope hardwareId operationId challenge (s.time + elapsed) ↔
      ∃ p, s.outstanding = [p] ∧ p.isNamed scope hardwareId operationId challenge ∧
        (s.time + elapsed < p.expiresAt ∨
          2 ^ 31 ≤ (s.time + elapsed - p.expiresAt) % 2 ^ 32) := by
  unfold ResetSession.passes
  cases hpending : s.controller.challenge.pending with
  | false =>
    rw [h.idle hpending]
    simp
  | true =>
    obtain ⟨p, hp, hscope, hhardware, hoperation, hchallenge, hexpires, hissued, httl⟩ :=
      h.pending hpending
    have hclock := clock_before_iff (hissued.trans (Nat.le_add_right s.time elapsed)) httl
    unfold FactoryResetController.confirmable
    rw [hscope, hhardware, hoperation, hchallenge, hexpires, hp, Bool.true_and, decide_eq_true_iff,
      hclock]
    simp only [Option.some.injEq, List.cons.injEq, and_true, exists_eq_left',
      IssuedChallenge.isNamed, IssuedChallenge.expiresAt, Bool.and_eq_true, decide_eq_true_eq,
      and_assoc]

/-- A confirmation is authorised exactly when it is timely. -/
theorem authorised_iff_timely {s : ResetSession} (h : HoldsOutstanding s) (e : ℕ × ResetCall) :
    Authorised s e ↔ Timely s e := by
  obtain ⟨elapsed, call⟩ := e
  cases call with
  | prepare => exact Iff.rfl
  | cancel => exact Iff.rfl
  | confirm scope hardwareId operationId challenge faults =>
    show (_ → _) ↔ _
    rw [passes_iff h]
    cases hpending : s.controller.challenge.pending with
    | false =>
      show _ ↔ ∀ p ∈ s.outstanding, _
      rw [h.idle hpending]
      simp
    | true =>
      obtain ⟨p, hp, -⟩ := h.pending hpending
      show _ ↔ ∀ p ∈ s.outstanding, _
      rw [hp]
      simp only [List.cons.injEq, and_true, exists_eq_left', List.mem_singleton, forall_eq]
      cases hnamed : p.isNamed scope hardwareId operationId challenge with
      | false => simp
      | true =>
        have hfilter : [p].filter (·.isNamed scope hardwareId operationId challenge) = [p] := by
          simp [hnamed]
        rw [hfilter]
        simp only [List.cons.injEq, and_true, exists_eq_left', true_and, forall_const]
        omega

/-- **A reset challenge authorises one reset, once and in time, exactly as long as no confirmation
comes when the clock readings have turned**: in a run, every confirmation that passes its checks is
for exactly one challenge that is neither cancelled nor consumed and not expired, if and only if
every confirmation that names an outstanding challenge is timely. -/
theorem confirms_authorised_iff (nvm : Nvm) (time : ℕ) (calls : List (ℕ × ResetCall)) :
    Throughout ResetSession.next Authorised { nvm, time } calls ↔
      Throughout ResetSession.next Timely { nvm, time } calls := by
  have hstart : HoldsOutstanding { nvm, time } := ⟨fun _ => rfl, fun hpending => nomatch hpending⟩
  have hreached (before : List (ℕ × ResetCall)) :
      HoldsOutstanding (after ResetSession.next { nvm, time } before) :=
    after_invariant _ hstart (fun s e hs => hs.next e) before
  constructor
  · intro h before e hbefore
    exact (authorised_iff_timely (hreached before) e).mp (h before e hbefore)
  · intro h before e hbefore
    exact (authorised_iff_timely (hreached before) e).mpr (h before e hbefore)

/-- A challenge for one second. -/
def exampleChallenge : IssuedChallenge where
  scope := .applicationFactory
  hardwareId := "0x0123456789ABCDEF".toList
  operationId := List.replicate 32 'a'
  challenge := List.replicate 32 'b'
  ttl := 1000
  issuedAt := 0

/-- **A confirmation 25 days after its challenge passes.** -/
theorem confirm_passes_late :
    ¬ ∀ nvm time calls, Throughout ResetSession.next Authorised { nvm, time } calls := by
  intro h
  let p := exampleChallenge
  let prepare : ℕ × ResetCall :=
    (0, .prepare p.scope p.hardwareId p.hardwareId p.operationId p.challenge p.ttl)
  let confirm : ℕ × ResetCall :=
    (2147484648, .confirm p.scope p.hardwareId p.operationId p.challenge fun _ => .none)
  let s := after ResetSession.next { nvm := Nvm.empty, time := 0 } [prepare]
  have hconfirm : Authorised s confirm :=
    h Nvm.empty 0 [prepare, confirm] [prepare] confirm (List.prefix_refl _)
  have htime : s.time = 0 := rfl
  have hissued : s.outstanding.filter
      (·.isNamed p.scope p.hardwareId p.operationId p.challenge) = [p] := by decide
  have hpasses : s.passes p.scope p.hardwareId p.operationId p.challenge (s.time + 2147484648) =
      true := by
    rw [htime]
    decide
  obtain ⟨q, hq, hlate⟩ := hconfirm hpasses
  rw [hissued] at hq
  cases hq
  have hexpires : p.expiresAt = 1000 := rfl
  omega

end SeedMg24.Analysis
