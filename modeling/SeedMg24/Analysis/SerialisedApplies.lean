import SeedMg24.Analysis.ReconcileBeforeRetry

/-!
# One apply at a time

The calls of `apply` for a node take turns at its lock, and the one that finds an installation ready
makes it not ready before it calls the configurator.  So two calls of the configurator for a node
never overlap, and an installation is written to at most once for each time it was made ready.
-/

set_option autoImplicit false

namespace SeedMg24.Analysis

open Foundation Foundation.Runs Model Model.ProvisioningService

variable {κ : Type}

/-! ## Locks -/

/-- What an event does to the tasks and the locks of the nodes. -/
inductive TaskMove (s s' : ProvisioningService κ) : Prop where
  | stays (tasks : s'.tasks = s.tasks) (locks : s'.nodeLocks = s.nodeLocks)
  /-- a task without a lock starts -/
  | starts (t : ProvisioningTask κ) (free : t.nodeLock = none) (tasks : s'.tasks = s.tasks ++ [t])
      (locks : s'.nodeLocks = s.nodeLocks)
  /-- a task moves on and keeps its lock, if it has one -/
  | moves (k : ℕ) (t t' : ProvisioningTask κ) (task : s.tasks[k]? = some t)
      (same : t'.nodeLock = t.nodeLock) (tasks : s'.tasks = s.tasks.set k t')
      (locks : s'.nodeLocks = s.nodeLocks)
  /-- a task takes a lock that is free -/
  | takes (k : ℕ) (t' : ProvisioningTask κ) (nodeId : Text) (taken : t'.nodeLock = some nodeId)
      (free : nodeId ∉ s.nodeLocks) (tasks : s'.tasks = s.tasks.set k t')
      (locks : s'.nodeLocks = nodeId :: s.nodeLocks)
  /-- a task ends, and its lock is released -/
  | ends (k : ℕ) (t : ProvisioningTask κ) (task : s.tasks[k]? = some t)
      (tasks : s'.tasks = s.tasks.set k .done)
      (locks : s'.nodeLocks = s.nodeLocks.diff t.nodeLock.toList)

/-- A task ends after what does not touch the tasks. -/
theorem taskMove_finish {s s' : ProvisioningService κ} {k : ℕ} {t : ProvisioningTask κ}
    (htask : s.tasks[k]? = some t) (htasks : s'.tasks = s.tasks)
    (hlocks : s'.nodeLocks = s.nodeLocks) : TaskMove s (s'.finish k) := by
  have hsame : s'.tasks[k]? = some t := by rw [htasks, htask]
  apply TaskMove.ends k t htask
  · unfold finish
    rw [hsame]
    dsimp only
    rw [htasks]
  · unfold finish
    rw [hsame]
    dsimp only
    rw [hlocks]

/-- A verification has the locks it is given.
SOURCE: provisioning_service.py:208-217 -/
theorem nodeLock_of_beginVerify {s : ProvisioningService κ} {id : ℕ}
    {locks : Option (Text × Text)} {t : ProvisioningTask κ}
    (h : s.beginVerify id locks = some t) : t.nodeLock = locks.map Prod.fst := by
  unfold beginVerify at h
  obtain ⟨row, -, hrow⟩ := Option.bind_eq_some_iff.mp h
  obtain ⟨transactionId, -, rfl⟩ := Option.map_eq_some_iff.mp hrow
  rfl

section

variable [DecidableEq κ]

/-- **Every event moves one task at most.**
SOURCE: provisioning_service.py:130-220 -/
theorem taskMove_next (s : ProvisioningService κ) (e : ProvisioningEvent κ) :
    TaskMove s (s.next e) := by
  cases e with
  | create nodeId interfaceId version configuration accepted =>
    dsimp only [next]
    unfold create
    split
    · exact .stays rfl rfl
    split <;> exact .stays rfl rfl
  | update id configuration accepted =>
    dsimp only [next]
    unfold update
    split
    · exact .stays rfl rfl
    split <;> exact .stays rfl rfl
  | validate id failure =>
    dsimp only [next]
    unfold validate
    split
    · exact .stays rfl rfl
    split <;> exact .stays rfl rfl
  | upgradeProfile id version accepted =>
    dsimp only [next]
    unfold upgradeProfile
    split
    · exact .stays rfl rfl
    split
    · exact .stays rfl rfl
    split <;> exact .stays rfl rfl
  | removeDevice nodeId =>
    dsimp only [next]
    unfold removeDevice
    split
    · exact .stays rfl rfl
    split <;> exact .stays rfl rfl
  | restoreDevice nodeId identified =>
    dsimp only [next]
    unfold restoreDevice
    split
    · exact .stays rfl rfl
    split
    · exact .stays rfl rfl
    split <;> exact .stays rfl rfl
  | reregister nodeId identified =>
    dsimp only [next]
    unfold reregister restoreDevice
    split
    · split
      · exact .stays rfl rfl
      split
      · exact .stays rfl rfl
      split <;> exact .stays rfl rfl
    · exact .stays rfl rfl
  | disable | archive | reportCompatibility => exact .stays rfl rfl
  | apply id =>
    dsimp only [next]
    unfold ProvisioningService.apply
    split
    · exact .stays rfl rfl
    split
    · exact .stays rfl rfl
    · exact .starts _ rfl rfl rfl
  | verify id =>
    dsimp only [next]
    unfold ProvisioningService.verify
    split
    · exact .stays rfl rfl
    · rename_i t hbegin
      exact .starts t (nodeLock_of_beginVerify hbegin) rfl rfl
  | acquireNode task =>
    dsimp only [next]
    unfold acquireNode
    split
    · rename_i id nodeId interfaceId htask
      split
      · exact .stays rfl rfl
      · rename_i hfree
        exact .takes task _ nodeId rfl hfree rfl rfl
    · exact .stays rfl rfl
  | acquireInterface task =>
    dsimp only [next]
    unfold acquireInterface
    split
    · rename_i id nodeId interfaceId htask
      split
      · exact .stays rfl rfl
      split
      · exact taskMove_finish htask rfl rfl
      · rename_i requested hcheck
        exact .moves task _ (.applying id nodeId interfaceId s.attempts.length requested) htask
          rfl rfl rfl
    · exact .stays rfl rfl
  | applyReturns task applied =>
    dsimp only [next]
    unfold applyReturns
    split
    · rename_i id nodeId interfaceId transactionId requested htask
      dsimp only
      split
      · exact taskMove_finish htask rfl rfl
      · rename_i t hbegin
        exact .moves task _ t htask (nodeLock_of_beginVerify hbegin) rfl rfl
    · exact .stays rfl rfl
  | applyIsLost task timedOut =>
    dsimp only [next]
    unfold applyIsLost
    split
    · rename_i htask
      exact taskMove_finish htask rfl rfl
    · exact .stays rfl rfl
  | applyRejects task error =>
    dsimp only [next]
    unfold applyRejects
    split
    · rename_i htask
      exact taskMove_finish htask rfl rfl
    · exact .stays rfl rfl
  | readBackFails task error =>
    dsimp only [next]
    unfold readBackFails
    split
    · rename_i htask
      exact taskMove_finish htask rfl rfl
    · exact .stays rfl rfl
  | readBackReturns task value recentReading =>
    dsimp only [next]
    unfold readBackReturns
    split
    · rename_i htask
      dsimp only
      split <;> exact taskMove_finish htask rfl rfl
    · exact .stays rfl rfl
  | interrupt task =>
    dsimp only [next]
    cases htask : s.tasks[task]? with
    | none =>
      unfold finish
      rw [htask]
      exact .stays rfl rfl
    | some t => exact taskMove_finish htask rfl rfl

end

/-- A task holds the lock of a node. -/
def Holds (s : ProvisioningService κ) (k : ℕ) (nodeId : Text) : Prop :=
  ∃ t, s.tasks[k]? = some t ∧ t.nodeLock = some nodeId

/-- A lock that is held is taken, and no two tasks hold one lock. -/
structure LockInvariant (s : ProvisioningService κ) : Prop where
  taken : ∀ k nodeId, Holds s k nodeId → nodeId ∈ s.nodeLocks
  once : ∀ j k nodeId, Holds s j nodeId → Holds s k nodeId → j = k

/-- Who holds a lock after one task moved. -/
theorem holds_set {s s' : ProvisioningService κ} {k : ℕ} {t' : ProvisioningTask κ}
    (htasks : s'.tasks = s.tasks.set k t') {j : ℕ} {nodeId : Text} (h : Holds s' j nodeId) :
    (j = k ∧ t'.nodeLock = some nodeId) ∨ (j ≠ k ∧ Holds s j nodeId) := by
  obtain ⟨t, htask, hlock⟩ := h
  rw [htasks, List.getElem?_set] at htask
  split at htask
  · rename_i hkj
    split at htask
    · cases htask
      exact .inl ⟨hkj.symm, hlock⟩
    · cases htask
  · rename_i hkj
    exact .inr ⟨fun h => hkj h.symm, t, htask, hlock⟩

/-- Nothing changes if no lock is taken or released, and nobody holds a new one. -/
theorem LockInvariant.of_holds {s s' : ProvisioningService κ} (h : LockInvariant s)
    (hlocks : s'.nodeLocks = s.nodeLocks) (hsame : ∀ k nodeId, Holds s' k nodeId → Holds s k nodeId) :
    LockInvariant s' where
  taken k nodeId hholds := by
    rw [hlocks]
    exact h.taken k nodeId (hsame k nodeId hholds)
  once j k nodeId hj hk := h.once j k nodeId (hsame j nodeId hj) (hsame k nodeId hk)

/-- **The locks are kept by every move.** -/
theorem lockInvariant_move {s s' : ProvisioningService κ} (h : LockInvariant s)
    (hmove : TaskMove s s') : LockInvariant s' := by
  cases hmove with
  | stays htasks hlocks =>
    refine h.of_holds hlocks fun k nodeId hholds => ?_
    unfold Holds at hholds ⊢
    rwa [htasks] at hholds
  | starts t hfree htasks hlocks =>
    refine h.of_holds hlocks fun k nodeId hholds => ?_
    obtain ⟨u, htask, hlock⟩ := hholds
    rw [htasks, List.getElem?_append] at htask
    split at htask
    · exact ⟨u, htask, hlock⟩
    · rw [List.getElem?_singleton] at htask
      split at htask
      · cases htask
        rw [hfree] at hlock
        cases hlock
      · cases htask
  | moves i t t' htask hlock htasks hlocks =>
    refine h.of_holds hlocks fun k nodeId hholds => ?_
    rcases holds_set htasks hholds with ⟨rfl, ht'⟩ | ⟨-, hbefore⟩
    · exact ⟨t, htask, hlock ▸ ht'⟩
    · exact hbefore
  | takes i t' taken hlock hfree htasks hlocks =>
    constructor
    · intro k nodeId hholds
      rw [hlocks]
      rcases holds_set htasks hholds with ⟨-, ht'⟩ | ⟨-, hbefore⟩
      · rw [hlock] at ht'
        cases ht'
        exact List.mem_cons_self
      · exact List.mem_cons_of_mem _ (h.taken k nodeId hbefore)
    · intro j k nodeId hj hk
      -- nobody held the lock that was free
      have hnone {m : ℕ} (hm : Holds s m nodeId) (ht' : t'.nodeLock = some nodeId) : False := by
        rw [hlock] at ht'
        cases ht'
        exact hfree (h.taken m _ hm)
      rcases holds_set htasks hj with ⟨hji, hj'⟩ | ⟨-, hj'⟩
      · rcases holds_set htasks hk with ⟨hki, -⟩ | ⟨-, hk'⟩
        · rw [hji, hki]
        · exact (hnone hk' hj').elim
      · rcases holds_set htasks hk with ⟨-, hk'⟩ | ⟨-, hk'⟩
        · exact (hnone hj' hk').elim
        · exact h.once j k nodeId hj' hk'
  | ends i t htask htasks hlocks =>
    have hsame {k : ℕ} {nodeId : Text} (hholds : Holds s' k nodeId) :
        k ≠ i ∧ Holds s k nodeId := by
      rcases holds_set htasks hholds with ⟨-, hdone⟩ | hbefore
      · cases hdone
      · exact hbefore
    constructor
    · intro k nodeId hholds
      obtain ⟨hne, hbefore⟩ := hsame hholds
      have hmem := h.taken k nodeId hbefore
      rw [hlocks]
      cases hlock : t.nodeLock with
      | none => exact hmem
      | some released =>
        have hother : nodeId ≠ released := by
          rintro rfl
          exact hne (h.once k i nodeId hbefore ⟨t, htask, hlock⟩)
        rw [Option.toList_some, List.diff_cons, List.diff_nil]
        exact (List.mem_erase_of_ne hother).mpr hmem
    · intro j k nodeId hj hk
      exact h.once j k nodeId (hsame hj).2 (hsame hk).2

/-- A task awaits the configurator's `apply` for a node. -/
def Applies (s : ProvisioningService κ) (k : ℕ) (nodeId : Text) : Prop :=
  ∃ id interfaceId transactionId requested,
    s.tasks[k]? = some (ProvisioningTask.applying id nodeId interfaceId transactionId requested)

/-- Two calls of the configurator's `apply` for one node are never under way together. -/
def NeverOverlap (s : ProvisioningService κ) : Prop :=
  ∀ j k nodeId, Applies s j nodeId → Applies s k nodeId → j = k

theorem Applies.holds {s : ProvisioningService κ} {k : ℕ} {nodeId : Text}
    (h : Applies s k nodeId) : Holds s k nodeId := by
  obtain ⟨id, interfaceId, transactionId, requested, htask⟩ := h
  exact ⟨_, htask, rfl⟩

theorem LockInvariant.neverOverlap {s : ProvisioningService κ} (h : LockInvariant s) :
    NeverOverlap s := by
  intro j k nodeId hj hk
  exact h.once j k nodeId hj.holds hk.holds

/-! ## Writes -/

/-- How often the configurator's `apply` was called for an installation. -/
def writes (i : ℕ) (calls : List (ConfiguratorCall κ)) : ℕ :=
  calls.countP fun call => match call with
    | .applies id _ => decide (id = i)
    | _ => false

/-- Whether an installation is ready to be applied, as a number. -/
def readiness (s : ProvisioningService κ) (i : ℕ) : ℕ :=
  if (s.get i).any fun row => row.provisioningState = .readyToApply then 1 else 0

/-- Whether an event asks for an installation to be applied anew. -/
def RequestsAnew (i : ℕ) : ProvisioningEvent κ → Prop
  | .validate id _ => id = i
  | .update id _ _ => id = i
  | .upgradeProfile id _ _ => id = i
  | _ => False

section

variable [DecidableEq κ]

/-- Only such an event makes the installation ready. -/
theorem makesReady_of_requestsAnew {s : ProvisioningService κ} {e : ProvisioningEvent κ} {i : ℕ}
    {row : Installation κ} (h : ¬ RequestsAnew i e) :
    (change s e i).makesReady row = false := by
  unfold change
  split
  · rfl
  rename_i current hcurrent
  unfold changeOf
  have honly (id : ℕ) (c : RowChange κ) (hid : id ≠ i) :
      (RowChange.onlyAt id i c).makesReady row = false := by
    rw [RowChange.onlyAt_of_ne hid]
    rfl
  have hquiet (id : ℕ) (c : RowChange κ) (hc : c.makesReady row = false) :
      (RowChange.onlyAt id i c).makesReady row = false := by
    unfold RowChange.onlyAt
    split
    · exact hc
    · rfl
  cases e with
  | update id configuration accepted =>
    dsimp only
    split
    · rfl
    · exact honly id _ h
  | validate id failure =>
    dsimp only
    split
    · rfl
    · exact honly id _ h
  | upgradeProfile id version accepted =>
    dsimp only
    split
    · rfl
    split
    · rfl
    · exact honly id _ h
  | disable id | archive id => exact hquiet id _ rfl
  | removeDevice nodeId =>
    dsimp only
    split <;> rfl
  | reregister nodeId identified =>
    dsimp only
    split <;> rfl
  | acquireInterface task =>
    dsimp only
    split
    · split
      · rfl
      · exact hquiet _ _ rfl
    · rfl
  | applyReturns | applyIsLost | applyRejects | readBackFails =>
    dsimp only
    split
    · exact hquiet _ _ rfl
    · rfl
  | readBackReturns task value recentReading =>
    dsimp only
    split
    · split
      · exact hquiet _ _ rfl
      · rfl
      · exact hquiet _ _ rfl
      · exact hquiet _ _ rfl
    · rfl
  | create | restoreDevice | reportCompatibility | apply | verify | acquireNode | interrupt => rfl

/-- A row that is ready after an event that does not ask for it was ready before. -/
theorem readiness_next {s : ProvisioningService κ} {e : ProvisioningEvent κ} {i : ℕ}
    (h : ¬ RequestsAnew i e) : readiness (s.next e) i ≤ readiness s i := by
  unfold readiness
  cases hrow : s.get i with
  | none =>
    rw [get_next_new hrow]
    cases hcreated : created s e i with
    | none => simp
    | some row' => simp [(created_draft hcreated).2]
  | some row =>
    rw [get_next hrow]
    simp only [Option.any_some, decide_eq_true_eq]
    by_cases hready : ((change s e i).on row).provisioningState = .readyToApply
    · rcases RowChange.ready_on hready with ⟨-, hwas⟩ | hmade
      · rw [if_pos hready, if_pos hwas]
      · rw [makesReady_of_requestsAnew h] at hmade
        cases hmade
    · rw [if_neg hready]
      exact Nat.zero_le _

/-- **A write uses up the readiness of its installation.** -/
theorem writes_next {s : ProvisioningService κ} {e : ProvisioningEvent κ} {i : ℕ}
    (h : ¬ RequestsAnew i e) :
    writes i (s.next e).calls + readiness (s.next e) i ≤ writes i s.calls + readiness s i := by
  have hsum : writes i (s.next e).calls = writes i s.calls + writes i (emitted s e) := by
    unfold writes
    rw [calls_next, List.countP_append]
  rw [hsum]
  by_cases hwrite : ∃ requested, .applies i requested ∈ emitted s e
  · obtain ⟨requested, hmem⟩ := hwrite
    obtain ⟨hone, row, hrow, hready, hchange⟩ := change_of_applies hmem
    have hwas : readiness s i = 1 := by
      unfold readiness
      simp [hrow, hready]
    have hnow : readiness (s.next e) i = 0 := by
      unfold readiness
      rw [get_next hrow, hchange]
      rfl
    have hcount : writes i (emitted s e) = 1 := by
      rw [hone]
      simp [writes]
    omega
  · have hnone : writes i (emitted s e) = 0 := by
      unfold writes
      rw [List.countP_eq_zero]
      intro call hcall
      cases call with
      | applies id requested =>
        have hid : id ≠ i := fun heq => hwrite ⟨requested, heq ▸ hcall⟩
        simp [hid]
      | applied | lost | readBack => simp
    have := readiness_next (s := s) h
    omega

/-- A run in which nothing is asked for anew writes at most once.  By induction on the run, with the
readiness as what is left to write. -/
theorem writes_after {s : ProvisioningService κ} {i : ℕ} {events : List (ProvisioningEvent κ)}
    (h : ∀ e ∈ events, ¬ RequestsAnew i e) :
    writes i (after next s events).calls ≤ writes i s.calls + readiness s i := by
  induction events generalizing s with
  | nil => exact Nat.le_add_right _ _
  | cons e events ih =>
    have hfirst := writes_next (s := s) (h e (by simp))
    have hrest := ih (s := s.next e) fun f hf => h f (List.mem_cons_of_mem _ hf)
    rw [after_cons]
    omega

/-- **Applies on one node are serialised, and a validated request is written at most once.**  For
every content of the database and every run of a service that has just been started: two calls of
the configurator for one node never overlap, and after any validation of an installation its
configuration is written at most once, as long as it is not validated, updated or upgraded again.
SOURCE: provisioning_service.py:130-208 -/
theorem applies_serialised (devices : List RegisteredDevice)
    (installations : List (Installation κ)) (attempts : List (ProvisioningAttempt κ)) :
    (∀ events, NeverOverlap (after next
      { devices := devices, installations := installations, attempts := attempts } events)) ∧
    ∀ events i failure later, (∀ e ∈ later, ¬ RequestsAnew i e) →
      let validated := after next
        { devices := devices, installations := installations, attempts := attempts }
        (events ++ [.validate i failure])
      writes i (after next validated later).calls ≤ writes i validated.calls + 1 := by
  constructor
  · intro events
    have hlocks : LockInvariant (after next
        { devices := devices, installations := installations, attempts := attempts } events) := by
      apply after_invariant next
      · constructor
        · rintro k nodeId ⟨t, htask, -⟩
          simp at htask
        · rintro j k nodeId ⟨t, htask, -⟩
          simp at htask
      · intro s e hs
        exact lockInvariant_move hs (taskMove_next s e)
    exact hlocks.neverOverlap
  · intro events i failure later hlater validated
    have hready : readiness validated i ≤ 1 := by
      unfold readiness
      split <;> omega
    have := writes_after (s := validated) hlater
    omega

end

/-- Two calls of `apply` at once after a validation. -/
theorem applies_serialised_twoCalls :
    let validated := after next { devices := [knownNode], installations := [], attempts := [] }
      ([.create "MG24-0001".toList "MIC".toList "1.0.0".toList defaultConfiguration true] ++
        [.validate 0 none])
    writes 0 (after next validated [.apply 0, .apply 0, .acquireNode 0, .acquireNode 1,
        .acquireInterface 0, .applyReturns 0 defaultConfiguration,
        .readBackReturns 0 defaultConfiguration true, .acquireNode 1, .acquireInterface 1]).calls ≤
      writes 0 validated.calls + 1 :=
  (applies_serialised [knownNode] [] []).2 _ 0 none _ (by simp [RequestsAnew])

end SeedMg24.Analysis
