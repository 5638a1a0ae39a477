import SeedMg24.Model.ProvisioningService

/-!
# What an event does to an installation

Every event changes a row in one of a few ways, and at most one event passes between the service and
the configurator.  The changes are read off the state before the event.
-/

set_option autoImplicit false

namespace SeedMg24.Analysis

open Foundation Model Model.ProvisioningService

variable {κ : Type}

/-! ## Rows -/

/-- The ways a row is changed. -/
inductive RowChange (κ : Type) where
  | keeps
  | updates (configuration : κ)
  | validates (failure : Option Text)
  | disables
  | archives
  | upgrades (version : Text)
  | removes
  | restores
  | applies (transactionId : ℕ)
  | verifies
  | activates
  | fails (error : Text)
  | isUncertain (transactionId : ℕ) (error : Text)
deriving DecidableEq, Repr

namespace RowChange

/-- What a change makes of a row. -/
def on : RowChange κ → Installation κ → Installation κ
  | keeps, row => row
  | updates configuration, row => row.updated configuration
  | validates failure, row => row.validated failure
  | disables, row => row.disabled
  | archives, row => row.archive
  | upgrades version, row => row.upgraded version
  | removes, row => row.removed
  | restores, row => row.restored
  | applies transactionId, row => row.applying transactionId
  | verifies, row => row.verifying
  | activates, row => row.activated
  | fails error, row => row.fail error
  | isUncertain transactionId error, row => row.uncertain transactionId error

/-- A change of one row only. -/
def onlyAt (i j : ℕ) (change : RowChange κ) : RowChange κ := if i = j then change else keeps

@[simp] theorem onlyAt_self (i : ℕ) (change : RowChange κ) : onlyAt i i change = change := if_pos rfl

theorem onlyAt_of_ne {i j : ℕ} (h : i ≠ j) (change : RowChange κ) : onlyAt i j change = keeps := if_neg h

/-- A row keeps its place. -/
theorem on_place (change : RowChange κ) (row : Installation κ) :
    (change.on row).nodeId = row.nodeId ∧ (change.on row).interfaceId = row.interfaceId := by
  cases change with
  | updates configuration =>
    dsimp only [on]
    unfold Installation.updated
    split <;> simp
  | validates failure => cases failure <;> simp [on, Installation.validated]
  | fails error =>
    dsimp only [on]
    unfold Installation.fail
    split <;> simp [Installation.handedBack]
  | isUncertain transactionId error =>
    dsimp only [on]
    unfold Installation.uncertain
    split <;> simp [Installation.handedBack]
  | keeps | disables | archives | upgrades | removes | restores | applies | verifies | activates =>
    exact ⟨rfl, rfl⟩

end RowChange

section

variable [DecidableEq κ]

/-- The change an event makes to a row with the given id. -/
def changeOf (s : ProvisioningService κ) (e : ProvisioningEvent κ) (i : ℕ)
    (row : Installation κ) : RowChange κ :=
  match e with
  | .update id configuration accepted =>
    if row.archived || !s.hasCapabilities row.nodeId || !accepted then .keeps
    else .onlyAt id i (.updates configuration)
  | .validate id failure =>
    if row.archived then .keeps
    else .onlyAt id i (.validates (failure.or
      (if s.hasCapabilities row.nodeId then none else some "MG24 node not found".toList)))
  | .disable id => .onlyAt id i .disables
  | .archive id => .onlyAt id i .archives
  | .upgradeProfile id version accepted =>
    if row.sensorProfileVersion = version then .keeps
    else if !s.hasCapabilities row.nodeId || !accepted then .keeps
    else .onlyAt id i (.upgrades version)
  | .removeDevice nodeId =>
    if row.nodeId = nodeId ∧ s.hasCapabilities nodeId then .removes else .keeps
  | .reregister nodeId identified =>
    if row.nodeId = nodeId ∧ s.canRestore nodeId identified then .restores else .keeps
  | .acquireInterface task =>
    match s.tasks[task]? with
    | some (.waitingForInterface id nodeId interfaceId) =>
      if (nodeId, interfaceId) ∈ s.interfaceLocks ∨ s.checkApply id nodeId interfaceId = none then
        .keeps
      else .onlyAt id i (.applies s.attempts.length)
    | _ => .keeps
  | .applyReturns task _ =>
    match s.tasks[task]? with
    | some (.applying id _ _ _ _) => .onlyAt id i .verifies
    | _ => .keeps
  | .applyIsLost task timedOut =>
    match s.tasks[task]? with
    | some (.applying id _ _ transactionId _) => .onlyAt id i (.isUncertain transactionId
      (if timedOut then "acknowledgement_timeout" else "transport_failure").toList)
    | _ => .keeps
  | .applyRejects task error =>
    match s.tasks[task]? with
    | some (.applying id _ _ _ _) => .onlyAt id i (.fails error)
    | _ => .keeps
  | .readBackFails task error =>
    match s.tasks[task]? with
    | some (.readingBack id _ _ _) => .onlyAt id i (.fails error)
    | _ => .keeps
  | .readBackReturns task value recentReading =>
    match s.tasks[task]? with
    | some (.readingBack id _ requested _) =>
      match s.judge id requested value recentReading with
      | .mismatch => .onlyAt id i (.fails "configuration_readback_mismatch".toList)
      | .raises => .keeps
      | .noTelemetry => .onlyAt id i (.fails "no_recent_valid_telemetry".toList)
      | .succeeds => .onlyAt id i .activates
    | _ => .keeps
  | _ => .keeps

/-- The change an event makes to the row of an id. -/
def change (s : ProvisioningService κ) (e : ProvisioningEvent κ) (i : ℕ) : RowChange κ :=
  match s.get i with
  | none => .keeps
  | some row => changeOf s e i row

theorem change_of_some {s : ProvisioningService κ} {i : ℕ} {row : Installation κ}
    (hrow : s.get i = some row) (e : ProvisioningEvent κ) : change s e i = changeOf s e i row := by
  unfold change
  rw [hrow]

/-- The row an event adds. -/
def created (s : ProvisioningService κ) (e : ProvisioningEvent κ) (i : ℕ) :
    Option (Installation κ) :=
  match e with
  | .create nodeId interfaceId version configuration accepted =>
    if !accepted || !s.hasCapabilities nodeId || (interfaceOf interfaceId).isNone ||
        (isExclusive interfaceId && (s.occupiedInterface nodeId interfaceId none).isSome) then none
    else if i = s.installations.length then some {
      nodeId := nodeId
      interfaceId := interfaceId
      sensorProfileVersion := version
      configuration := configuration }
    else none
  | _ => none

/-- What an event adds to the calls. -/
def emitted (s : ProvisioningService κ) : ProvisioningEvent κ → List (ConfiguratorCall κ)
  | .acquireInterface task =>
    match s.tasks[task]? with
    | some (.waitingForInterface id nodeId interfaceId) =>
      if (nodeId, interfaceId) ∈ s.interfaceLocks then []
      else (s.checkApply id nodeId interfaceId).toList.map (.applies id)
    | _ => []
  | .applyReturns task applied =>
    match s.tasks[task]? with
    | some (.applying id _ _ _ _) => [.applied id applied]
    | _ => []
  | .applyIsLost task _ =>
    match s.tasks[task]? with
    | some (.applying id _ _ _ _) => [.lost id]
    | _ => []
  | .readBackReturns task value _ =>
    match s.tasks[task]? with
    | some (.readingBack id _ _ _) => [.readBack id value]
    | _ => []
  | _ => []

end

/-! ## Effects -/

/-- What an event does: every row changes as said, no row is added, and calls pass. -/
structure Effect (s after : ProvisioningService κ) (change : ℕ → Installation κ → RowChange κ)
    (calls : List (ConfiguratorCall κ)) : Prop where
  rows : ∀ i row, s.get i = some row → after.get i = some ((change i row).on row)
  length : after.installations.length = s.installations.length
  calls : after.calls = s.calls ++ calls

theorem finish_frame (s : ProvisioningService κ) (task : ℕ) :
    (s.finish task).installations = s.installations ∧ (s.finish task).calls = s.calls := by
  unfold finish
  split <;> exact ⟨rfl, rfl⟩

theorem restoreDevice_frame (s : ProvisioningService κ) (nodeId : Text) (identified : Bool) :
    (s.restoreDevice nodeId identified).installations = s.installations ∧
      (s.restoreDevice nodeId identified).calls = s.calls := by
  unfold restoreDevice
  split
  · exact ⟨rfl, rfl⟩
  split
  · exact ⟨rfl, rfl⟩
  split <;> exact ⟨rfl, rfl⟩

namespace Effect

variable {s after : ProvisioningService κ} {change : ℕ → Installation κ → RowChange κ}
  {calls : List (ConfiguratorCall κ)}

/-- No row changes. -/
theorem keeps (hrows : after.installations = s.installations)
    (hcalls : after.calls = s.calls ++ calls)
    (hchange : ∀ i row, s.get i = some row → change i row = .keeps) :
    Effect s after change calls where
  rows i row hrow := by
    rw [hchange i row hrow]
    unfold ProvisioningService.get
    rw [hrows]
    exact hrow
  length := by rw [hrows]
  calls := hcalls

/-- One row changes. -/
theorem changes {id : ℕ} {c : RowChange κ}
    (hrows : after.installations = s.installations.modify id c.on)
    (hcalls : after.calls = s.calls ++ calls)
    (hchange : ∀ i row, s.get i = some row → change i row = .onlyAt id i c) :
    Effect s after change calls where
  rows i row hrow := by
    have hrow' : s.installations[i]? = some row := hrow
    rw [hchange i row hrow]
    unfold ProvisioningService.get
    rw [hrows, List.getElem?_modify, hrow']
    by_cases h : id = i
    · subst h
      rw [RowChange.onlyAt_self]
      simp
    · rw [RowChange.onlyAt_of_ne h]
      simp [h, RowChange.on]
  length := by rw [hrows, List.length_modify]
  calls := hcalls

/-- The rows of a node change. -/
theorem changesOf (nodeId : Text) (c : RowChange κ)
    (hrows : after.installations =
      s.installations.map fun row => if row.nodeId = nodeId then c.on row else row)
    (hcalls : after.calls = s.calls ++ calls)
    (hchange : ∀ i row, change i row = if row.nodeId = nodeId then c else .keeps) :
    Effect s after change calls where
  rows i row hrow := by
    have hrow' : s.installations[i]? = some row := hrow
    rw [hchange i row]
    unfold ProvisioningService.get
    rw [hrows, List.getElem?_map, hrow', Option.map_some]
    split_ifs <;> rfl
  length := by rw [hrows, List.length_map]
  calls := hcalls

/-- One row changes, unless the change is refused. -/
theorem unlessRefused {id : ℕ} {refused : Installation κ → Prop} [DecidablePred refused]
    {c : Installation κ → RowChange κ} (hnone : s.get id = none → after = s)
    (hsome : ∀ row, s.get id = some row →
      after = if refused row then s else s.updateInstallation id (c row).on) :
    Effect s after (fun i row => if refused row then .keeps else .onlyAt id i (c row)) [] := by
  cases hid : s.get id with
  | none =>
    rw [hnone hid]
    refine .keeps rfl (List.append_nil _).symm fun i row hrow => ?_
    have hne : id ≠ i := by
      rintro rfl
      rw [hid] at hrow
      cases hrow
    rw [RowChange.onlyAt_of_ne hne, ite_self]
  | some row =>
    rw [hsome row hid]
    by_cases hrefused : refused row
    · rw [if_pos hrefused]
      refine .keeps rfl (List.append_nil _).symm fun i other hother => ?_
      by_cases hi : id = i
      · subst hi
        obtain rfl := Option.some.inj (hid.symm.trans hother)
        rw [if_pos hrefused]
      · rw [RowChange.onlyAt_of_ne hi, ite_self]
    · rw [if_neg hrefused]
      refine .changes rfl (List.append_nil _).symm fun i other hother => ?_
      by_cases hi : id = i
      · subst hi
        obtain rfl := Option.some.inj (hid.symm.trans hother)
        rw [if_neg hrefused]
      · rw [RowChange.onlyAt_of_ne hi, RowChange.onlyAt_of_ne hi, ite_self]

/-- The end of a task changes no row. -/
theorem finish (h : Effect s after change calls) (task : ℕ) :
    Effect s (after.finish task) change calls := by
  obtain ⟨hrows, hcalls⟩ := finish_frame after task
  refine ⟨fun i row hrow => ?_, hrows ▸ h.length, hcalls.trans h.calls⟩
  have hget : (after.finish task).get i = after.get i := by
    unfold ProvisioningService.get
    rw [hrows]
  exact hget.trans (h.rows i row hrow)

end Effect

section

variable [DecidableEq κ]

theorem effect_removeDevice (s : ProvisioningService κ) (nodeId : Text) :
    Effect s (s.removeDevice nodeId) (changeOf s (.removeDevice nodeId)) [] := by
  unfold removeDevice changeOf hasCapabilities
  dsimp only
  cases hdevice : s.getDevice nodeId with
  | none => exact .keeps rfl (List.append_nil _).symm fun i row _ => if_neg (by simp)
  | some device =>
    dsimp only
    by_cases harchived : device.archived = true
    · rw [if_pos harchived]
      exact .keeps rfl (List.append_nil _).symm fun i row _ => if_neg (by simp [harchived])
    · rw [if_neg harchived]
      refine .changesOf nodeId .removes rfl (List.append_nil _).symm fun i row => ?_
      simp [harchived]

theorem effect_reregister (s : ProvisioningService κ) (nodeId : Text) (identified : Bool) :
    Effect s (s.reregister nodeId identified) (changeOf s (.reregister nodeId identified)) [] := by
  unfold reregister changeOf
  dsimp only
  obtain ⟨hrows, hcalls⟩ := restoreDevice_frame s nodeId identified
  by_cases hcan : s.canRestore nodeId identified = true
  · rw [if_pos hcan]
    refine .changesOf nodeId .restores ?_ (hcalls.trans (List.append_nil _).symm) fun i row => ?_
    · unfold updateInstallationsOf
      rw [hrows]
      rfl
    · simp [hcan]
  · rw [if_neg hcan]
    exact .keeps rfl (List.append_nil _).symm fun i row _ => if_neg fun h => hcan h.2

theorem effect_acquireInterface (s : ProvisioningService κ) (task : ℕ) :
    Effect s (s.acquireInterface task) (changeOf s (.acquireInterface task))
      (emitted s (.acquireInterface task)) := by
  unfold acquireInterface changeOf emitted
  dsimp only
  cases s.tasks[task]? with
  | none => exact .keeps rfl (List.append_nil _).symm fun _ _ _ => rfl
  | some t =>
    cases t with
    | waitingForInterface id nodeId interfaceId =>
      dsimp only
      by_cases hlocked : (nodeId, interfaceId) ∈ s.interfaceLocks
      · rw [if_pos hlocked, if_pos hlocked]
        exact .keeps rfl (List.append_nil _).symm fun i row _ => if_pos (.inl hlocked)
      · rw [if_neg hlocked, if_neg hlocked]
        cases hcheck : s.checkApply id nodeId interfaceId with
        | none =>
          refine Effect.finish (.keeps rfl (List.append_nil _).symm fun i row _ => ?_) task
          exact if_pos (.inr rfl)
        | some requested =>
          refine .changes (c := .applies s.attempts.length) rfl rfl fun i row _ => ?_
          exact if_neg (by simp [hlocked])
    | waitingForNode | applying | readingBack | done =>
      exact .keeps rfl (List.append_nil _).symm fun _ _ _ => rfl

theorem effect_applyReturns (s : ProvisioningService κ) (task : ℕ) (applied : κ) :
    Effect s (s.applyReturns task applied) (changeOf s (.applyReturns task applied))
      (emitted s (.applyReturns task applied)) := by
  unfold applyReturns changeOf emitted
  dsimp only
  cases s.tasks[task]? with
  | none => exact .keeps rfl (List.append_nil _).symm fun _ _ _ => rfl
  | some t =>
    cases t with
    | applying id nodeId interfaceId transactionId requested =>
      dsimp only
      split
      · exact Effect.finish (.changes (c := .verifies) rfl rfl fun _ _ _ => rfl) task
      · exact .changes (c := .verifies) rfl rfl fun _ _ _ => rfl
    | waitingForNode | waitingForInterface | readingBack | done =>
      exact .keeps rfl (List.append_nil _).symm fun _ _ _ => rfl

theorem effect_applyIsLost (s : ProvisioningService κ) (task : ℕ) (timedOut : Bool) :
    Effect s (s.applyIsLost task timedOut) (changeOf s (.applyIsLost task timedOut))
      (emitted s (.applyIsLost task timedOut)) := by
  unfold applyIsLost changeOf emitted
  dsimp only
  cases s.tasks[task]? with
  | none => exact .keeps rfl (List.append_nil _).symm fun _ _ _ => rfl
  | some t =>
    cases t with
    | applying id nodeId interfaceId transactionId requested =>
      exact Effect.finish (.changes (c := .isUncertain transactionId _) rfl rfl fun _ _ _ => rfl)
        task
    | waitingForNode | waitingForInterface | readingBack | done =>
      exact .keeps rfl (List.append_nil _).symm fun _ _ _ => rfl

theorem effect_applyRejects (s : ProvisioningService κ) (task : ℕ) (error : Text) :
    Effect s (s.applyRejects task error) (changeOf s (.applyRejects task error)) [] := by
  unfold applyRejects changeOf
  dsimp only
  cases s.tasks[task]? with
  | none => exact .keeps rfl (List.append_nil _).symm fun _ _ _ => rfl
  | some t =>
    cases t with
    | applying id nodeId interfaceId transactionId requested =>
      refine Effect.finish (.changes (c := .fails error) rfl ?_ fun _ _ _ => rfl) task
      exact (List.append_nil _).symm
    | waitingForNode | waitingForInterface | readingBack | done =>
      exact .keeps rfl (List.append_nil _).symm fun _ _ _ => rfl

theorem effect_readBackFails (s : ProvisioningService κ) (task : ℕ) (error : Text) :
    Effect s (s.readBackFails task error) (changeOf s (.readBackFails task error)) [] := by
  unfold readBackFails changeOf
  dsimp only
  cases s.tasks[task]? with
  | none => exact .keeps rfl (List.append_nil _).symm fun _ _ _ => rfl
  | some t =>
    cases t with
    | readingBack id transactionId requested locks =>
      refine Effect.finish (.changes (c := .fails error) rfl ?_ fun _ _ _ => rfl) task
      exact (List.append_nil _).symm
    | waitingForNode | waitingForInterface | applying | done =>
      exact .keeps rfl (List.append_nil _).symm fun _ _ _ => rfl

theorem effect_readBackReturns (s : ProvisioningService κ) (task : ℕ) (value : κ)
    (recentReading : Bool) :
    Effect s (s.readBackReturns task value recentReading)
      (changeOf s (.readBackReturns task value recentReading))
      (emitted s (.readBackReturns task value recentReading)) := by
  unfold readBackReturns changeOf emitted
  dsimp only
  cases s.tasks[task]? with
  | none => exact .keeps rfl (List.append_nil _).symm fun _ _ _ => rfl
  | some t =>
    cases t with
    | readingBack id transactionId requested locks =>
      dsimp only
      have hjudge : (s.note (.readBack id value)).judge id requested value recentReading =
          s.judge id requested value recentReading := rfl
      rw [hjudge]
      cases s.judge id requested value recentReading with
      | mismatch => exact Effect.finish (.changes (c := .fails _) rfl rfl fun _ _ _ => rfl) task
      | raises =>
        have hnote : Effect s (s.note (.readBack id value)) (fun _ _ => .keeps)
            [.readBack id value] := .keeps rfl rfl fun _ _ _ => rfl
        exact hnote.finish task
      | noTelemetry => exact Effect.finish (.changes (c := .fails _) rfl rfl fun _ _ _ => rfl) task
      | succeeds => exact Effect.finish (.changes (c := .activates) rfl rfl fun _ _ _ => rfl) task
    | waitingForNode | waitingForInterface | applying | done =>
      exact .keeps rfl (List.append_nil _).symm fun _ _ _ => rfl

/-- **Every event but a creation has the effect that is read off before it.**
SOURCE: provisioning_service.py:96-319; installations.py:59-214 -/
theorem effect_next (s : ProvisioningService κ) (e : ProvisioningEvent κ)
    (h : ∀ nodeId interfaceId version configuration accepted,
      e ≠ .create nodeId interfaceId version configuration accepted) :
    Effect s (s.next e) (changeOf s e) (emitted s e) := by
  cases e with
  | create nodeId interfaceId version configuration accepted => exact absurd rfl (h _ _ _ _ _)
  | update id configuration accepted =>
    refine .unlessRefused (fun hnone => ?_) fun row hrow => ?_
    · simp only [next, update, hnone]
    · simp only [next, update, hrow]
      rfl
  | validate id failure =>
    refine .unlessRefused (fun hnone => ?_) fun row hrow => ?_
    · simp only [next, validate, hnone]
    · simp only [next, validate, hrow]
      rfl
  | upgradeProfile id version accepted =>
    have heffect : Effect s (s.upgradeProfile id version accepted) (fun i row =>
        if row.sensorProfileVersion = version ∨
            (!s.hasCapabilities row.nodeId || !accepted) = true then .keeps
        else .onlyAt id i (.upgrades version)) [] := by
      refine .unlessRefused (fun hnone => ?_) fun row hrow => ?_
      · simp only [upgradeProfile, hnone]
      · simp only [upgradeProfile, hrow, ite_or]
        rfl
    simp only [ite_or] at heffect
    exact heffect
  | disable id => exact .changes (c := .disables) rfl (List.append_nil _).symm fun _ _ _ => rfl
  | archive id => exact .changes (c := .archives) rfl (List.append_nil _).symm fun _ _ _ => rfl
  | removeDevice nodeId => exact effect_removeDevice s nodeId
  | restoreDevice nodeId identified =>
    obtain ⟨hrows, hcalls⟩ := restoreDevice_frame s nodeId identified
    exact .keeps hrows (hcalls.trans (List.append_nil _).symm) fun _ _ _ => rfl
  | reregister nodeId identified => exact effect_reregister s nodeId identified
  | reportCompatibility nodeId status =>
    exact .keeps rfl (List.append_nil _).symm fun _ _ _ => rfl
  | apply id =>
    dsimp only [next]
    unfold ProvisioningService.apply
    split
    · exact .keeps rfl (List.append_nil _).symm fun _ _ _ => rfl
    split <;> exact .keeps rfl (List.append_nil _).symm fun _ _ _ => rfl
  | verify id =>
    dsimp only [next]
    unfold ProvisioningService.verify
    split <;> exact .keeps rfl (List.append_nil _).symm fun _ _ _ => rfl
  | acquireNode task =>
    dsimp only [next]
    unfold acquireNode
    split
    · split <;> exact .keeps rfl (List.append_nil _).symm fun _ _ _ => rfl
    · exact .keeps rfl (List.append_nil _).symm fun _ _ _ => rfl
  | acquireInterface task => exact effect_acquireInterface s task
  | applyReturns task applied => exact effect_applyReturns s task applied
  | applyIsLost task timedOut => exact effect_applyIsLost s task timedOut
  | applyRejects task error => exact effect_applyRejects s task error
  | readBackFails task error => exact effect_readBackFails s task error
  | readBackReturns task value recentReading =>
    exact effect_readBackReturns s task value recentReading
  | interrupt task =>
    exact Effect.finish (.keeps rfl (List.append_nil _).symm fun _ _ _ => rfl) task

omit [DecidableEq κ] in
/-- A creation keeps the rows that are there, and calls nothing. -/
theorem create_frame (s : ProvisioningService κ) (nodeId interfaceId version : Text)
    (configuration : κ) (accepted : Bool) :
    s.installations <+: (s.create nodeId interfaceId version configuration accepted).installations ∧
      (s.create nodeId interfaceId version configuration accepted).calls = s.calls := by
  unfold create
  split
  · exact ⟨List.prefix_rfl, rfl⟩
  split
  · exact ⟨List.prefix_rfl, rfl⟩
  · exact ⟨List.prefix_append _ _, rfl⟩

/-- **Every row changes as said.** -/
theorem get_next {s : ProvisioningService κ} {i : ℕ} {row : Installation κ}
    (hrow : s.get i = some row) (e : ProvisioningEvent κ) :
    (s.next e).get i = some ((change s e i).on row) := by
  rw [change_of_some hrow]
  cases e with
  | create nodeId interfaceId version configuration accepted =>
    obtain ⟨rest, hrest⟩ := (create_frame s nodeId interfaceId version configuration accepted).1
    have hlt : i < s.installations.length := (List.getElem?_eq_some_iff.mp hrow).1
    show (s.create nodeId interfaceId version configuration accepted).installations[i]? = some row
    rw [← hrest, List.getElem?_append_left hlt]
    exact hrow
  | _ => exact (effect_next s _ (by simp)).rows i row hrow

/-- No row is added but by `create`, and none is ever deleted. -/
theorem length_next (s : ProvisioningService κ) (e : ProvisioningEvent κ)
    (h : ∀ nodeId interfaceId version configuration accepted,
      e ≠ .create nodeId interfaceId version configuration accepted) :
    (s.next e).installations.length = s.installations.length :=
  (effect_next s e h).length

/-- **What passes between the service and the configurator.**
SOURCE: provisioning_service.py:180, 221 -/
theorem calls_next (s : ProvisioningService κ) (e : ProvisioningEvent κ) :
    (s.next e).calls = s.calls ++ emitted s e := by
  cases e with
  | create nodeId interfaceId version configuration accepted =>
    have hcalls := (create_frame s nodeId interfaceId version configuration accepted).2
    exact hcalls.trans (List.append_nil _).symm
  | _ => exact (effect_next s _ (by simp)).calls

/-- A row that was not there is the one an event adds. -/
theorem get_next_new {s : ProvisioningService κ} {i : ℕ} (hnone : s.get i = none)
    (e : ProvisioningEvent κ) : (s.next e).get i = created s e i := by
  have hlength : s.installations.length ≤ i := List.getElem?_eq_none_iff.mp hnone
  by_cases hcreate : ∃ nodeId interfaceId version configuration accepted,
      e = .create nodeId interfaceId version configuration accepted
  · obtain ⟨nodeId, interfaceId, version, configuration, accepted, rfl⟩ := hcreate
    dsimp only [next, created]
    unfold create
    split
    · rename_i hrefused
      rw [hrefused, Bool.true_or, if_pos rfl]
      exact hnone
    · rename_i hchecked
      split
      · rename_i hoccupied
        rw [hoccupied, Bool.or_true, if_pos rfl]
        exact hnone
      · rename_i hfree
        rw [if_neg (by simp_all)]
        unfold ProvisioningService.get
        rw [List.getElem?_append_right hlength, List.getElem?_singleton]
        by_cases hi : i = s.installations.length
        · rw [if_pos hi, if_pos (by omega)]
        · rw [if_neg hi, if_neg (by omega)]
  · have hsame := length_next s e fun _ _ _ _ _ h => hcreate ⟨_, _, _, _, _, h⟩
    have hcreated : created s e i = none := by
      unfold created
      split
      · exact absurd ⟨_, _, _, _, _, rfl⟩ hcreate
      · rfl
    rw [hcreated]
    apply List.getElem?_eq_none
    omega

omit [DecidableEq κ] in
/-- A row is added as a disabled draft.
SOURCE: installation_service.py:60-62 -/
theorem created_draft {s : ProvisioningService κ} {e : ProvisioningEvent κ} {i : ℕ}
    {row : Installation κ} (h : created s e i = some row) :
    row.enabled = false ∧ row.provisioningState = .draft := by
  unfold created at h
  split at h
  · split at h
    · cases h
    split at h
    · cases h
      exact ⟨rfl, rfl⟩
    · cases h
  · cases h

/-! ## The way to an apply -/

/-- Whether a change makes a row ready to be applied. -/
def RowChange.makesReady (row : Installation κ) : RowChange κ → Bool
  | .updates _ => row.provisioningState = .active
  | .validates failure => failure.isNone
  | .upgrades _ => true
  | _ => false

omit [DecidableEq κ] in
/-- A row is ready because it was, or because it is made ready. -/
theorem RowChange.ready_on {c : RowChange κ} {row : Installation κ}
    (h : (c.on row).provisioningState = .readyToApply) :
    (c.makesReady row = false ∧ row.provisioningState = .readyToApply) ∨
      c.makesReady row = true := by
  cases c with
  | keeps => exact .inl ⟨rfl, h⟩
  | updates configuration =>
    dsimp only [on] at h
    unfold Installation.updated at h
    split at h
    · rename_i hactive
      exact .inr (by simp [makesReady, hactive])
    · rename_i hinactive
      exact .inl ⟨by simp [makesReady, hinactive], h⟩
  | validates failure =>
    cases failure with
    | some error => cases h
    | none => exact .inr rfl
  | upgrades version => exact .inr rfl
  | fails error =>
    dsimp only [on] at h
    unfold Installation.fail at h
    split at h <;> cases h
  | isUncertain transactionId error =>
    dsimp only [on] at h
    unfold Installation.uncertain at h
    split at h <;> cases h
  | disables | archives | removes | restores | applies | verifies | activates => cases h

omit [DecidableEq κ] in
/-- The checks under the locks pass only for a row that is ready.
SOURCE: provisioning_service.py:140-162 -/
theorem checkApply_eq_some {s : ProvisioningService κ} {id : ℕ} {nodeId interfaceId : Text}
    {requested : κ} (h : s.checkApply id nodeId interfaceId = some requested) :
    ∃ row, s.get id = some row ∧ row.archived = false ∧ row.provisioningState = .readyToApply ∧
      row.configuration = requested := by
  unfold checkApply at h
  split at h
  · cases h
  rename_i row hrow
  split at h
  · cases h
  rename_i hlive
  split at h
  · cases h
  split at h
  · cases h
  split at h
  · cases h
  split at h
  · cases h
  split at h
  · cases h
  rename_i hready
  cases h
  simp only [Bool.or_eq_true, not_or] at hlive
  exact ⟨row, hrow, by simpa using hlive.1, not_not.mp hready, rfl⟩

/-- The configurator's `apply` is called for a row that is ready, and the row is not ready any
more.
SOURCE: provisioning_service.py:161-181 -/
theorem change_of_applies {s : ProvisioningService κ} {e : ProvisioningEvent κ} {id : ℕ}
    {requested : κ} (h : .applies id requested ∈ emitted s e) :
    emitted s e = [.applies id requested] ∧ ∃ row, s.get id = some row ∧
      row.provisioningState = .readyToApply ∧ change s e id = .applies s.attempts.length := by
  cases e with
  | acquireInterface task =>
    dsimp only [emitted] at h ⊢
    unfold change changeOf
    cases htask : s.tasks[task]? with
    | none =>
      rw [htask] at h
      cases h
    | some t =>
      rw [htask] at h
      cases t with
      | waitingForInterface id' nodeId interfaceId =>
        dsimp only at h ⊢
        by_cases hlocked : (nodeId, interfaceId) ∈ s.interfaceLocks
        · rw [if_pos hlocked] at h
          cases h
        rw [if_neg hlocked] at h ⊢
        obtain ⟨requested', hmem, heq⟩ := List.mem_map.mp h
        cases heq
        have hcheck : s.checkApply id nodeId interfaceId = some requested :=
          Option.mem_toList.mp hmem
        obtain ⟨row, hrow, -, hready, -⟩ := checkApply_eq_some hcheck
        refine ⟨by rw [hcheck]; rfl, row, hrow, hready, ?_⟩
        rw [hrow]
        dsimp only
        rw [htask]
        dsimp only
        rw [if_neg (by simp [hlocked, hcheck]), RowChange.onlyAt_self]
      | waitingForNode | applying | readingBack | done => cases h
  | applyReturns task applied =>
    dsimp only [emitted] at h
    split at h <;> simp at h
  | applyIsLost task timedOut =>
    dsimp only [emitted] at h
    split at h <;> simp at h
  | readBackReturns task value recentReading =>
    dsimp only [emitted] at h
    split at h <;> simp at h
  | _ => simp [emitted] at h

omit [DecidableEq κ] in
/-- At most one call passes in an event. -/
theorem emitted_cases (s : ProvisioningService κ) (e : ProvisioningEvent κ) :
    emitted s e = [] ∨ ∃ call, emitted s e = [call] := by
  cases e with
  | acquireInterface task =>
    dsimp only [emitted]
    split
    · rename_i id nodeId interfaceId htask
      split
      · exact .inl rfl
      · cases s.checkApply id nodeId interfaceId with
        | none => exact .inl rfl
        | some requested => exact .inr ⟨_, rfl⟩
    · exact .inl rfl
  | applyReturns | applyIsLost | readBackReturns =>
    dsimp only [emitted]
    split
    · exact .inr ⟨_, rfl⟩
    · exact .inl rfl
  | _ => exact .inl rfl

end

end SeedMg24.Analysis
