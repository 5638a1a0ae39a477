import SeedMg24.Analysis.LifecycleLogs
import SeedMg24.Analysis.RegistryIdentities

/-!
# Removals after factory resets

A registration is removed on account of a factory reset only when the very sensor of the record was
read back reset, and the cleanup of a reset is complete only when the registration was removed.
-/

set_option autoImplicit false

namespace SeedMg24.Analysis

open Foundation SeedMg24.Model

namespace ResetRemovals

open Registry Registry.DeviceRegistry RegistryStatements RegistryIdentities LifecycleLogs

/-! ## Operations -/

/-- The sensor was read back: it has the operation's hardware id, and no identity. -/
def IsVerified (item : UsbResetOperation) : Prop :=
  ∃ verified, item.postReset = some verified ∧ verified.hardwareId = some item.hardwareId ∧
    verified.nodeId = none ∧ verified.identityStatus = some "unprovisioned".toList

/-- What an operation becomes: it stays about its sensor, and complete. -/
structure Follows (item later : UsbResetOperation) : Prop where
  recordId : later.recordId = item.recordId
  deviceId : later.deviceId = item.deviceId
  hardwareId : later.hardwareId = item.hardwareId
  complete : item.physicalResetComplete = true → later.physicalResetComplete = true

theorem Follows.refl (item : UsbResetOperation) : Follows item item := ⟨rfl, rfl, rfl, id⟩

theorem Follows.trans {a b c : UsbResetOperation} (hab : Follows a b) (hbc : Follows b c) :
    Follows a c :=
  ⟨hbc.recordId.trans hab.recordId, hbc.deviceId.trans hab.deviceId,
    hbc.hardwareId.trans hab.hardwareId, fun h => hbc.complete (hab.complete h)⟩

/-- What the service becomes: its operations stay, and the complete ones are verified. -/
structure Advances (usb later : UsbFactoryReset) : Prop where
  grows : ∀ (operation : ℕ) (item : UsbResetOperation), usb.operations[operation]? = some item →
    ∃ now, later.operations[operation]? = some now ∧ Follows item now
  verified : (∀ item ∈ usb.operations, item.physicalResetComplete = true → IsVerified item) →
    ∀ item ∈ later.operations, item.physicalResetComplete = true → IsVerified item

theorem Advances.of_eq {usb later : UsbFactoryReset} (h : later.operations = usb.operations) :
    Advances usb later :=
  ⟨fun _ item hitem => ⟨item, h ▸ hitem, .refl item⟩, fun hall => h ▸ hall⟩

theorem Advances.refl (usb : UsbFactoryReset) : Advances usb usb := .of_eq rfl

theorem Advances.trans {a b c : UsbFactoryReset} (hab : Advances a b) (hbc : Advances b c) :
    Advances a c := by
  refine ⟨fun operation item hitem => ?_, fun hall => hbc.verified (hab.verified hall)⟩
  obtain ⟨now, hnow, hfollows⟩ := hab.grows operation item hitem
  obtain ⟨last, hlast, hlater⟩ := hbc.grows operation now hnow
  exact ⟨last, hlast, hfollows.trans hlater⟩

/-- One operation is replaced by what it becomes. -/
theorem advances_set {usb : UsbFactoryReset} {operation : ℕ} {item later : UsbResetOperation}
    (hitem : usb.operations[operation]? = some item) (hfollows : Follows item later)
    (hverified : later.physicalResetComplete = true →
      (item.physicalResetComplete = true ∧ later.postReset = item.postReset) ∨ IsVerified later) :
    Advances usb { usb with operations := usb.operations.set operation later } := by
  refine ⟨fun other old hold => ?_, fun hall other hother hcomplete => ?_⟩
  · obtain ⟨hlt, -⟩ := List.getElem?_eq_some_iff.mp hitem
    by_cases hsame : operation = other
    · subst hsame
      obtain rfl := Option.some.inj (hitem.symm.trans hold)
      exact ⟨later, List.getElem?_set_self hlt, hfollows⟩
    · exact ⟨old, (List.getElem?_set_ne hsame).trans hold, .refl old⟩
  · rcases List.mem_or_eq_of_mem_set hother with hold | rfl
    · exact hall other hold hcomplete
    · rcases hverified hcomplete with ⟨hbefore, hpost⟩ | hverified
      · obtain ⟨verified, hsome, hhardware, hrest⟩ :=
          hall item (List.mem_of_getElem? hitem) hbefore
        exact ⟨verified, hpost.trans hsome,
          hhardware.trans (congrArg some hfollows.hardwareId.symm), hrest⟩
      · exact hverified

theorem advances_prepare {usb later : UsbFactoryReset} {recordId token : ℕ}
    {deviceId hardwareId port : Text} {inspection : Except Text SensorState} {now : ℕ}
    (h : usb.prepare recordId deviceId hardwareId port inspection now = .ok (later, token)) :
    Advances usb later := by
  unfold UsbFactoryReset.prepare at h
  cases inspection with
  | error message => cases h
  | ok state =>
    dsimp only at h
    split at h
    · cases h
    · obtain ⟨rfl, -⟩ := Prod.mk.inj (Except.ok.inj h)
      exact .of_eq rfl

theorem advances_launch {usb later : UsbFactoryReset} {recordId operation : ℕ}
    {deviceId hardwareId port : Text}
    (h : usb.launch recordId deviceId hardwareId port = .ok (later, operation)) :
    Advances usb later ∧
      ∃ item, later.operations[operation]? = some item ∧ item.recordId = recordId := by
  unfold UsbFactoryReset.launch at h
  split at h
  · cases h
  · obtain ⟨rfl, rfl⟩ := Prod.mk.inj (Except.ok.inj h)
    refine ⟨⟨fun other item hitem => ⟨item, ?_, .refl item⟩, fun hall item hitem hcomplete => ?_⟩,
      _, List.getElem?_concat_length, rfl⟩
    · obtain ⟨hlt, -⟩ := List.getElem?_eq_some_iff.mp hitem
      exact (List.getElem?_append_left hlt).trans hitem
    · rcases List.mem_append.mp hitem with hold | hnew
      · exact hall item hold hcomplete
      · rw [List.mem_singleton.mp hnew] at hcomplete
        cases hcomplete

theorem follows_run (item : UsbResetOperation) (e : ResetExchange) :
    Follows item (item.run e) ∧ (item.run e).physicalResetComplete = item.physicalResetComplete ∧
      (item.run e).postReset = item.postReset := by
  unfold UsbResetOperation.run
  cases item.exchange e with
  | error message => exact ⟨⟨rfl, rfl, rfl, id⟩, rfl, rfl⟩
  | ok before => exact ⟨⟨rfl, rfl, rfl, id⟩, rfl, rfl⟩

theorem advances_run (usb : UsbFactoryReset) (operation : ℕ) (e : ResetExchange) :
    Advances usb (usb.run operation e) := by
  unfold UsbFactoryReset.run
  cases hitem : usb.operations[operation]? with
  | none => exact .refl usb
  | some item =>
    dsimp only
    split
    · exact .refl usb
    · obtain ⟨hfollows, hcomplete, hpost⟩ := follows_run item e
      exact advances_set hitem hfollows fun h => .inl ⟨hcomplete ▸ h, hpost⟩

/-- A read-back makes an operation complete only when it verifies the sensor. -/
theorem follows_readBack (item : UsbResetOperation) (reading : Option SensorState) :
    Follows item (item.readBack reading) ∧ ((item.readBack reading).physicalResetComplete = true →
      (item.physicalResetComplete = true ∧ (item.readBack reading).postReset = item.postReset) ∨
        IsVerified (item.readBack reading)) := by
  unfold UsbResetOperation.readBack
  cases reading with
  | none => exact ⟨⟨rfl, rfl, rfl, id⟩, fun h => .inl ⟨h, rfl⟩⟩
  | some verified =>
    dsimp only
    split
    · exact ⟨.refl item, fun h => .inl ⟨h, rfl⟩⟩
    · rename_i hhardware
      split
      · exact ⟨⟨rfl, rfl, rfl, id⟩, fun h => .inl ⟨h, rfl⟩⟩
      · rename_i hidentity
        split
        · exact ⟨⟨rfl, rfl, rfl, id⟩, fun h => .inl ⟨h, rfl⟩⟩
        · rw [not_or, not_not, not_not] at hidentity
          exact ⟨⟨rfl, rfl, rfl, fun _ => rfl⟩, fun _ => .inr
            ⟨verified, rfl, not_not.mp hhardware, hidentity.1, hidentity.2⟩⟩

theorem advances_readBack (usb : UsbFactoryReset) (operation : ℕ)
    (reading : Option SensorState) : Advances usb (usb.readBack operation reading) := by
  unfold UsbFactoryReset.readBack
  cases hitem : usb.operations[operation]? with
  | none => exact .refl usb
  | some item =>
    dsimp only
    split
    · exact .refl usb
    · obtain ⟨hfollows, hcomplete⟩ := follows_readBack item reading
      exact advances_set hitem hfollows hcomplete

/-! ## The invariant -/

/-- What a removal that names a reset as its method goes back to. -/
structure Vouched (s : DeviceRegistry) (event : DeviceLifecycleEvent) : Prop where
  reset : event.method = "usb_factory_reset".toList → ∃ item ∈ s.usb.operations,
    item.physicalResetComplete = true ∧ item.deviceId = event.deviceId ∧
      event.hardwareId = some item.hardwareId
  workflow : event.method = "reset_reregister_workflow".toList → ∃ item ∈ s.usb.operations,
    item.physicalResetComplete = true ∧ (item.recordId, event.deviceId) ∈ s.devices.map ids

/-- A complete reset whose device has been removed. -/
def Cleaned (s : DeviceRegistry) (operation : ℕ) : Prop :=
  ∃ item, s.usb.operations[operation]? = some item ∧ item.physicalResetComplete = true ∧
    ∃ event ∈ s.events, event.eventType = .gatewayRemoved ∧ event.deviceId = item.deviceId

/-- What a task may rely on. -/
def TaskHolds (s : DeviceRegistry) : RegistryTask → Prop
  | .monitoring operation recordId =>
    ∃ item, s.usb.operations[operation]? = some item ∧ item.recordId = recordId
  | .cleaningUp operation => Cleaned s operation
  | _ => True

structure Accounted (s : DeviceRegistry) : Prop where
  verified : ∀ item ∈ s.usb.operations, item.physicalResetComplete = true → IsVerified item
  vouched : ∀ event ∈ s.events, Vouched s event
  tasks : ∀ task ∈ s.tasks, TaskHolds s task
  cleaned : ∀ operation ∈ s.cleanedUp, Cleaned s operation

/-- The registry later on: nothing has gone that the invariant rests on. -/
structure Later (s later : DeviceRegistry) : Prop where
  usb : Advances s.usb later.usb
  ids : s.devices.map ids <+: later.devices.map ids
  events : s.events ⊆ later.events

variable {s after : DeviceRegistry}

theorem Vouched.later {event : DeviceLifecycleEvent} (h : Vouched s event)
    (hlater : Later s after) : Vouched after event := by
  have hstays : ∀ item ∈ s.usb.operations, item.physicalResetComplete = true →
      ∃ now ∈ after.usb.operations, now.physicalResetComplete = true ∧
        Follows item now := by
    intro item hitem hcomplete
    obtain ⟨operation, hfound⟩ := List.getElem?_of_mem hitem
    obtain ⟨now, hnow, hfollows⟩ := hlater.usb.grows operation item hfound
    exact ⟨now, List.mem_of_getElem? hnow, hfollows.complete hcomplete, hfollows⟩
  refine ⟨fun hmethod => ?_, fun hmethod => ?_⟩
  · obtain ⟨item, hitem, hcomplete, hdevice, hhardware⟩ := h.reset hmethod
    obtain ⟨now, hnow, hstill, hfollows⟩ := hstays item hitem hcomplete
    exact ⟨now, hnow, hstill, hfollows.deviceId.trans hdevice,
      hhardware.trans (congrArg some hfollows.hardwareId.symm)⟩
  · obtain ⟨item, hitem, hcomplete, hrow⟩ := h.workflow hmethod
    obtain ⟨now, hnow, hstill, hfollows⟩ := hstays item hitem hcomplete
    refine ⟨now, hnow, hstill, ?_⟩
    rw [hfollows.recordId]
    exact hlater.ids.subset hrow

theorem Cleaned.later {operation : ℕ} (h : Cleaned s operation) (hlater : Later s after) :
    Cleaned after operation := by
  obtain ⟨item, hitem, hcomplete, event, hevent, htype, hdevice⟩ := h
  obtain ⟨now, hnow, hfollows⟩ := hlater.usb.grows operation item hitem
  exact ⟨now, hnow, hfollows.complete hcomplete, event, hlater.events hevent, htype,
    hdevice.trans hfollows.deviceId.symm⟩

theorem TaskHolds.later {task : RegistryTask} (h : TaskHolds s task) (hlater : Later s after) :
    TaskHolds after task := by
  cases task with
  | monitoring operation recordId =>
    obtain ⟨item, hitem, hrecord⟩ := h
    obtain ⟨now, hnow, hfollows⟩ := hlater.usb.grows operation item hitem
    exact ⟨now, hnow, hfollows.recordId.trans hrecord⟩
  | cleaningUp operation => exact Cleaned.later h hlater
  | associating recordId hardwareId confirmation => trivial
  | finalizing operation => trivial
  | done => trivial

/-- **One step**: what is new has to be accounted for. -/
theorem Accounted.step (h : Accounted s) (hlater : Later s after)
    (hevents : ∀ event ∈ after.events, event ∈ s.events ∨ Vouched after event)
    (htasks : ∀ task ∈ after.tasks, task ∈ s.tasks ∨ TaskHolds after task)
    (hcleaned : ∀ operation ∈ after.cleanedUp, operation ∈ s.cleanedUp ∨ Cleaned after operation) :
    Accounted after := by
  refine ⟨hlater.usb.verified h.verified, fun event hevent => ?_, fun task htask => ?_,
    fun operation hoperation => ?_⟩
  · rcases hevents event hevent with hold | hnew
    · exact (h.vouched event hold).later hlater
    · exact hnew
  · rcases htasks task htask with hold | hnew
    · exact TaskHolds.later (h.tasks task hold) hlater
    · exact hnew
  · rcases hcleaned operation hoperation with hold | hnew
    · exact Cleaned.later (h.cleaned operation hold) hlater
    · exact hnew

/-- Statements let nothing go. -/
theorem later_of_statements (husb : Advances s.usb after.usb)
    (hrecords : (s.devices.map DeviceRow.recordId).Nodup)
    (hdevices : (s.devices.map DeviceRow.deviceId).Nodup)
    (hstatements : Statements (tables s) (tables after)) : Later s after := by
  have hstart : Keeps (tables s) (tables s) :=
    ⟨hrecords, hdevices, List.prefix_refl _, List.prefix_refl _, fun _ => le_max_right _ _,
      fun _ => Nat.add_le_add_right (le_max_right _ _) _⟩
  have hkeeps := hstart.statements hstatements
  exact ⟨husb, hkeeps.kept, hkeeps.logged.subset⟩

/-! ## The events -/

/-- What a step adds is accounted for. -/
structure Effect (s after : DeviceRegistry) : Prop where
  usb : Advances s.usb after.usb
  events : ∀ event ∈ after.events, event ∈ s.events ∨ Vouched after event
  tasks : ∀ task ∈ after.tasks, task ∈ s.tasks ∨ TaskHolds after task
  cleaned : ∀ operation ∈ after.cleanedUp, operation ∈ s.cleanedUp ∨ Cleaned after operation

/-- A step that adds nothing. -/
theorem Effect.quiet (husb : Advances s.usb after.usb) (hevents : after.events = s.events)
    (htasks : after.tasks = s.tasks) (hcleaned : after.cleanedUp = s.cleanedUp) :
    Effect s after :=
  ⟨husb, fun _ h => .inl (hevents ▸ h), fun _ h => .inl (htasks ▸ h),
    fun _ h => .inl (hcleaned ▸ h)⟩

theorem Effect.refl (s : DeviceRegistry) : Effect s s := .quiet (.refl _) rfl rfl rfl

/-- A step that adds one event. -/
theorem Effect.event (husb : Advances s.usb after.usb) {event : DeviceLifecycleEvent}
    (hevents : after.events = s.events ++ [event]) (hevent : Vouched after event)
    (htasks : after.tasks = s.tasks) (hcleaned : after.cleanedUp = s.cleanedUp) :
    Effect s after := by
  refine ⟨husb, fun other hother => ?_, fun _ h => .inl (htasks ▸ h),
    fun _ h => .inl (hcleaned ▸ h)⟩
  rw [hevents] at hother
  rcases List.mem_append.mp hother with hold | hnew
  · exact .inl hold
  · rw [List.mem_singleton.mp hnew]
    exact .inr hevent

/-- One step after the other. -/
theorem Effect.trans {middle : DeviceRegistry} (h : Effect s middle) (hlater : Later middle after)
    (hnext : Effect middle after) : Effect s after := by
  refine ⟨h.usb.trans hlater.usb, fun event hevent => ?_, fun task htask => ?_,
    fun operation hoperation => ?_⟩
  · rcases hnext.events event hevent with hold | hnew
    · exact (h.events event hold).imp_right (·.later hlater)
    · exact .inr hnew
  · rcases hnext.tasks task htask with hold | hnew
    · exact (h.tasks task hold).imp_right fun hholds => TaskHolds.later hholds hlater
    · exact .inr hnew
  · rcases hnext.cleaned operation hoperation with hold | hnew
    · exact (h.cleaned operation hold).imp_right fun hholds => Cleaned.later hholds hlater
    · exact .inr hnew

/-- A step and what follows it without an event. -/
theorem Effect.keeps {middle : DeviceRegistry} (h : Effect s middle)
    (husb : after.usb = middle.usb) (hids : after.devices.map ids = middle.devices.map ids)
    (hevents : after.events = middle.events)
    (htasks : ∀ task ∈ after.tasks, task ∈ middle.tasks ∨ TaskHolds middle task)
    (hcleaned : ∀ operation ∈ after.cleanedUp,
      operation ∈ middle.cleanedUp ∨ Cleaned middle operation) : Effect s after := by
  have hlater : Later middle after :=
    ⟨.of_eq (congrArg _ husb), hids ▸ List.prefix_refl _, hevents ▸ List.Subset.refl _⟩
  refine h.trans hlater ⟨hlater.usb, fun event hevent => .inl (hevents ▸ hevent),
    fun task htask => ?_, fun operation hoperation => ?_⟩
  · exact (htasks task htask).imp_right fun hholds => TaskHolds.later hholds hlater
  · exact (hcleaned operation hoperation).imp_right fun hholds => Cleaned.later hholds hlater

/-- A task more. -/
theorem Effect.startTask (h : Effect s after) {task : RegistryTask}
    (htask : TaskHolds after task) : Effect s (after.startTask task) := by
  refine h.keeps rfl rfl rfl (fun other hother => ?_) fun _ hold => .inl hold
  rcases List.mem_append.mp hother with hold | hnew
  · exact .inl hold
  · rw [List.mem_singleton.mp hnew]
    exact .inr htask

/-- A task goes on. -/
theorem Effect.setTask (h : Effect s after) (index : ℕ) {task : RegistryTask}
    (htask : TaskHolds after task) : Effect s (after.setTask index task) := by
  refine h.keeps rfl rfl rfl (fun other hother => ?_) fun _ hold => .inl hold
  rcases List.mem_or_eq_of_mem_set hother with hold | rfl
  · exact .inl hold
  · exact .inr htask

/-- The status of a reset is nothing the invariant rests on, and no id. -/
theorem setResetStatus_eq (s : DeviceRegistry) (recordId : ℕ) (status : FactoryResetStatus) :
    ∃ devices, s.setResetStatus recordId status = { s with devices := devices } ∧
      devices.map ids = s.devices.map ids := by
  unfold setResetStatus updateRow
  rw [Bool.false_and, if_neg Bool.false_ne_true]
  exact ⟨_, rfl, Places.map_modify _ fun _ _ _ => rfl⟩

theorem Effect.setResetStatus (h : Effect s after) (recordId : ℕ) (status : FactoryResetStatus) :
    Effect s (after.setResetStatus recordId status) := by
  obtain ⟨devices, hstatus, hids⟩ := setResetStatus_eq after recordId status
  rw [hstatus]
  exact h.keeps rfl hids rfl (fun _ hold => .inl hold) fun _ hold => .inl hold

/-- A removal or a restoration from the dashboard names no reset. -/
theorem vouched_of_dashboard {event : DeviceLifecycleEvent}
    (h : event.method = "dashboard_confirmed".toList) : Vouched s event := by
  refine ⟨fun hmethod => ?_, fun hmethod => ?_⟩
  · rw [h] at hmethod
    exact absurd hmethod (by decide)
  · rw [h] at hmethod
    exact absurd hmethod (by decide)

theorem effect_register (S : Settings) {request : DeviceCreate} {discovery : Discovery}
    (h : s.register S request discovery = .ok after) : Effect s after := by
  obtain ⟨-, row, -, -, rfl⟩ := inserts_register S h
  exact .quiet (.refl _) rfl rfl rfl

theorem effect_restore (S : Settings) (hbase : Invariant (tables s)) {deviceId : Text}
    {hardwareId address : Option Text} {result : LifecycleResult}
    (h : s.restore S deviceId hardwareId address = .ok (after, result)) :
    Effect s after ∧ Later s after := by
  obtain ⟨hstatements, hafter⟩ := restores_restore S h
  have husb : after.usb = s.usb := by
    rcases hafter with rfl | ⟨devices, event, rfl, -⟩ <;> rfl
  refine ⟨?_, later_of_statements (.of_eq (congrArg _ husb)) hbase.recordIds hbase.deviceIds
    hstatements⟩
  rcases hafter with rfl | ⟨devices, event, rfl, hmethod⟩
  · exact .refl _
  · exact .event (.refl _) rfl (vouched_of_dashboard hmethod) rfl rfl

/-- A removal whose method is accounted for in the state it is made in. -/
theorem effect_remove (hbase : Invariant (tables s)) {deviceId : Text} {reason : Option Text}
    {connectivityState method : Text} {requested : Bool} {now : ℕ} {result : LifecycleResult}
    (h : s.remove deviceId reason connectivityState method requested now = .ok (after, result))
    (hvouched : ∀ device event, s.get deviceId = some device → event.method = method →
      event.deviceId = deviceId → event.hardwareId = device.hardwareId → Vouched s event) :
    Effect s after ∧ after.usb = s.usb ∧ Later s after := by
  obtain ⟨hstatements, device, hget, hafter⟩ := removes_remove h
  have husb : after.usb = s.usb := by
    rcases hafter with ⟨rfl, -⟩ | ⟨devices, event, rfl, -⟩ <;> rfl
  have hlater : Later s after := later_of_statements (.of_eq (congrArg _ husb)) hbase.recordIds
    hbase.deviceIds hstatements
  refine ⟨?_, husb, hlater⟩
  rcases hafter with ⟨rfl, -⟩ | ⟨devices, event, rfl, hdevice, hhardware, hmethod, -⟩
  · exact .refl _
  · exact .event (.refl _) rfl
      ((hvouched device event hget hmethod hdevice hhardware).later hlater) rfl rfl

/-- An archived row has a removal in the log. -/
theorem exists_removal {t : Tables} (h : Invariant t) {row : DeviceRow}
    (hrow : row ∈ t.devices) (harchived : row.archived = true) :
    ∃ event ∈ t.events, event.eventType = .gatewayRemoved ∧ event.deviceId = row.deviceId := by
  have hon := (h.logged row hrow).archived.symm.trans harchived
  unfold Switch.isOn at hon
  cases hlast : (removals t.events row.deviceId).getLast? with
  | none => rw [hlast] at hon; cases hon
  | some on =>
    rw [hlast, Option.getD_some] at hon
    subst hon
    obtain ⟨event, hevent, htype⟩ := List.mem_map.mp (List.mem_of_getLast? hlast)
    obtain ⟨hlogged, hdevice⟩ := List.mem_filter.mp hevent
    exact ⟨event, hlogged, of_decide_eq_true htype, of_decide_eq_true hdevice⟩

/-- After a removal that goes through there is one in the log. -/
theorem exists_removal_of_remove (hbase : Invariant (tables s)) {deviceId : Text}
    {reason : Option Text} {connectivityState method : Text} {requested : Bool} {now : ℕ}
    {result : LifecycleResult}
    (h : s.remove deviceId reason connectivityState method requested now = .ok (after, result)) :
    ∃ event ∈ after.events, event.eventType = .gatewayRemoved ∧ event.deviceId = deviceId := by
  obtain ⟨-, device, hget, ⟨rfl, hremoved⟩ | ⟨devices, event, rfl, hdevice, -, -, htype⟩⟩ :=
    removes_remove h
  · obtain ⟨hmem, hid⟩ := mem_of_get hget
    have harchived : device.archived = true := by
      rcases hremoved with harchived | hstate
      · exact harchived
      · exact (hbase.logged device hmem).consistent.lifecycleState.mp hstate
    obtain ⟨event, hevent, htype, hdevice⟩ := exists_removal hbase hmem harchived
    exact ⟨event, hevent, htype, hdevice.trans hid⟩
  · exact ⟨event, List.mem_append_right _ (List.mem_singleton_self _), htype, hdevice⟩

/-- **The cleanup of a complete reset.** -/
theorem effect_cleanupGateway (S : Settings) (hbase : Invariant (tables s)) {operation : ℕ}
    {item : UsbResetOperation} (hitem : s.usb.operations[operation]? = some item)
    (hcomplete : item.physicalResetComplete = true) (now : ℕ) :
    Effect s (s.cleanupGateway S operation now).1 ∧
      ((s.cleanupGateway S operation now).2 = true →
        Cleaned (s.cleanupGateway S operation now).1 operation) := by
  unfold cleanupGateway
  rw [hitem]
  dsimp only
  cases hget : s.get item.deviceId with
  | none => exact ⟨.quiet (.refl _) rfl rfl rfl, nofun⟩
  | some device =>
    dsimp only
    split
    · exact ⟨.quiet (.refl _) rfl rfl rfl, nofun⟩
    · rename_i hsame
      rw [not_or, not_not, not_not] at hsame
      cases hremove : s.remove item.deviceId (some "physical_factory_reset_verified".toList)
        "resetting".toList "usb_factory_reset".toList true now with
      | error error => exact ⟨.quiet (.refl _) rfl rfl rfl, nofun⟩
      | ok result =>
        obtain ⟨removed, answer⟩ := result
        obtain ⟨heffect, husb, hlater⟩ := effect_remove hbase hremove
          fun other event hother hmethod hdevice hhardware => by
            obtain rfl := Option.some.inj (hget.symm.trans hother)
            refine ⟨fun _ => ?_, fun hworkflow => absurd (hmethod.symm.trans hworkflow) (by decide)⟩
            exact ⟨item, List.mem_of_getElem? hitem, hcomplete, hdevice.symm,
              hhardware.trans hsame.2⟩
        obtain ⟨event, hevent, htype, hdevice⟩ := exists_removal_of_remove hbase hremove
        obtain ⟨devices, hstatus, -⟩ := setResetStatus_eq removed device.recordId .complete
        refine ⟨heffect.setResetStatus _ _, fun _ => ?_⟩
        dsimp only
        rw [hstatus]
        refine ⟨item, ?_, hcomplete, event, hevent, htype, hdevice⟩
        exact (congrArg (fun usb => usb.operations[operation]?) husb).trans hitem

theorem effect_finalizerLooks (S : Settings) (hbase : Invariant (tables s)) (task now : ℕ) :
    Effect s (s.finalizerLooks S task now) := by
  unfold finalizerLooks
  split
  · rename_i operation htask
    cases hitem : s.usb.operations[operation]? with
    | none => exact .refl s
    | some item =>
      dsimp only
      split
      · exact .refl s
      · split
        · rename_i hcomplete
          obtain ⟨heffect, hcleaned⟩ := effect_cleanupGateway S hbase hitem hcomplete now
          refine heffect.setTask task ?_
          split
          · rename_i hreached
            exact hcleaned hreached
          · trivial
        · cases s.get item.deviceId with
          | none => exact (Effect.refl s).setTask task trivial
          | some device =>
            dsimp only
            split
            · exact ((Effect.refl s).setResetStatus _ _).setTask task trivial
            · exact (Effect.refl s).setTask task trivial
  · exact .refl s

theorem effect_retryCleanup (S : Settings) (hbase : Invariant (tables s)) (operation : ℕ)
    (body : ResetTarget) (now : ℕ) : Effect s (s.retryCleanup S operation body now) := by
  unfold retryCleanup
  cases hitem : s.usb.operations[operation]? with
  | none => exact .refl s
  | some item =>
    dsimp only
    split
    · exact .refl s
    · rename_i hmatches
      split
      · exact .refl s
      · have hcomplete : item.physicalResetComplete = true := by
          by_contra hfalse
          exact hmatches (.inr (.inr (.inr (Bool.eq_false_of_not_eq_true hfalse))))
        obtain ⟨heffect, hcleaned⟩ := effect_cleanupGateway S hbase hitem hcomplete now
        split
        · rename_i hreached
          exact heffect.startTask (hcleaned hreached)
        · exact heffect

/-- A removal by the workflow, whose method names a reset of the record or none. -/
theorem effect_workflowRemoves (hbase : Invariant (tables s)) (recordId : ℕ) (method : Text)
    (now : ℕ) (hreset : method ≠ "usb_factory_reset".toList)
    (hworkflow : method = "reset_reregister_workflow".toList → ∃ item ∈ s.usb.operations,
      item.physicalResetComplete = true ∧ item.recordId = recordId) :
    Effect s (s.workflowRemoves recordId method now) := by
  unfold workflowRemoves
  cases hget : s.getRecord recordId with
  | none => exact .refl s
  | some device =>
    dsimp only
    obtain ⟨hmem, hid⟩ := mem_of_getRecord hget
    cases hremove : s.remove device.deviceId (some "physical_factory_reset_verified".toList)
      "resetting".toList method true now with
    | error error => exact .refl s
    | ok result =>
      obtain ⟨removed, answer⟩ := result
      obtain ⟨heffect, -, -⟩ := effect_remove hbase hremove
        fun other event hother hmethod hdevice hhardware => by
          refine ⟨fun husb => absurd (hmethod.symm.trans husb) hreset, fun hflow => ?_⟩
          obtain ⟨item, hitem, hcomplete, hrecord⟩ := hworkflow (hmethod.symm.trans hflow)
          refine ⟨item, hitem, hcomplete, ?_⟩
          rw [hrecord, hdevice, ← hid]
          exact List.mem_map_of_mem (f := ids) hmem
      exact heffect.setResetStatus _ _

theorem effect_monitorLooks (h : Accounted s) (hbase : Invariant (tables s)) (task now : ℕ) :
    Effect s (s.monitorLooks task now) := by
  unfold monitorLooks
  split
  · rename_i operation recordId htask
    obtain ⟨item, hitem, hrecord⟩ := h.tasks _ (List.mem_of_getElem? htask)
    rw [hitem]
    dsimp only
    split
    · exact .refl s
    · split
      · rename_i hcomplete
        refine Effect.setTask (effect_workflowRemoves hbase recordId _ now (by decide) fun _ => ?_)
          task trivial
        exact ⟨item, List.mem_of_getElem? hitem, hcomplete, hrecord⟩
      · exact (Effect.refl s).setTask task trivial
  · exact .refl s

theorem effect_cleanupEnds (h : Accounted s) (task : ℕ) (raised : Option Text) :
    Effect s (s.cleanupEnds task raised) := by
  unfold cleanupEnds
  split
  · rename_i operation htask
    have hcleaned : Cleaned s operation := h.tasks _ (List.mem_of_getElem? htask)
    have hset : Effect s (s.setTask task .done) := (Effect.refl s).setTask task trivial
    cases raised with
    | some error =>
      exact hset.keeps rfl rfl rfl (fun _ hold => .inl hold) fun _ hold => .inl hold
    | none =>
      refine hset.keeps rfl rfl rfl (fun _ hold => .inl hold) fun other hother => ?_
      rcases List.mem_append.mp hother with hold | hnew
      · exact .inl hold
      · rw [List.mem_singleton.mp hnew]
        exact .inr hcleaned
  · exact .refl s

theorem effect_executeReset (s : DeviceRegistry) (token : ℕ) (body : ResetTarget) (now : ℕ) :
    Effect s (s.executeReset token body now) := by
  unfold executeReset
  cases s.get body.deviceId with
  | none => exact .refl s
  | some device =>
    dsimp only
    split
    · exact .refl s
    have husb : (s.usb.authorize token device.recordId body.deviceId body.hardwareId body.port
      now).1.operations = s.usb.operations := rfl
    generalize s.usb.authorize token device.recordId body.deviceId body.hardwareId body.port now =
      authorization at husb
    obtain ⟨usb, authorized⟩ := authorization
    cases authorized with
    | false => exact .quiet (.of_eq husb) rfl rfl rfl
    | true =>
      have heffect : Effect s { s with usb := usb } := .quiet (.of_eq husb) rfl rfl rfl
      obtain ⟨devices, hpending, hids⟩ :=
        setResetStatus_eq { s with usb := usb } device.recordId .resetPending
      rw [Bool.not_true, if_neg Bool.false_ne_true, hpending]
      have hwaiting : Effect s { s with usb := usb, devices := devices } :=
        heffect.keeps rfl hids rfl (fun _ hold => .inl hold) fun _ hold => .inl hold
      dsimp only
      cases hlaunch : usb.launch device.recordId body.deviceId body.hardwareId body.port with
      | error error => exact hwaiting.setResetStatus _ _
      | ok result =>
        obtain ⟨launched, operation⟩ := result
        have hlaunched : Effect s { s with usb := launched, devices := devices } :=
          .quiet (hwaiting.usb.trans (advances_launch hlaunch).1) rfl rfl rfl
        exact hlaunched.startTask trivial

theorem effect_workflowExecutes (s : DeviceRegistry) (token recordId : ℕ)
    (deviceId hardwareId port : Text) (now : ℕ) :
    Effect s (s.workflowExecutes token recordId deviceId hardwareId port now) := by
  unfold workflowExecutes
  have husb : (s.usb.authorize token recordId deviceId hardwareId port now).1.operations =
    s.usb.operations := rfl
  generalize s.usb.authorize token recordId deviceId hardwareId port now = authorization at husb
  obtain ⟨usb, authorized⟩ := authorization
  cases authorized with
  | false => exact .quiet (.of_eq husb) rfl rfl rfl
  | true =>
    dsimp only
    rw [Bool.not_true, if_neg Bool.false_ne_true]
    cases hlaunch : usb.launch recordId deviceId hardwareId port with
    | error error => exact .quiet (.of_eq husb) rfl rfl rfl
    | ok result =>
      obtain ⟨launched, operation⟩ := result
      obtain ⟨hadvances, item, hitem, hrecord⟩ := advances_launch hlaunch
      have husb' : Advances s.usb usb := .of_eq husb
      have hlaunched : Effect s { s with usb := launched } :=
        .quiet (husb'.trans hadvances) rfl rfl rfl
      refine Effect.startTask (hlaunched.setResetStatus _ _) ?_
      obtain ⟨devices, hpending, -⟩ :=
        setResetStatus_eq { s with usb := launched } recordId .resetPending
      rw [hpending]
      exact ⟨item, hitem, hrecord⟩

theorem effect_writes (s : DeviceRegistry) (task : ℕ) : Effect s (s.writes task) := by
  unfold DeviceRegistry.writes
  split
  · rename_i recordId hardwareId confirmation htask
    have hset : Effect s (s.setTask task .done) := (Effect.refl s).setTask task trivial
    dsimp only
    cases hupdate : (s.setTask task .done).updateRow recordId true
      fun row => { row with hardwareId := some hardwareId } with
    | some updated =>
      obtain ⟨rfl, -⟩ := updateRow_eq hupdate
      exact hset.keeps rfl (Places.map_modify _ fun _ _ _ => rfl) rfl (fun _ hold => .inl hold)
        fun _ hold => .inl hold
    | none =>
      cases confirmation with
      | none => exact hset
      | some confirmation =>
        have husb : Effect s { s with usb := (s.usb.cancel confirmation.1 recordId confirmation.2.1
            hardwareId confirmation.2.2).1 } := .quiet (.of_eq rfl) rfl rfl rfl
        exact husb.setTask task trivial
  · exact .refl s

theorem effect_confirmReset (s : DeviceRegistry) (body : ResetTarget)
    (inspection : Except Text SensorState) (now : ℕ) :
    Effect s (s.confirmReset body inspection now) := by
  unfold confirmReset
  cases s.get body.deviceId with
  | none => exact .refl s
  | some device =>
    dsimp only
    split
    · exact .refl s
    cases hprepare : s.usb.prepare device.recordId body.deviceId body.hardwareId body.port
      inspection now with
    | error error => exact .refl s
    | ok result =>
      have hprepared : Effect s { s with usb := result.1 } :=
        .quiet (advances_prepare hprepare) rfl rfl rfl
      dsimp only
      split
      · exact hprepared
      · exact hprepared.startTask trivial

theorem effect_associateUsb (s : DeviceRegistry) (deviceId hardwareId : Text)
    (inspection : Except Text SensorState) :
    Effect s (s.associateUsb deviceId hardwareId inspection) := by
  unfold associateUsb
  cases s.get deviceId with
  | none => exact .refl s
  | some device =>
    cases inspection with
    | error message => exact .refl s
    | ok state =>
      dsimp only
      repeat' split
      all_goals first | exact .refl s | exact (Effect.refl s).startTask trivial

theorem effect_consumeLifecycle (s : DeviceRegistry) (body : LifecycleExecuteRequest) (now : ℕ) :
    Effect s (s.consumeLifecycle body now).1 ∧
      tables (s.consumeLifecycle body now).1 = tables s := by
  refine ⟨?_, tables_consumeLifecycle s body now⟩
  unfold consumeLifecycle
  cases s.get body.deviceId with
  | none => exact .refl s
  | some device => exact .quiet (.refl _) rfl rfl rfl

theorem effect_executeLifecycle (S : Settings) (hbase : Invariant (tables s))
    (body : LifecycleExecuteRequest) (connectivityState : Text) (now : ℕ) :
    Effect s (s.executeLifecycle S body connectivityState now) := by
  unfold executeLifecycle
  obtain ⟨hconsumed, htables⟩ := effect_consumeLifecycle s body now
  generalize s.consumeLifecycle body now = consumed at hconsumed htables
  obtain ⟨consumed, accepted⟩ := consumed
  cases accepted with
  | false => exact hconsumed
  | true =>
    dsimp only at hconsumed htables ⊢
    rw [← htables] at hbase
    rw [Bool.not_true, if_neg Bool.false_ne_true]
    cases body.restores with
    | true =>
      rw [if_pos rfl]
      cases houtcome : consumed.restore S body.deviceId body.expectedHardwareId
        body.expectedBleAddress with
      | error error => exact hconsumed
      | ok result =>
        obtain ⟨heffect, hlater⟩ := effect_restore S hbase houtcome
        exact hconsumed.trans hlater heffect
    | false =>
      rw [if_neg Bool.false_ne_true]
      cases houtcome : consumed.remove body.deviceId body.reason connectivityState
        "dashboard_confirmed".toList false now with
      | error error => exact hconsumed
      | ok result =>
        obtain ⟨heffect, -, hlater⟩ := effect_remove hbase houtcome
          fun device event _ hmethod _ _ => vouched_of_dashboard hmethod
        exact hconsumed.trans hlater heffect

/-- A write that leaves the ids as they are. -/
theorem effect_updateRow (s : DeviceRegistry) (recordId : ℕ) (guarded : Bool)
    {f : DeviceRow → DeviceRow} : Effect s ((s.updateRow recordId guarded f).getD s) := by
  cases hupdate : s.updateRow recordId guarded f with
  | none => exact .refl s
  | some updated =>
    obtain ⟨rfl, -⟩ := updateRow_eq hupdate
    exact .quiet (.refl _) rfl rfl rfl

theorem effect_confirmLifecycle (s : DeviceRegistry) (restores : Bool) (deviceId : Text)
    (hardwareId address : Option Text) (purgedAt now : ℕ) :
    Effect s (s.confirmLifecycle restores deviceId hardwareId address purgedAt now) := by
  unfold confirmLifecycle
  cases s.get deviceId with
  | none => exact .refl s
  | some device =>
    dsimp only
    split
    · exact .refl s
    split
    · exact .refl s
    split
    · exact .refl s
    · exact .quiet (.refl _) rfl rfl rfl

theorem effect_workflowRestores (S : Settings) (hbase : Invariant (tables s)) (recordId : ℕ)
    (hardwareId bleAddress displayName : Text) (location : Option Text) :
    Effect s (s.workflowRestores S recordId hardwareId bleAddress displayName location) := by
  unfold workflowRestores
  cases s.getRecord recordId with
  | none => exact .refl s
  | some source =>
    dsimp only
    cases hrestore : s.restore S source.deviceId (some hardwareId) (some bleAddress) with
    | error error => exact .refl s
    | ok result =>
      obtain ⟨restored, answer⟩ := result
      refine Effect.keeps (effect_restore S hbase hrestore).1 rfl ?_ rfl (fun _ hold => .inl hold)
        fun _ hold => .inl hold
      exact Places.map_modify _ fun _ _ _ => rfl

theorem effect_workflowRegisters (S : Settings) (s : DeviceRegistry) (body : DeviceCreate)
    (discovery : Discovery) (hardwareId : Text) :
    Effect s (s.workflowRegisters S body discovery hardwareId) := by
  unfold workflowRegisters
  cases hregister : s.register S body { discovery with stableDeviceId := some body.deviceId } with
  | error error => exact .refl s
  | ok registered =>
    have heffect := effect_register S hregister
    dsimp only
    cases hupdate : registered.updateRow s.nextRecordId true fun row =>
      { row with hardwareId := some hardwareId, factoryResetStatus := .complete } with
    | none => exact heffect
    | some updated =>
      obtain ⟨rfl, -⟩ := updateRow_eq hupdate
      exact heffect.keeps rfl (Places.map_modify _ fun _ _ _ => rfl) rfl (fun _ hold => .inl hold)
        fun _ hold => .inl hold

theorem effect_importEnds (s : DeviceRegistry) (address nodeId : Text)
    (displayName location name : Option Text) :
    Effect s (s.importEnds address nodeId displayName location name) := by
  unfold importEnds
  split
  · exact .refl s
  · rename_i hnone
    split
    · exact .refl s
    · rename_i after hcreate
      rw [Bool.or_eq_true, not_or, Option.not_isSome_iff_eq_none, Option.not_isSome_iff_eq_none]
        at hnone
      obtain ⟨-, rfl⟩ := inserts_create hcreate rfl
        (fun _ hsome => Option.some.inj hsome ▸ hnone.2) rfl rfl rfl rfl
      exact .quiet (.refl _) rfl rfl rfl

/-- **One event.** -/
theorem effect_next (S : Settings) (h : Accounted s) (hbase : Invariant (tables s))
    (event : RegistryEvent) : Effect s (s.next S event) := by
  cases event with
  | register body discovery =>
    cases discovery with
    | none => exact .refl s
    | some discovery =>
      simp only [next]
      cases hregister : s.register S body discovery with
      | error error => exact .refl s
      | ok registered => exact effect_register S hregister
  | patch deviceId body =>
    simp only [next, patch]
    cases s.get deviceId with
    | none => exact .refl s
    | some device =>
      dsimp only
      split
      · exact .refl s
      split
      · exact .refl s
      · exact effect_updateRow s _ _
  | confirmLifecycle restores deviceId hardwareId address purgedAt now =>
    exact effect_confirmLifecycle s restores deviceId hardwareId address purgedAt now
  | executeLifecycle body connectivityState now =>
    exact effect_executeLifecycle S hbase body connectivityState now
  | cancelLifecycle body now => exact (effect_consumeLifecycle s body now).1
  | confirmReset body inspection now => exact effect_confirmReset s body inspection now
  | associateUsb deviceId hardwareId inspection =>
    exact effect_associateUsb s deviceId hardwareId inspection
  | writes task => exact effect_writes s task
  | executeReset token body now => exact effect_executeReset s token body now
  | cancelReset token body =>
    simp only [next, cancelReset]
    cases s.get body.deviceId with
    | none => exact .refl s
    | some device => exact .quiet (.of_eq rfl) rfl rfl rfl
  | usbRuns operation exchange => exact .quiet (advances_run s.usb operation exchange) rfl rfl rfl
  | usbReadsBack operation reading =>
    exact .quiet (advances_readBack s.usb operation reading) rfl rfl rfl
  | finalizerLooks task now => exact effect_finalizerLooks S hbase task now
  | cleanupEnds task raised => exact effect_cleanupEnds h task raised
  | retryCleanup operation body now => exact effect_retryCleanup S hbase operation body now
  | workflowPrepares recordId deviceId hardwareId port inspection now =>
    simp only [next]
    split
    · exact .refl s
    · rename_i usb token hprepare
      exact .quiet (advances_prepare hprepare) rfl rfl rfl
  | workflowExecutes token recordId deviceId hardwareId port now =>
    exact effect_workflowExecutes s token recordId deviceId hardwareId port now
  | workflowCancels token recordId deviceId hardwareId port => exact .quiet (.of_eq rfl) rfl rfl rfl
  | monitorLooks task now => exact effect_monitorLooks h hbase task now
  | workflowRecovers recordId verified now =>
    simp only [next, workflowRecovers]
    split
    · exact effect_workflowRemoves hbase recordId _ now (by decide)
        fun hmethod => absurd hmethod (by decide)
    · exact .refl s
  | workflowRestores recordId hardwareId bleAddress displayName location =>
    exact effect_workflowRestores S hbase recordId hardwareId bleAddress displayName location
  | workflowRegisters body discovery hardwareId =>
    exact effect_workflowRegisters S s body discovery hardwareId
  | commissionEnds body discovery =>
    simp only [next, commissionEnds]
    split
    · exact .refl s
    · rename_i registered hregister
      exact effect_register S hregister
  | importEnds address nodeId displayName location name =>
    exact effect_importEnds s address nodeId displayName location name

/-- A run from an empty database. -/
theorem accounted_after (S : Settings) (events : List RegistryEvent) :
    Accounted (Runs.after (next S) {} events) := by
  have hstart : Accounted {} ∧ Invariant (tables {}) := by
    refine ⟨⟨?_, ?_, ?_, ?_⟩, invariant_after S []⟩ <;>
      exact fun _ hmem => absurd hmem List.not_mem_nil
  refine (Runs.after_invariant (next S) (I := fun s => Accounted s ∧ Invariant (tables s)) hstart
    (fun s event h => ?_) events).1
  have heffect := effect_next S h.1 h.2 event
  have hstatements := statements_next S h.2.recordIds event
  have hlater := later_of_statements heffect.usb h.2.recordIds h.2.deviceIds hstatements
  exact ⟨h.1.step hlater heffect.events heffect.tasks heffect.cleaned,
    h.2.statements hstatements⟩

end ResetRemovals

open Registry Registry.DeviceRegistry RegistryIdentities ResetRemovals

end SeedMg24.Analysis
