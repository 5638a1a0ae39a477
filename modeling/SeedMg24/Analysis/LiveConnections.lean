import SeedMg24.Foundation.FirstOccurrences
import SeedMg24.Foundation.Runs
import SeedMg24.Model.BleManager

/-!
# Which devices are managed

A removal or a disabling takes the connection of its device away at once.  Whatever schedules a
connection without a look at its device brings it back: a configuration read or write, an apply and
a scan when they end, and the restoration of a device that is not removed.
-/

set_option autoImplicit false

namespace SeedMg24.Analysis

open Foundation Foundation.Runs Model Model.BleManager

/-! ## Keys -/

/-- The keys of the connections. -/
def keys (s : BleManager) : List Text := s.connections.map Prod.fst

theorem manages_iff {s : BleManager} {deviceId : Text} :
    s.manages deviceId = true ↔ deviceId ∈ keys s := by
  unfold manages keys
  rw [List.any_eq_true, List.mem_map]
  simp

/-- SOURCE: manager.py:30-55 -/
theorem mem_keys_schedule {s : BleManager} {deviceId address k : Text} :
    k ∈ keys (s.schedule deviceId address) ↔ k ∈ keys s ∨ k = deviceId := by
  unfold schedule
  split
  · rename_i hmanaged
    have hmem : deviceId ∈ keys s := manages_iff.mp hmanaged
    have hkeys : (s.connections.map fun connection =>
        if connection.1 = deviceId then (deviceId, address) else connection).map Prod.fst =
        s.connections.map Prod.fst := by
      rw [List.map_map]
      apply List.map_congr_left
      intro connection _
      by_cases h : connection.1 = deviceId <;> simp [h]
    unfold keys at hmem ⊢
    rw [hkeys]
    constructor
    · exact Or.inl
    · rintro (h | rfl)
      · exact h
      · exact hmem
  · simp [keys]

/-- SOURCE: manager.py:63 -/
theorem mem_keys_pop {s : BleManager} {deviceId k : Text} :
    k ∈ keys (s.pop deviceId) ↔ k ∈ keys s ∧ k ≠ deviceId := by
  unfold keys pop
  simp only [List.mem_map, List.mem_filter, decide_eq_true_eq]
  constructor
  · rintro ⟨connection, ⟨hmem, hne⟩, rfl⟩
    exact ⟨⟨connection, hmem, rfl⟩, hne⟩
  · rintro ⟨⟨connection, hmem, rfl⟩, hne⟩
    exact ⟨connection, ⟨hmem, hne⟩, rfl⟩

theorem keys_forget (s : BleManager) (forgets : Option Text) : keys (s.forget forgets) = keys s := by
  cases forgets <;> rfl

theorem devices_forget (s : BleManager) (forgets : Option Text) :
    (s.forget forgets).devices = s.devices := by
  cases forgets <;> rfl

theorem devices_schedule (s : BleManager) (deviceId address : Text) :
    (s.schedule deviceId address).devices = s.devices := by
  unfold schedule
  split <;> rfl

/-- A removal takes its key away, whether or not it suspends. -/
theorem mem_keys_removeThen {s : BleManager} {deviceId k : Text} {forgets : Option Text} :
    k ∈ keys (s.removeThen deviceId forgets) ↔ k ∈ keys s ∧ k ≠ deviceId := by
  unfold removeThen
  split
  · exact mem_keys_pop
  · rename_i hnot
    rw [manages_iff] at hnot
    rw [keys_forget]
    constructor
    · intro h
      exact ⟨h, fun heq => hnot (heq ▸ h)⟩
    · exact And.left

theorem devices_removeThen (s : BleManager) (deviceId : Text) (forgets : Option Text) :
    (s.removeThen deviceId forgets).devices = s.devices := by
  unfold removeThen
  split
  · rfl
  · exact devices_forget s forgets

/-- The removals of a pause only take keys away.
SOURCE: manager.py:62-65, 72-73 -/
theorem popFirst_frame (s : BleManager) (remaining : List Text) :
    (s.popFirst remaining).1.devices = s.devices ∧
      ∀ k ∈ keys (s.popFirst remaining).1, k ∈ keys s := by
  induction remaining with
  | nil => exact ⟨rfl, fun _ h => h⟩
  | cons deviceId remaining ih =>
    unfold popFirst
    split
    · exact ⟨rfl, fun k hk => (mem_keys_pop.mp hk).1⟩
    · exact ih

/-! ## Live devices -/

/-- Whether an id is that of a device that is enabled and not archived. -/
def live (s : BleManager) (deviceId : Text) : Bool :=
  (s.getDevice deviceId).any fun device => device.enabled && !device.archived

/-- Only such devices are managed. -/
def OnlyLive (s : BleManager) : Prop := ∀ k ∈ keys s, live s k = true

/-- No operation is in progress. -/
def Quiescent (s : BleManager) : Prop := ∀ t ∈ s.tasks, t = .done

theorem live_congr {s s' : BleManager} (h : s'.devices = s.devices) (k : Text) :
    live s' k = live s k := by
  unfold live getDevice
  rw [h]

/-- What takes keys away keeps the managed devices live. -/
theorem OnlyLive.of_subset {s s' : BleManager} (h : OnlyLive s) (hdevices : s'.devices = s.devices)
    (hkeys : ∀ k ∈ keys s', k ∈ keys s) : OnlyLive s' := by
  intro k hk
  rw [live_congr hdevices]
  exact h k (hkeys k hk)

/-- Scheduling a connection keeps the managed devices live exactly when its device is. -/
theorem onlyLive_schedule {s : BleManager} (h : OnlyLive s) (deviceId address : Text) :
    OnlyLive (s.schedule deviceId address) ↔ live s deviceId = true := by
  have hdevices := live_congr (devices_schedule s deviceId address)
  constructor
  · intro hall
    rw [← hdevices]
    exact hall deviceId (mem_keys_schedule.mpr (.inr rfl))
  · intro hlive k hk
    rw [hdevices]
    rcases mem_keys_schedule.mp hk with hk | rfl
    · exact h k hk
    · exact hlive

theorem devices_scheduleAll (s : BleManager) (scheduled : List (Text × Text)) :
    (s.scheduleAll scheduled).devices = s.devices := by
  induction scheduled generalizing s with
  | nil => rfl
  | cons connection scheduled ih => exact (ih _).trans (devices_schedule s _ _)

/-- SOURCE: manager.py:77-78 -/
theorem mem_keys_scheduleAll {s : BleManager} {scheduled : List (Text × Text)} {k : Text} :
    k ∈ keys (s.scheduleAll scheduled) ↔ k ∈ keys s ∨ k ∈ scheduled.map Prod.fst := by
  induction scheduled generalizing s with
  | nil => simp [scheduleAll]
  | cons connection scheduled ih =>
    have hall : s.scheduleAll (connection :: scheduled) =
        (s.schedule connection.1 connection.2).scheduleAll scheduled := rfl
    rw [hall, ih, mem_keys_schedule, List.map_cons, List.mem_cons, or_assoc]

/-- Scheduling several connections keeps the managed devices live exactly when theirs are. -/
theorem onlyLive_scheduleAll {s : BleManager} (h : OnlyLive s) (scheduled : List (Text × Text)) :
    OnlyLive (s.scheduleAll scheduled) ↔ ∀ k ∈ scheduled.map Prod.fst, live s k = true := by
  have hdevices := live_congr (devices_scheduleAll s scheduled)
  constructor
  · intro hall k hk
    rw [← hdevices]
    exact hall k (mem_keys_scheduleAll.mpr (.inr hk))
  · intro hlive k hk
    rw [hdevices]
    rcases mem_keys_scheduleAll.mp hk with hk | hk
    · exact h k hk
    · exact hlive k hk

theorem getDevice_updateDevice (s : BleManager) (deviceId : Text)
    {f : RegisteredDevice → RegisteredDevice} (hf : ∀ device, (f device).deviceId = device.deviceId)
    (k : Text) : (s.updateDevice deviceId f).getDevice k =
      if k = deviceId then (s.getDevice k).map f else s.getDevice k := by
  unfold updateDevice getDevice
  exact find?_update RegisteredDevice.deviceId hf deviceId k s.devices

/-- Other devices stay as they are. -/
theorem live_updateDevice_of_ne {s : BleManager} {deviceId k : Text}
    {f : RegisteredDevice → RegisteredDevice} (hf : ∀ device, (f device).deviceId = device.deviceId)
    (h : k ≠ deviceId) : live (s.updateDevice deviceId f) k = live s k := by
  unfold live
  rw [getDevice_updateDevice s deviceId hf, if_neg h]

/-! ## One event -/

/-- The ids of the connections an event schedules without a look at their devices: at the end of a
configuration read or write, of an apply and of a scan, and at the restoration of a device that is
not removed.
SOURCE: nodes.py:92, 137; provisioning_service.py:75; manager.py:77-78; device_lifecycle.py:97-99 -/
def rescheduled (s : BleManager) : ManagerEvent → List Text
  | .resumes task | .raises task =>
    match s.tasks[task]? with
    | some (.working nodeId _ _) => [nodeId]
    | some (.scanning scheduled) => scheduled.map Prod.fst
    | _ => []
  | .lifecycleRestore deviceId _ =>
    match s.getDevice deviceId with
    | none => []
    | some device => if device.archived || device.bleAddress.isNone then [] else [deviceId]
  | _ => []

/-- Each of these devices is enabled and not archived at that moment. -/
def ReschedulesLive (s : BleManager) (e : ManagerEvent) : Prop :=
  ∀ deviceId ∈ rescheduled s e, live s deviceId = true

instance (s : BleManager) (e : ManagerEvent) : Decidable (ReschedulesLive s e) :=
  inferInstanceAs (Decidable (∀ deviceId ∈ rescheduled s e, live s deviceId = true))

/-- A device that is switched off or removed is not managed any more. -/
theorem onlyLive_removeThen {s : BleManager} (h : OnlyLive s) {deviceId : Text}
    {f : RegisteredDevice → RegisteredDevice} (hf : ∀ device, (f device).deviceId = device.deviceId)
    (forgets : Option Text) :
    OnlyLive ((s.updateDevice deviceId f).removeThen deviceId forgets) := by
  intro k hk
  obtain ⟨hmem, hne⟩ := mem_keys_removeThen.mp hk
  rw [live_congr (devices_removeThen _ deviceId forgets), live_updateDevice_of_ne hf hne]
  exact h k hmem

/-- A device that is switched on is live. -/
theorem onlyLive_updateDevice {s : BleManager} (h : OnlyLive s) {deviceId : Text}
    {f : RegisteredDevice → RegisteredDevice} (hf : ∀ device, (f device).deviceId = device.deviceId)
    (hlive : live (s.updateDevice deviceId f) deviceId = true) :
    OnlyLive (s.updateDevice deviceId f) := by
  intro k hk
  by_cases hk' : k = deviceId
  · rw [hk']
    exact hlive
  · rw [live_updateDevice_of_ne hf hk']
    exact h k hk

/-- The pause of a scan goes on. -/
theorem onlyLive_pauseRest {s : BleManager} (h : OnlyLive s) (task : ℕ) (remaining : List Text)
    (scheduled : List (Text × Text)) : OnlyLive (s.pauseRest task remaining scheduled) := by
  obtain ⟨hdevices, hkeys⟩ := popFirst_frame s remaining
  unfold pauseRest
  split
  · rename_i s' remaining' heq
    rw [heq] at hdevices hkeys
    exact h.of_subset hdevices hkeys
  · rename_i s' heq
    rw [heq] at hdevices hkeys
    exact h.of_subset hdevices hkeys

/-- A new row is found after all others. -/
theorem getDevice_append (s : BleManager) (device : RegisteredDevice) (k : Text) :
    ({ s with devices := s.devices ++ [device] } : BleManager).getDevice k =
      (s.getDevice k).or (if device.deviceId = k then some device else none) := by
  unfold getDevice
  rw [List.find?_append, List.find?_singleton]
  simp only [decide_eq_true_eq]

theorem onlyLive_append {s : BleManager} (h : OnlyLive s) (device : RegisteredDevice) :
    OnlyLive ({ s with devices := s.devices ++ [device] } : BleManager) := by
  intro k hk
  have hlive := h k hk
  unfold live at hlive ⊢
  rw [getDevice_append]
  cases hdevice : s.getDevice k with
  | none =>
    rw [hdevice] at hlive
    cases hlive
  | some found =>
    rw [hdevice] at hlive
    exact hlive

/-- A registered device is live.
SOURCE: device_service.py:32-41 -/
theorem onlyLive_register {s : BleManager} (h : OnlyLive s) (deviceId address : Text)
    (accepted : Bool) : OnlyLive (s.register deviceId address accepted) := by
  unfold register
  split
  · exact h
  rename_i hchecked
  have hnew : s.getDevice deviceId = none := by
    cases hdevice : s.getDevice deviceId with
    | none => rfl
    | some device => simp [hdevice] at hchecked
  dsimp only
  rw [onlyLive_schedule (onlyLive_append h _)]
  unfold live
  rw [getDevice_append, hnew, if_pos rfl]
  rfl

/-- The operation of a PATCH or a connect on a device that is not archived. -/
theorem onlyLive_enabled {s : BleManager} (h : OnlyLive s) {deviceId : Text}
    (hlive : live s deviceId = true) (address : Option Text) :
    OnlyLive (match address with
      | none => s
      | some address => s.schedule deviceId address) := by
  cases address with
  | none => exact h
  | some address => exact (onlyLive_schedule h deviceId address).mpr hlive

/-- Making way for the provisioner only takes a key away.
SOURCE: nodes.py:88, 125 -/
theorem onlyLive_clearTheWay {s : BleManager} (h : OnlyLive s) (nodeId address : Text)
    (result : Option (Text × Text)) : OnlyLive (s.clearTheWay nodeId address result) := by
  unfold clearTheWay
  split
  · exact h.of_subset rfl fun k hk => (mem_keys_pop.mp hk).1
  · exact h.of_subset rfl fun k hk => hk

/-- A device that is enabled is managed, and one that is disabled is not.
SOURCE: devices.py:73-84 -/
theorem onlyLive_patch {s : BleManager} (h : OnlyLive s) (deviceId : Text)
    (enabled : Option Bool) : OnlyLive (s.patch deviceId enabled) := by
  unfold patch
  split
  · exact h
  rename_i device hdevice
  split
  · exact h
  rename_i hpresent
  split
  · exact h
  · exact onlyLive_removeThen h (f := (·.withEnabled false)) (fun _ => rfl) none
  · have hlive : live (s.updateDevice deviceId (·.withEnabled true)) deviceId = true := by
      unfold live
      rw [getDevice_updateDevice s deviceId (f := (·.withEnabled true)) (fun _ => rfl), if_pos rfl,
        hdevice]
      simpa [RegisteredDevice.withEnabled] using hpresent
    exact onlyLive_enabled
      (onlyLive_updateDevice h (f := (·.withEnabled true)) (fun _ => rfl) hlive) hlive
      device.bleAddress

theorem onlyLive_connect {s : BleManager} (h : OnlyLive s) (deviceId : Text) :
    OnlyLive (s.connect deviceId) := by
  unfold connect
  split
  · exact h
  rename_i device hdevice
  split
  · exact h
  rename_i hchecked
  have hlive : live s deviceId = true := by
    unfold live
    rw [hdevice]
    simp only [Bool.or_eq_true, not_or, Bool.not_eq_true, Bool.not_eq_false'] at hchecked
    simp [hchecked.1, hchecked.2]
  exact onlyLive_enabled h hlive device.bleAddress

theorem onlyLive_readConfiguration {s : BleManager} (h : OnlyLive s) (nodeId : Text) :
    OnlyLive (s.readConfiguration nodeId) := by
  unfold readConfiguration
  split
  · exact h
  · exact onlyLive_clearTheWay h nodeId _ none

theorem onlyLive_configure {s : BleManager} (h : OnlyLive s) (nodeId transactionId : Text) :
    OnlyLive (s.configure nodeId transactionId) := by
  unfold configure
  split
  · exact h
  split
  · exact h
  · exact onlyLive_clearTheWay h nodeId _ _

theorem onlyLive_applyConfiguration {s : BleManager} (h : OnlyLive s)
    (nodeId interfaceId : Text) : OnlyLive (s.applyConfiguration nodeId interfaceId) := by
  unfold applyConfiguration
  split
  · exact h
  split
  · exact h
  · exact h.of_subset rfl fun k hk => (mem_keys_pop.mp hk).1

theorem onlyLive_lifecycleRemove {s : BleManager} (h : OnlyLive s) (deviceId : Text) :
    OnlyLive (s.lifecycleRemove deviceId) := by
  unfold lifecycleRemove
  split
  · exact h
  dsimp only
  split
  · apply h.of_subset (devices_removeThen s deviceId _)
    intro k hk
    exact (mem_keys_removeThen.mp hk).1
  · exact onlyLive_removeThen h (f := (·.removed)) (fun _ => rfl) (some deviceId)

/-- An event that schedules nothing again. -/
theorem onlyLive_iff_of_nil {s after : BleManager} {e : ManagerEvent}
    (hnothing : rescheduled s e = []) (h : OnlyLive after) :
    OnlyLive after ↔ ReschedulesLive s e := by
  refine iff_of_true h fun deviceId hdevice => ?_
  rw [hnothing] at hdevice
  cases hdevice

theorem onlyLive_lifecycleRestore_iff {s : BleManager} (h : OnlyLive s) (deviceId : Text)
    (identified : Bool) :
    OnlyLive (s.lifecycleRestore deviceId identified) ↔
      ReschedulesLive s (.lifecycleRestore deviceId identified) := by
  dsimp only [ReschedulesLive, rescheduled]
  unfold lifecycleRestore
  cases hdevice : s.getDevice deviceId with
  | none => simpa using h
  | some device =>
    dsimp only
    cases harchived : device.archived with
    | true =>
      simp only [Bool.true_and, Bool.true_or, if_true, List.not_mem_nil, false_imp_iff,
        implies_true, iff_true]
      split
      · exact h
      · have hlive : live (s.updateDevice deviceId (·.restored)) deviceId = true := by
          unfold live
          rw [getDevice_updateDevice s deviceId (f := (·.restored)) (fun _ => rfl), if_pos rfl,
            hdevice]
          rfl
        exact onlyLive_enabled
          (onlyLive_updateDevice h (f := (·.restored)) (fun _ => rfl) hlive) hlive
          device.bleAddress
    | false =>
      simp only [Bool.false_and, Bool.false_or, Bool.false_eq_true, if_false]
      cases haddress : device.bleAddress with
      | none => simpa using h
      | some address => simpa using onlyLive_schedule h deviceId address

theorem onlyLive_resumes_iff {s : BleManager} (h : OnlyLive s) (task : ℕ) :
    OnlyLive (s.resumes task) ↔ ReschedulesLive s (.resumes task) := by
  dsimp only [ReschedulesLive, rescheduled]
  unfold resumes
  cases htask : s.tasks[task]? with
  | none => simpa using h
  | some t =>
    cases t with
    | stopping forgets =>
      simp only [List.not_mem_nil, false_imp_iff, implies_true, iff_true]
      apply h.of_subset (devices_forget s forgets)
      intro k hk
      rw [← keys_forget s forgets]
      exact hk
    | clearing nodeId address result =>
      simp only [List.not_mem_nil, false_imp_iff, implies_true, iff_true]
      exact h.of_subset rfl fun k hk => hk
    | working nodeId address result =>
      simp only [List.mem_singleton, forall_eq]
      exact onlyLive_schedule h nodeId address
    | waitingToPause =>
      simp only [List.not_mem_nil, false_imp_iff, implies_true, iff_true]
      split
      · exact h
      · have hlocked : OnlyLive { s with pauseLocked := true } := h.of_subset rfl fun k hk => hk
        exact onlyLive_pauseRest hlocked task _ _
    | pausing remaining scheduled =>
      simp only [List.not_mem_nil, false_imp_iff, implies_true, iff_true]
      exact onlyLive_pauseRest h task remaining scheduled
    | scanning scheduled =>
      have hunlocked : OnlyLive { s with pauseLocked := false } := h.of_subset rfl fun k hk => hk
      exact onlyLive_scheduleAll hunlocked scheduled
    | done => simpa using h

theorem onlyLive_raises_iff {s : BleManager} (h : OnlyLive s) (task : ℕ) :
    OnlyLive (s.raises task) ↔ ReschedulesLive s (.raises task) := by
  dsimp only [ReschedulesLive, rescheduled]
  unfold raises
  cases htask : s.tasks[task]? with
  | none => simpa using h
  | some t =>
    cases t with
    | working nodeId address result =>
      simp only [List.mem_singleton, forall_eq]
      exact onlyLive_schedule h nodeId address
    | scanning scheduled =>
      have hunlocked : OnlyLive { s with pauseLocked := false } := h.of_subset rfl fun k hk => hk
      exact onlyLive_scheduleAll hunlocked scheduled
    | stopping | clearing | waitingToPause | pausing | done =>
      simp only [List.not_mem_nil, false_imp_iff, implies_true, iff_true]
      exact h.of_subset rfl fun k hk => hk

/-- **An event keeps the managed devices live exactly when those it schedules again are.** -/
theorem onlyLive_next {s : BleManager} (h : OnlyLive s) (e : ManagerEvent) :
    OnlyLive (s.next e) ↔ ReschedulesLive s e := by
  cases e with
  | register deviceId address accepted =>
    exact onlyLive_iff_of_nil rfl (onlyLive_register h deviceId address accepted)
  | patch deviceId enabled => exact onlyLive_iff_of_nil rfl (onlyLive_patch h deviceId enabled)
  | connect deviceId => exact onlyLive_iff_of_nil rfl (onlyLive_connect h deviceId)
  | readConfiguration nodeId =>
    exact onlyLive_iff_of_nil rfl (onlyLive_readConfiguration h nodeId)
  | configure nodeId transactionId =>
    exact onlyLive_iff_of_nil rfl (onlyLive_configure h nodeId transactionId)
  | applyConfiguration nodeId interfaceId =>
    exact onlyLive_iff_of_nil rfl (onlyLive_applyConfiguration h nodeId interfaceId)
  | lifecycleRemove deviceId => exact onlyLive_iff_of_nil rfl (onlyLive_lifecycleRemove h deviceId)
  | lifecycleRestore deviceId identified => exact onlyLive_lifecycleRestore_iff h deviceId identified
  | scan => exact onlyLive_iff_of_nil rfl (h.of_subset rfl fun k hk => hk)
  | resumes task => exact onlyLive_resumes_iff h task
  | raises task => exact onlyLive_raises_iff h task

/-! ## Runs -/

/-- A row is found under its id. -/
theorem find_row (devices : DeviceTable) {device : RegisteredDevice}
    (h : device ∈ devices.rows) :
    devices.rows.find? (fun d => decide (d.deviceId = device.deviceId)) = some device := by
  cases hfind : devices.rows.find? (fun d => decide (d.deviceId = device.deviceId)) with
  | none => exact absurd (List.find?_eq_none.mp hfind device h) (by simp)
  | some found =>
    have hid : found.deviceId = device.deviceId := by simpa using List.find?_some hfind
    rw [List.inj_on_of_nodup_map devices.distinct (List.mem_of_find?_eq_some hfind) h hid]

/-- The gateway starts with live devices only.
SOURCE: main.py:139-142 -/
theorem onlyLive_start (devices : DeviceTable) : OnlyLive (start devices) := by
  intro k hk
  unfold keys at hk
  obtain ⟨connection, hconnection, rfl⟩ := List.mem_map.mp hk
  obtain ⟨device, hdevice, hscheduled⟩ := List.mem_filterMap.mp hconnection
  split at hscheduled
  · cases hscheduled
  · rename_i hlive
    obtain ⟨address, -, rfl⟩ := Option.map_eq_some_iff.mp hscheduled
    unfold live getDevice
    rw [show (start devices).devices = devices.rows from rfl, find_row devices hdevice]
    simpa [and_comm] using hlive

/-- The managed devices are live in every state of a run exactly as long as those that are scheduled
again are.
SOURCE: manager.py:30-78 -/
theorem always_onlyLive_iff (devices : DeviceTable) (events : List ManagerEvent) :
    Always next OnlyLive (start devices) events ↔
      Throughout next ReschedulesLive (start devices) events := by
  apply always_iff_throughout next (I := fun _ => True) trivial (onlyLive_start devices)
  · intro s e _
    trivial
  · intro s e _ h
    exact onlyLive_next h e

/-- **Only live devices are managed when no operation is in progress, along every run in which the
devices that are scheduled again are live.**  For every table of devices and every interleaving of
the operations.
SOURCE: manager.py:30-78; nodes.py:83-137; device_lifecycle.py:85-99;
provisioning_service.py:59-79 -/
theorem onlyLive_of_reschedulesLive (devices : DeviceTable) (events : List ManagerEvent)
    (h : Throughout next ReschedulesLive (start devices) events) :
    Always next (fun s => Quiescent s → OnlyLive s) (start devices) events := by
  intro before hbefore _
  exact (always_onlyLive_iff devices events).mpr h before hbefore

/-- A table with one device. -/
def oneDevice : DeviceTable where
  rows := [{ deviceId := "MG24-0001".toList, bleAddress := some "AA".toList }]
  distinct := by simp

/-- The configuration of an enabled device is read while a scan waits. -/
theorem onlyLive_of_reschedulesLive_read :
    Always next (fun s => Quiescent s → OnlyLive s) (start oneDevice)
      [.readConfiguration "MG24-0001".toList, .scan, .resumes 0, .resumes 1, .resumes 0,
        .resumes 1] := by
  apply onlyLive_of_reschedulesLive
  decide +kernel

/-- A device is disabled, and then its configuration is read: the read brings its connection back.
SOURCE: devices.py:80-81; nodes.py:85-92 -/
theorem not_onlyLive_read :
    ¬ Always next (fun s => Quiescent s → OnlyLive s) (start oneDevice)
      [.patch "MG24-0001".toList (some false), .resumes 0, .readConfiguration "MG24-0001".toList,
        .resumes 1] := by
  intro h
  have hlast := h.last
  have hstate : after next (start oneDevice) [.patch "MG24-0001".toList (some false), .resumes 0,
      .readConfiguration "MG24-0001".toList, .resumes 1] = {
        devices := [{
          deviceId := "MG24-0001".toList
          bleAddress := some "AA".toList
          enabled := false }]
        connections := [("MG24-0001".toList, "AA".toList)]
        tasks := [.done, .done] } := by decide +kernel
  rw [hstate] at hlast
  have hquiescent : Quiescent {
      devices := [{
        deviceId := "MG24-0001".toList
        bleAddress := some "AA".toList
        enabled := false }]
      connections := [("MG24-0001".toList, "AA".toList)]
      tasks := [.done, .done] } := by
    intro t ht
    simpa using ht
  have hlive := hlast hquiescent "MG24-0001".toList (by simp [keys])
  exact absurd hlive (by decide +kernel)

end SeedMg24.Analysis
