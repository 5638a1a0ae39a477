import Mathlib.Logic.Relation
import SeedMg24.Foundation.Runs
import SeedMg24.Model.DeviceRegistry

/-!
# What the registry writes

Whatever happens to the registry, its tables change by statements of five kinds: a new row, a change
of columns that say nothing about a row's life, a hardware id, a removal and a restoration.  What
every statement keeps holds along every run.
-/

set_option autoImplicit false

namespace SeedMg24.Analysis

open Foundation SeedMg24.Model

namespace RegistryStatements

open Registry Registry.DeviceRegistry

/-- The rows of the devices, and the events of their lives. -/
structure Tables where
  devices : List DeviceRow
  events : List DeviceLifecycleEvent

/-- The tables of a registry. -/
def tables (s : DeviceRegistry) : Tables := ⟨s.devices, s.events⟩

/-- Whether a trigger aborts a statement that makes a row. -/
def isTaken (t : Tables) (row : DeviceRow) : Bool :=
  Places.isTaken DeviceRow.recordId DeviceRow.activeHardwareId t.devices row

/-- A table with one row changed. -/
def Tables.modify (t : Tables) (recordId : ℕ) (f : DeviceRow → DeviceRow) : Tables :=
  { t with devices := Places.modify DeviceRow.recordId t.devices recordId f }

/-- A change that leaves the columns of a row's identity and life as they are. -/
structure Describes (row changed : DeviceRow) : Prop where
  recordId : changed.recordId = row.recordId
  deviceId : changed.deviceId = row.deviceId
  bleAddress : changed.bleAddress = row.bleAddress
  hardwareId : changed.hardwareId = row.hardwareId
  archived : changed.archived = row.archived
  lifecycleState : changed.lifecycleState = row.lifecycleState
  removedAt : changed.removedAt = row.removedAt
  /-- a removed row stays disabled -/
  enabled : row.archived = true → changed.enabled = row.enabled

theorem Describes.rfl {row : DeviceRow} : Describes row row :=
  ⟨Eq.refl _, Eq.refl _, Eq.refl _, Eq.refl _, Eq.refl _, Eq.refl _, Eq.refl _, fun _ => Eq.refl _⟩

/-- A row as it is made. -/
structure IsNew (t : Tables) (row : DeviceRow) : Prop where
  recordId : ∀ other ∈ t.devices, other.recordId ≠ row.recordId
  deviceId : ∀ other ∈ t.devices, other.deviceId ≠ row.deviceId
  bleAddress : ∀ address, row.bleAddress = some address →
    ∀ other ∈ t.devices, other.archived = false → other.bleAddress ≠ some address
  hardwareId : row.hardwareId = none
  archived : row.archived = false
  lifecycleState : row.lifecycleState = .active
  removedAt : row.removedAt = none

/-- One statement. -/
inductive Statement : Tables → Tables → Prop
  | inserts (t : Tables) (row : DeviceRow) (hnew : IsNew t row) :
      Statement t { t with devices := t.devices ++ [row] }
  | describes (t : Tables) (recordId : ℕ) (f : DeviceRow → DeviceRow)
      (hdescribes : ∀ row ∈ t.devices, row.recordId = recordId → Describes row (f row)) :
      Statement t (t.modify recordId f)
  | associates (t : Tables) (recordId : ℕ) (hardwareId : Option Text)
      (f : DeviceRow → DeviceRow)
      (hdescribes : ∀ row, Describes { row with hardwareId := hardwareId } (f row))
      (hfree : ∀ row ∈ t.devices, row.recordId = recordId → isTaken t (f row) = false) :
      Statement t (t.modify recordId f)
  | removes (t : Tables) (device : DeviceRow) (reason : Option Text) (now : ℕ)
      (event : DeviceLifecycleEvent) (hdevice : device ∈ t.devices)
      (hactive : device.archived = false ∧ device.lifecycleState ≠ .removed)
      (hevent : event.eventType = .gatewayRemoved ∧ event.deviceId = device.deviceId) :
      Statement t { t.modify device.recordId (·.removed reason now) with
        events := t.events ++ [event] }
  | restores (t : Tables) (device : DeviceRow) (event : DeviceLifecycleEvent)
      (hdevice : device ∈ t.devices)
      (hinactive : device.archived = true ∨ device.lifecycleState ≠ .active)
      (hfree : ∀ row ∈ t.devices, row.recordId = device.recordId →
        isTaken t row.restored = false)
      (hevent : event.eventType = .gatewayRestored ∧ event.deviceId = device.deviceId ∧
        event.bleAddress = device.bleAddress) :
      Statement t { t.modify device.recordId (·.restored) with events := t.events ++ [event] }

/-- Several statements. -/
abbrev Statements : Tables → Tables → Prop := Relation.ReflTransGen Statement

/-! ## Lookups -/

theorem mem_of_get {s : DeviceRegistry} {deviceId : Text} {device : DeviceRow}
    (h : s.get deviceId = some device) : device ∈ s.devices ∧ device.deviceId = deviceId := by
  have hfound := List.find?_some h
  exact ⟨List.mem_of_find?_eq_some h, of_decide_eq_true hfound⟩

theorem mem_of_getRecord {s : DeviceRegistry} {recordId : ℕ} {device : DeviceRow}
    (h : s.getRecord recordId = some device) :
    device ∈ s.devices ∧ device.recordId = recordId := by
  have hfound := List.find?_some h
  exact ⟨List.mem_of_find?_eq_some h, of_decide_eq_true hfound⟩

theorem lt_nextRecordId {s : DeviceRegistry} {row : DeviceRow} (h : row ∈ s.devices) :
    row.recordId < s.nextRecordId := by
  have hle : ∀ (ids : List ℕ) (n : ℕ), n ∈ ids → n ≤ ids.foldr max 0 := by
    intro ids n hn
    induction ids with
    | nil => cases hn
    | cons m ids ih =>
      rcases List.mem_cons.mp hn with rfl | hn
      · exact le_max_left _ _
      · exact le_max_of_le_right (ih hn)
  exact Nat.lt_succ_of_le (hle _ _ (List.mem_map_of_mem h))

/-! ## The writes of the repository -/

/-- A write that is not aborted. -/
theorem updateRow_eq {s after : DeviceRegistry} {recordId : ℕ} {guarded : Bool}
    {f : DeviceRow → DeviceRow} (h : s.updateRow recordId guarded f = some after) :
    after = { s with devices := Places.modify DeviceRow.recordId s.devices recordId f } ∧
      (guarded = true → ∀ row ∈ s.devices, row.recordId = recordId →
        isTaken (tables s) (f row) = false) := by
  unfold updateRow at h
  split at h
  · cases h
  · rename_i hfree
    refine ⟨(Option.some.inj h).symm, fun hguarded row hrow hid => ?_⟩
    rw [hguarded, Bool.true_and, List.any_eq_true] at hfree
    by_contra htaken
    refine hfree ⟨row, hrow, ?_⟩
    rw [hid, decide_eq_true rfl, Bool.true_and]
    exact Bool.of_not_eq_false htaken

/-- A change of columns that say nothing about a row's life. -/
theorem describes_updateRow (s : DeviceRegistry) (recordId : ℕ)
    {f : DeviceRow → DeviceRow}
    (hdescribes : ∀ row ∈ s.devices, row.recordId = recordId → Describes row (f row)) :
    Statements (tables s) (tables ((s.updateRow recordId false f).getD s)) := by
  unfold updateRow
  rw [Bool.false_and, if_neg Bool.false_ne_true, Option.getD_some]
  exact .single (.describes (tables s) recordId f hdescribes)

theorem describes_setResetStatus (s : DeviceRegistry) (recordId : ℕ)
    (status : FactoryResetStatus) :
    Statements (tables s) (tables (s.setResetStatus recordId status)) :=
  describes_updateRow s recordId fun _ _ _ => ⟨rfl, rfl, rfl, rfl, rfl, rfl, rfl, fun _ => rfl⟩

/-- A new row. -/
theorem inserts_create {s after : DeviceRegistry} {row : DeviceRow}
    (h : s.create row = .ok after) (hid : row.recordId = s.nextRecordId)
    (haddress : ∀ address, row.bleAddress = some address → s.getByBleAddress address = none)
    (hhardware : row.hardwareId = none) (harchived : row.archived = false)
    (hstate : row.lifecycleState = .active) (hremoved : row.removedAt = none) :
    Statements (tables s) (tables after) ∧ after = { s with devices := s.devices ++ [row] } := by
  unfold create at h
  cases hinsert : s.insert row with
  | none => rw [hinsert] at h; cases h
  | some inserted =>
    rw [hinsert] at h
    obtain rfl := Except.ok.inj h
    unfold DeviceRegistry.insert at hinsert
    split at hinsert
    · cases hinsert
    · rename_i hunique
      obtain rfl := Option.some.inj hinsert
      rw [Bool.or_eq_true, not_or, List.any_eq_true] at hunique
      refine ⟨.single (.inserts (tables s) row ?_), rfl⟩
      refine ⟨fun other hother => ?_, fun other hother hsame => ?_,
        fun address hsome other hother hactive hsame => ?_, hhardware, harchived, hstate, hremoved⟩
      · rw [hid]
        exact (lt_nextRecordId hother).ne
      · exact hunique.1 ⟨other, hother, decide_eq_true hsame⟩
      · refine List.find?_eq_none.mp (haddress address hsome) other hother ?_
        rw [hsame, hactive, decide_eq_true rfl]
        rfl

/-! ## The services -/

/-- A registration makes one row, with the id that comes next. -/
theorem inserts_register (S : Settings) {s after : DeviceRegistry} {request : DeviceCreate}
    {discovery : Discovery} (h : s.register S request discovery = .ok after) :
    Statements (tables s) (tables after) ∧
      ∃ row, row.recordId = s.nextRecordId ∧ row.hardwareId = none ∧
        after = { s with devices := s.devices ++ [row] } := by
  unfold register at h
  split at h
  · cases h
  split at h
  · cases h
  split at h
  · cases h
  cases haddress : s.getByBleAddress discovery.address with
  | some existing => rw [haddress] at h; cases h
  | none =>
    rw [haddress] at h
    dsimp only at h
    split at h
    · cases h
    split at h
    · cases h
    obtain ⟨hstatements, hafter⟩ := inserts_create h rfl
      (fun address hsome => Option.some.inj hsome ▸ haddress) rfl rfl rfl rfl
    exact ⟨hstatements, _, rfl, rfl, hafter⟩

/-- A removal: nothing, or one row and one event. -/
theorem removes_remove {s after : DeviceRegistry} {deviceId : Text} {reason : Option Text}
    {connectivityState method : Text} {requested : Bool} {now : ℕ} {result : LifecycleResult}
    (h : s.remove deviceId reason connectivityState method requested now = .ok (after, result)) :
    Statements (tables s) (tables after) ∧ ∃ device, s.get deviceId = some device ∧
      ((after = s ∧ (device.archived = true ∨ device.lifecycleState = .removed)) ∨
        ∃ devices event, after = { s with devices := devices, events := s.events ++ [event] } ∧
          event.deviceId = deviceId ∧ event.hardwareId = device.hardwareId ∧
          event.method = method ∧ event.eventType = .gatewayRemoved) := by
  unfold remove at h
  cases hget : s.get deviceId with
  | none => rw [hget] at h; cases h
  | some device =>
    rw [hget] at h
    obtain ⟨hmem, hid⟩ := mem_of_get hget
    dsimp only at h
    split at h
    · rename_i hremoved
      obtain ⟨rfl, -⟩ := Prod.mk.inj (Except.ok.inj h)
      rw [Bool.or_eq_true, decide_eq_true_iff] at hremoved
      exact ⟨.refl, device, rfl, .inl ⟨rfl, hremoved⟩⟩
    · rename_i hactive
      cases hupdate : s.updateRow device.recordId true (·.removed reason now) with
      | none => rw [hupdate] at h; cases h
      | some updated =>
        rw [hupdate] at h
        obtain ⟨rfl, -⟩ := updateRow_eq hupdate
        obtain ⟨rfl, -⟩ := Prod.mk.inj (Except.ok.inj h)
        rw [Bool.or_eq_true, not_or, Bool.not_eq_true, decide_eq_true_iff] at hactive
        exact ⟨.single (.removes (tables s) device reason now _ hmem hactive ⟨rfl, rfl⟩),
          device, rfl, .inr ⟨_, _, rfl, hid, rfl, rfl, rfl⟩⟩

/-- A restoration: nothing, or one row and one event. -/
theorem restores_restore (S : Settings) {s after : DeviceRegistry} {deviceId : Text}
    {hardwareId address : Option Text} {result : LifecycleResult}
    (h : s.restore S deviceId hardwareId address = .ok (after, result)) :
    Statements (tables s) (tables after) ∧ (after = s ∨ ∃ devices event,
      after = { s with devices := devices, events := s.events ++ [event] } ∧
        event.method = "dashboard_confirmed".toList) := by
  unfold restore at h
  cases hget : s.get deviceId with
  | none => rw [hget] at h; cases h
  | some device =>
    rw [hget] at h
    obtain ⟨hmem, -⟩ := mem_of_get hget
    dsimp only at h
    split at h
    · obtain ⟨rfl, -⟩ := Prod.mk.inj (Except.ok.inj h)
      exact ⟨.refl, .inl rfl⟩
    · rename_i hinactive
      split at h
      · cases h
      split at h
      · cases h
      split at h
      · cases h
      cases hupdate : s.updateRow device.recordId true (·.restored) with
      | none => rw [hupdate] at h; cases h
      | some updated =>
        rw [hupdate] at h
        obtain ⟨rfl, hfree⟩ := updateRow_eq hupdate
        obtain ⟨rfl, -⟩ := Prod.mk.inj (Except.ok.inj h)
        have hstate : device.archived = true ∨ device.lifecycleState ≠ .active := by
          rw [Bool.and_eq_true, Bool.not_eq_true', decide_eq_true_iff, not_and_or,
            Bool.not_eq_false] at hinactive
          exact hinactive
        exact ⟨.single (.restores (tables s) device _ hmem hstate (hfree rfl) ⟨rfl, rfl, rfl⟩),
          .inr ⟨_, _, rfl, rfl⟩⟩

/-! ## The endpoints -/

theorem statements_patch {s : DeviceRegistry}
    (hids : (s.devices.map DeviceRow.recordId).Nodup) (deviceId : Text)
    (body : DeviceUpdate) : Statements (tables s) (tables (s.patch deviceId body)) := by
  unfold patch
  cases hget : s.get deviceId with
  | none => exact .refl
  | some device =>
    obtain ⟨hmem, -⟩ := mem_of_get hget
    dsimp only
    split
    · exact .refl
    · rename_i hactive
      split
      · exact .refl
      · refine describes_updateRow s _ fun row hrow hid => ?_
        obtain rfl := List.inj_on_of_nodup_map hids hrow hmem hid
        unfold updated
        split
        · exact .rfl
        · exact ⟨rfl, rfl, rfl, rfl, rfl, rfl, rfl, fun harchived => absurd harchived hactive⟩

theorem tables_confirmLifecycle (s : DeviceRegistry) (restores : Bool) (deviceId : Text)
    (hardwareId address : Option Text) (purgedAt now : ℕ) :
    tables (s.confirmLifecycle restores deviceId hardwareId address purgedAt now) = tables s := by
  unfold confirmLifecycle
  cases s.get deviceId with
  | none => rfl
  | some device =>
    dsimp only
    split
    · rfl
    split
    · rfl
    split <;> rfl

theorem tables_consumeLifecycle (s : DeviceRegistry) (body : LifecycleExecuteRequest) (now : ℕ) :
    tables (s.consumeLifecycle body now).1 = tables s := by
  unfold consumeLifecycle
  cases s.get body.deviceId <;> rfl

theorem statements_executeLifecycle (S : Settings) (s : DeviceRegistry)
    (body : LifecycleExecuteRequest) (connectivityState : Text) (now : ℕ) :
    Statements (tables s) (tables (s.executeLifecycle S body connectivityState now)) := by
  unfold executeLifecycle
  have hconsumed := tables_consumeLifecycle s body now
  generalize s.consumeLifecycle body now = consumed at hconsumed
  obtain ⟨consumed, accepted⟩ := consumed
  rw [← hconsumed]
  cases accepted with
  | false => exact .refl
  | true =>
    dsimp only
    rw [Bool.not_true, if_neg Bool.false_ne_true]
    cases body.restores with
    | true =>
      rw [if_pos rfl]
      cases houtcome : consumed.restore S body.deviceId body.expectedHardwareId
        body.expectedBleAddress with
      | error error => exact .refl
      | ok result => exact (restores_restore S houtcome).1
    | false =>
      rw [if_neg Bool.false_ne_true]
      cases houtcome : consumed.remove body.deviceId body.reason connectivityState
        "dashboard_confirmed".toList false now with
      | error error => exact .refl
      | ok result => exact (removes_remove houtcome).1

theorem tables_confirmReset (s : DeviceRegistry) (body : ResetTarget)
    (inspection : Except Text SensorState) (now : ℕ) :
    tables (s.confirmReset body inspection now) = tables s := by
  unfold confirmReset
  cases s.get body.deviceId with
  | none => rfl
  | some device =>
    dsimp only
    split
    · rfl
    cases s.usb.prepare device.recordId body.deviceId body.hardwareId body.port inspection now with
    | error error => rfl
    | ok result =>
      dsimp only
      split <;> rfl

theorem tables_associateUsb (s : DeviceRegistry) (deviceId hardwareId : Text)
    (inspection : Except Text SensorState) :
    tables (s.associateUsb deviceId hardwareId inspection) = tables s := by
  unfold associateUsb
  cases s.get deviceId with
  | none => rfl
  | some device =>
    cases inspection with
    | error message => rfl
    | ok state =>
      dsimp only
      repeat' split
      all_goals rfl

theorem statements_writes (s : DeviceRegistry) (task : ℕ) :
    Statements (tables s) (tables (s.writes task)) := by
  unfold DeviceRegistry.writes
  split
  · rename_i recordId hardwareId confirmation htask
    dsimp only
    cases hupdate : (s.setTask task .done).updateRow recordId true
      fun row => { row with hardwareId := some hardwareId } with
    | some updated =>
      obtain ⟨rfl, hfree⟩ := updateRow_eq hupdate
      exact .single (.associates (tables s) recordId (some hardwareId) _ (fun _ => .rfl)
        (hfree rfl))
    | none =>
      cases confirmation with
      | none => exact .refl
      | some confirmation => exact .refl
  · exact .refl

theorem statements_executeReset (s : DeviceRegistry) (token : ℕ) (body : ResetTarget) (now : ℕ) :
    Statements (tables s) (tables (s.executeReset token body now)) := by
  unfold executeReset
  cases s.get body.deviceId with
  | none => exact .refl
  | some device =>
    dsimp only
    split
    · exact .refl
    generalize s.usb.authorize token device.recordId body.deviceId body.hardwareId body.port now =
      authorization
    obtain ⟨usb, authorized⟩ := authorization
    cases authorized with
    | false => exact .refl
    | true =>
      have hpending := describes_setResetStatus { s with usb := usb } device.recordId .resetPending
      generalize DeviceRegistry.setResetStatus { s with usb := usb } device.recordId .resetPending =
        pending at hpending
      rw [Bool.not_true, if_neg Bool.false_ne_true]
      cases pending.usb.launch device.recordId body.deviceId body.hardwareId body.port with
      | error error =>
        exact hpending.trans (describes_setResetStatus pending device.recordId .resetFailed)
      | ok result => exact hpending

theorem tables_cancelReset (s : DeviceRegistry) (token : ℕ) (body : ResetTarget) :
    tables (s.cancelReset token body) = tables s := by
  unfold cancelReset
  cases s.get body.deviceId <;> rfl

theorem statements_cleanupGateway (S : Settings) (s : DeviceRegistry) (operation now : ℕ) :
    Statements (tables s) (tables (s.cleanupGateway S operation now).1) := by
  unfold cleanupGateway
  cases s.usb.operations[operation]? with
  | none => exact .refl
  | some item =>
    dsimp only
    cases s.get item.deviceId with
    | none => exact .refl
    | some device =>
      dsimp only
      split
      · exact .refl
      cases hremove : s.remove item.deviceId (some "physical_factory_reset_verified".toList)
        "resetting".toList "usb_factory_reset".toList true now with
      | error error => exact .refl
      | ok result =>
        obtain ⟨removed, answer⟩ := result
        exact (removes_remove hremove).1.trans (describes_setResetStatus removed _ .complete)

theorem statements_finalizerLooks (S : Settings) (s : DeviceRegistry) (task now : ℕ) :
    Statements (tables s) (tables (s.finalizerLooks S task now)) := by
  unfold finalizerLooks
  split
  · rename_i operation htask
    cases s.usb.operations[operation]? with
    | none => exact .refl
    | some item =>
      dsimp only
      split
      · exact .refl
      split
      · exact statements_cleanupGateway S s operation now
      · cases s.get item.deviceId with
        | none => exact .refl
        | some device =>
          dsimp only
          split
          · exact describes_setResetStatus s _ .resetFailed
          · exact .refl
  · exact .refl

theorem tables_cleanupEnds (s : DeviceRegistry) (task : ℕ) (raised : Option Text) :
    tables (s.cleanupEnds task raised) = tables s := by
  unfold cleanupEnds
  split
  · cases raised <;> rfl
  · rfl

theorem statements_retryCleanup (S : Settings) (s : DeviceRegistry) (operation : ℕ)
    (body : ResetTarget) (now : ℕ) :
    Statements (tables s) (tables (s.retryCleanup S operation body now)) := by
  unfold retryCleanup
  cases s.usb.operations[operation]? with
  | none => exact .refl
  | some item =>
    dsimp only
    split
    · exact .refl
    split
    · exact .refl
    have hcleanup := statements_cleanupGateway S s operation now
    split <;> exact hcleanup

theorem statements_workflowExecutes (s : DeviceRegistry) (token recordId : ℕ)
    (deviceId hardwareId port : Text) (now : ℕ) :
    Statements (tables s)
      (tables (s.workflowExecutes token recordId deviceId hardwareId port now)) := by
  unfold workflowExecutes
  generalize s.usb.authorize token recordId deviceId hardwareId port now = authorization
  obtain ⟨usb, authorized⟩ := authorization
  cases authorized with
  | false => exact .refl
  | true =>
    dsimp only
    rw [Bool.not_true, if_neg Bool.false_ne_true]
    cases usb.launch recordId deviceId hardwareId port with
    | error error => exact .refl
    | ok result => exact describes_setResetStatus { s with usb := result.1 } recordId .resetPending

theorem statements_workflowRemoves (s : DeviceRegistry) (recordId : ℕ) (method : Text) (now : ℕ) :
    Statements (tables s) (tables (s.workflowRemoves recordId method now)) := by
  unfold workflowRemoves
  cases s.getRecord recordId with
  | none => exact .refl
  | some device =>
    dsimp only
    cases hremove : s.remove device.deviceId (some "physical_factory_reset_verified".toList)
      "resetting".toList method true now with
    | error error => exact .refl
    | ok result =>
      obtain ⟨removed, answer⟩ := result
      exact (removes_remove hremove).1.trans (describes_setResetStatus removed _ .complete)

theorem statements_monitorLooks (s : DeviceRegistry) (task now : ℕ) :
    Statements (tables s) (tables (s.monitorLooks task now)) := by
  unfold monitorLooks
  split
  · rename_i operation recordId htask
    cases s.usb.operations[operation]? with
    | none => exact .refl
    | some item =>
      dsimp only
      split
      · exact .refl
      split
      · exact statements_workflowRemoves s recordId _ now
      · exact .refl
  · exact .refl

theorem statements_workflowRestores (S : Settings) (s : DeviceRegistry) (recordId : ℕ)
    (hardwareId bleAddress displayName : Text) (location : Option Text) :
    Statements (tables s)
      (tables (s.workflowRestores S recordId hardwareId bleAddress displayName location)) := by
  unfold workflowRestores
  cases s.getRecord recordId with
  | none => exact .refl
  | some source =>
    dsimp only
    cases hrestore : s.restore S source.deviceId (some hardwareId) (some bleAddress) with
    | error error => exact .refl
    | ok result =>
      obtain ⟨restored, answer⟩ := result
      refine (restores_restore S hrestore).1.trans (describes_updateRow restored recordId ?_)
      exact fun _ _ _ => ⟨rfl, rfl, rfl, rfl, rfl, rfl, rfl, fun _ => rfl⟩

theorem statements_workflowRegisters (S : Settings) (s : DeviceRegistry) (body : DeviceCreate)
    (discovery : Discovery) (hardwareId : Text) :
    Statements (tables s) (tables (s.workflowRegisters S body discovery hardwareId)) := by
  unfold workflowRegisters
  cases hregister : s.register S body { discovery with stableDeviceId := some body.deviceId } with
  | error error => exact .refl
  | ok registered =>
    refine (inserts_register S hregister).1.trans ?_
    dsimp only
    cases hupdate : registered.updateRow s.nextRecordId true fun row =>
      { row with hardwareId := some hardwareId, factoryResetStatus := .complete } with
    | none => exact .refl
    | some updated =>
      obtain ⟨rfl, hfree⟩ := updateRow_eq hupdate
      refine .single (.associates (tables registered) s.nextRecordId (some hardwareId) _ ?_
        (hfree rfl))
      exact fun _ => ⟨rfl, rfl, rfl, rfl, rfl, rfl, rfl, fun _ => rfl⟩

theorem statements_importEnds (s : DeviceRegistry) (address nodeId : Text)
    (displayName location name : Option Text) :
    Statements (tables s) (tables (s.importEnds address nodeId displayName location name)) := by
  unfold importEnds
  split
  · exact .refl
  · rename_i hnone
    rw [Bool.or_eq_true, not_or, Option.not_isSome_iff_eq_none, Option.not_isSome_iff_eq_none]
      at hnone
    split
    · exact .refl
    · rename_i created hcreate
      exact (inserts_create hcreate rfl (fun _ hsome => Option.some.inj hsome ▸ hnone.2) rfl rfl rfl
        rfl).1

/-- **What one event does to the tables.** -/
theorem statements_next (S : Settings) {s : DeviceRegistry}
    (hids : (s.devices.map DeviceRow.recordId).Nodup) (event : RegistryEvent) :
    Statements (tables s) (tables (s.next S event)) := by
  cases event with
  | register body discovery =>
    cases discovery with
    | none => exact .refl
    | some discovery =>
      simp only [next]
      cases hregister : s.register S body discovery with
      | error error => exact .refl
      | ok registered => exact (inserts_register S hregister).1
  | patch deviceId body => exact statements_patch hids deviceId body
  | confirmLifecycle restores deviceId hardwareId address purgedAt now =>
    rw [next, tables_confirmLifecycle]
  | executeLifecycle body connectivityState now =>
    exact statements_executeLifecycle S s body connectivityState now
  | cancelLifecycle body now => rw [next, tables_consumeLifecycle]
  | confirmReset body inspection now => rw [next, tables_confirmReset]
  | associateUsb deviceId hardwareId inspection => rw [next, tables_associateUsb]
  | writes task => exact statements_writes s task
  | executeReset token body now => exact statements_executeReset s token body now
  | cancelReset token body => rw [next, tables_cancelReset]
  | usbRuns operation exchange => exact .refl
  | usbReadsBack operation reading => exact .refl
  | finalizerLooks task now => exact statements_finalizerLooks S s task now
  | cleanupEnds task raised => rw [next, tables_cleanupEnds]
  | retryCleanup operation body now => exact statements_retryCleanup S s operation body now
  | workflowPrepares recordId deviceId hardwareId port inspection now =>
    simp only [next]
    split <;> exact .refl
  | workflowExecutes token recordId deviceId hardwareId port now =>
    exact statements_workflowExecutes s token recordId deviceId hardwareId port now
  | workflowCancels token recordId deviceId hardwareId port => exact .refl
  | monitorLooks task now => exact statements_monitorLooks s task now
  | workflowRecovers recordId verified now =>
    simp only [next, workflowRecovers]
    split
    · exact statements_workflowRemoves s recordId _ now
    · exact .refl
  | workflowRestores recordId hardwareId bleAddress displayName location =>
    exact statements_workflowRestores S s recordId hardwareId bleAddress displayName location
  | workflowRegisters body discovery hardwareId =>
    exact statements_workflowRegisters S s body discovery hardwareId
  | commissionEnds body discovery =>
    simp only [next, commissionEnds]
    split
    · exact .refl
    · rename_i registered hregister
      exact (inserts_register S hregister).1
  | importEnds address nodeId displayName location name =>
    exact statements_importEnds s address nodeId displayName location name

end RegistryStatements

end SeedMg24.Analysis
