import SeedMg24.Analysis.RegistryStatements
import SeedMg24.Foundation.Alternation

/-!
# Logs of the devices' lives

The events of a device tell its state: it was removed and restored in turns, and it is archived
exactly when the last of its events is a removal.
-/

set_option autoImplicit false

namespace SeedMg24.Analysis

open Foundation SeedMg24.Model

namespace LifecycleLogs

open Registry Registry.DeviceRegistry RegistryStatements

/-- The removals, and the other events, of a device. -/
def removals (events : List DeviceLifecycleEvent) (deviceId : Text) : List Bool :=
  (events.filter (·.deviceId = deviceId)).map fun event => event.eventType = .gatewayRemoved

/-- A row whose columns fit together. -/
structure IsConsistent (row : DeviceRow) : Prop where
  lifecycleState : row.lifecycleState = .removed ↔ row.archived = true
  removedAt : row.removedAt.isSome = row.archived
  enabled : row.archived = true → row.enabled = false

/-- A row whose columns fit together and the events of its device. -/
structure IsLogged (events : List DeviceLifecycleEvent) (row : DeviceRow) : Prop where
  consistent : IsConsistent row
  alternates : Switch.Alternates (removals events row.deviceId)
  archived : row.archived = Switch.isOn (removals events row.deviceId)

/-- The events are about rows, and tell their states. -/
structure Invariant (t : Tables) : Prop where
  recordIds : (t.devices.map DeviceRow.recordId).Nodup
  deviceIds : (t.devices.map DeviceRow.deviceId).Nodup
  about : ∀ event ∈ t.events, event.deviceId ∈ t.devices.map DeviceRow.deviceId
  logged : ∀ row ∈ t.devices, IsLogged t.events row

variable {t : Tables}

theorem removals_snoc (events : List DeviceLifecycleEvent) (event : DeviceLifecycleEvent)
    (deviceId : Text) : removals (events ++ [event]) deviceId =
      if event.deviceId = deviceId then
        removals events deviceId ++ [decide (event.eventType = .gatewayRemoved)]
      else removals events deviceId := by
  unfold removals
  rw [List.filter_append, List.filter_singleton]
  by_cases hsame : event.deviceId = deviceId
  · rw [decide_eq_true hsame, if_pos hsame, List.map_append]
    rfl
  · rw [decide_eq_false hsame, if_neg hsame, cond_false, List.append_nil]

theorem removals_eq_nil {events : List DeviceLifecycleEvent} {deviceId : Text}
    (h : ∀ event ∈ events, event.deviceId ≠ deviceId) : removals events deviceId = [] := by
  unfold removals
  rw [List.filter_eq_nil_iff.mpr fun event hevent hsame => h event hevent (of_decide_eq_true hsame)]
  rfl

/-- A change that leaves a row's life as it is. -/
theorem IsLogged.of_describes {events : List DeviceLifecycleEvent} {row changed : DeviceRow}
    (h : IsLogged events row) (hdescribes : Describes row changed) : IsLogged events changed := by
  obtain ⟨-, hdevice, -, -, harchived, hstate, hremoved, henabled⟩ := hdescribes
  refine ⟨⟨?_, ?_, fun hgone => ?_⟩, ?_, ?_⟩
  · rw [hstate, harchived]
    exact h.consistent.lifecycleState
  · rw [hremoved, harchived]
    exact h.consistent.removedAt
  · rw [harchived] at hgone
    rw [henabled hgone]
    exact h.consistent.enabled hgone
  · rw [hdevice]
    exact h.alternates
  · rw [hdevice, harchived]
    exact h.archived

/-- A change of one row that no event tells of. -/
theorem Invariant.keeps (h : Invariant t) {recordId : ℕ} {f : DeviceRow → DeviceRow}
    (hids : ∀ row ∈ t.devices, row.recordId = recordId →
      (f row).recordId = row.recordId ∧ (f row).deviceId = row.deviceId)
    (hlogged : ∀ row ∈ t.devices, row.recordId = recordId → IsLogged t.events (f row)) :
    Invariant (t.modify recordId f) := by
  have hrecord : (t.modify recordId f).devices.map DeviceRow.recordId =
      t.devices.map DeviceRow.recordId :=
    Places.map_modify _ fun row hrow hid => (hids row hrow hid).1
  have hdevice : (t.modify recordId f).devices.map DeviceRow.deviceId =
      t.devices.map DeviceRow.deviceId :=
    Places.map_modify _ fun row hrow hid => (hids row hrow hid).2
  refine ⟨hrecord ▸ h.recordIds, hdevice ▸ h.deviceIds, fun event hevent => ?_, fun row hrow => ?_⟩
  · rw [hdevice]
    exact h.about event hevent
  · rcases Places.mem_modify.mp hrow with ⟨hrow, -⟩ | ⟨old, hold, hid, rfl⟩
    · exact h.logged row hrow
    · exact hlogged old hold hid

/-- A change of one row, and the event it is told by. -/
theorem Invariant.turns (h : Invariant t) {device : DeviceRow}
    (hdevice : device ∈ t.devices) {f : DeviceRow → DeviceRow}
    (hids : ∀ row, (f row).recordId = row.recordId ∧ (f row).deviceId = row.deviceId)
    {event : DeviceLifecycleEvent} (hevent : event.deviceId = device.deviceId)
    (hconsistent : IsConsistent (f device))
    (hturn : (f device).archived = !device.archived)
    (htype : (f device).archived = decide (event.eventType = .gatewayRemoved)) :
    Invariant { t.modify device.recordId f with events := t.events ++ [event] } := by
  have hrecord : (t.modify device.recordId f).devices.map DeviceRow.recordId =
      t.devices.map DeviceRow.recordId := Places.map_modify _ fun row _ _ => (hids row).1
  have hdeviceIds : (t.modify device.recordId f).devices.map DeviceRow.deviceId =
      t.devices.map DeviceRow.deviceId := Places.map_modify _ fun row _ _ => (hids row).2
  refine ⟨?_, ?_, fun other hother => ?_, fun row hrow => ?_⟩
  · show ((t.modify device.recordId f).devices.map DeviceRow.recordId).Nodup
    rw [hrecord]
    exact h.recordIds
  · show ((t.modify device.recordId f).devices.map DeviceRow.deviceId).Nodup
    rw [hdeviceIds]
    exact h.deviceIds
  · show other.deviceId ∈ (t.modify device.recordId f).devices.map DeviceRow.deviceId
    rw [hdeviceIds]
    rcases List.mem_append.mp hother with hold | hnew
    · exact h.about other hold
    · rw [List.mem_singleton.mp hnew, hevent]
      exact List.mem_map_of_mem hdevice
  · rcases Places.mem_modify.mp hrow with ⟨hrow, hother⟩ | ⟨old, hold, hsame, rfl⟩
    · -- another row: the event is not about its device
      have hne : event.deviceId ≠ row.deviceId := by
        intro hsame
        refine hother ?_
        rw [List.inj_on_of_nodup_map h.deviceIds hdevice hrow (hevent.symm.trans hsame)]
      obtain ⟨hcolumns, halternates, harchived⟩ := h.logged row hrow
      exact ⟨hcolumns, by rwa [removals_snoc, if_neg hne], by rwa [removals_snoc, if_neg hne]⟩
    · obtain rfl := List.inj_on_of_nodup_map h.recordIds hold hdevice hsame
      obtain ⟨-, halternates, harchived⟩ := h.logged old hold
      have hlog : removals (t.events ++ [event]) (f old).deviceId =
          removals t.events old.deviceId ++ [decide (event.eventType = .gatewayRemoved)] := by
        rw [(hids old).2, removals_snoc, if_pos hevent]
      refine ⟨hconsistent, ?_, ?_⟩
      · rw [hlog]
        refine halternates.snoc ?_
        rw [← htype, hturn, harchived]
      · rw [hlog, Switch.isOn_snoc, htype]

/-- **One statement.** -/
theorem Invariant.statement {after : Tables} (h : Invariant t) (hstatement : Statement t after) :
    Invariant after := by
  cases hstatement with
  | inserts row hnew =>
    refine ⟨?_, ?_, fun event hevent => ?_, fun other hother => ?_⟩
    · rw [List.map_append]
      refine h.recordIds.append (List.nodup_singleton _) fun id hid hrow => ?_
      obtain ⟨other, hother, rfl⟩ := List.mem_map.mp hid
      exact hnew.recordId other hother (List.mem_singleton.mp hrow)
    · rw [List.map_append]
      refine h.deviceIds.append (List.nodup_singleton _) fun id hid hrow => ?_
      obtain ⟨other, hother, rfl⟩ := List.mem_map.mp hid
      exact hnew.deviceId other hother (List.mem_singleton.mp hrow)
    · rw [List.map_append]
      exact List.mem_append_left _ (h.about event hevent)
    · rcases List.mem_append.mp hother with hold | hrow
      · exact h.logged other hold
      · obtain rfl := List.mem_singleton.mp hrow
        have hnone : removals t.events other.deviceId = [] := by
          refine removals_eq_nil fun event hevent hsame => ?_
          obtain ⟨old, hold, hid⟩ := List.mem_map.mp (h.about event hevent)
          exact hnew.deviceId old hold (hid.trans hsame)
        refine ⟨⟨?_, ?_, ?_⟩, ?_, ?_⟩
        · rw [hnew.lifecycleState, hnew.archived]
          exact ⟨nofun, nofun⟩
        · rw [hnew.removedAt, hnew.archived]
          rfl
        · rw [hnew.archived]
          exact nofun
        · rw [hnone]
          exact Switch.alternates_nil
        · rw [hnone, hnew.archived]
          rfl
  | describes recordId f hdescribes =>
    refine h.keeps (fun row hrow hid => ?_) fun row hrow hid =>
      (h.logged row hrow).of_describes (hdescribes row hrow hid)
    exact ⟨(hdescribes row hrow hid).recordId, (hdescribes row hrow hid).deviceId⟩
  | associates recordId hardwareId f hdescribes hfree =>
    refine h.keeps (fun row _ _ => ⟨(hdescribes row).recordId, (hdescribes row).deviceId⟩)
      fun row hrow hid => ?_
    obtain ⟨⟨hstate, hremoved, henabled⟩, halternates, harchived⟩ := h.logged row hrow
    have hlogged : IsLogged t.events { row with hardwareId := hardwareId } :=
      ⟨⟨hstate, hremoved, henabled⟩, halternates, harchived⟩
    exact hlogged.of_describes (hdescribes row)
  | removes device reason now event hdevice hactive hevent =>
    refine h.turns hdevice (f := (·.removed reason now)) (fun row => ⟨rfl, rfl⟩) hevent.2
      ⟨⟨fun _ => rfl, fun _ => rfl⟩, rfl, fun _ => rfl⟩ ?_ ?_
    · rw [hactive.1]
      rfl
    · rw [hevent.1]
      rfl
  | restores device event hdevice hinactive hfree hevent =>
    have harchived : device.archived = true := by
      rcases hinactive with harchived | hstate
      · exact harchived
      · refine (h.logged device hdevice).consistent.lifecycleState.mp ?_
        cases hlife : device.lifecycleState with
        | active => exact absurd hlife hstate
        | removed => rfl
    refine h.turns hdevice (f := (·.restored)) (fun row => ⟨rfl, rfl⟩) hevent.2.1
      ⟨⟨nofun, nofun⟩, rfl, nofun⟩ ?_ ?_
    · rw [harchived]
      rfl
    · rw [hevent.1]
      rfl

/-- Several statements. -/
theorem Invariant.statements {after : Tables} (h : Invariant t)
    (hstatements : Statements t after) : Invariant after := by
  induction hstatements with
  | refl => exact h
  | tail _ hstatement ih => exact ih.statement hstatement

/-- A run from an empty database. -/
theorem invariant_after (S : Settings) (events : List RegistryEvent) :
    Invariant (tables (Runs.after (next S) {} events)) := by
  have hstart : Invariant (tables {}) := by
    refine ⟨List.nodup_nil, List.nodup_nil, fun event hevent => ?_, fun row hrow => ?_⟩
    · exact absurd hevent List.not_mem_nil
    · exact absurd hrow List.not_mem_nil
  exact Runs.after_invariant (next S) (I := fun s => Invariant (tables s)) hstart
    (fun _ event h => h.statements (statements_next S h.recordIds event)) events

end LifecycleLogs

open Registry Registry.DeviceRegistry LifecycleLogs

end SeedMg24.Analysis
