import SeedMg24.Analysis.OfflineRecords
import SeedMg24.Model.OfflineReplay

/-!
# Records that leave the offline buffer

A record that leaves the buffer is given up by a push, cleared by a factory reset, or taken out by
a tick that finds a connection.  It is taken out before it is sent, so it is lost unless the client
is subscribed and the stack takes the notification; that it can be encoded is always so.
-/

set_option autoImplicit false

namespace SeedMg24.Analysis

open Foundation SeedMg24.Model.OfflineBuffer
open SeedMg24.Model (TELEMETRY_BUFFER_CAPACITY)
open SeedMg24.Model.TelemetryEncoder (recordText encodeRecord written typeName qualityName flag)

/-- Every record that was put into the buffer is there, or was given up, cleared or delivered. -/
def LosesNothing (r : ReplayRun) : Prop :=
  (r.placed.map delayedRecord).Perm
    ((r.node.offlineBuffer.held ++ r.evicted ++ r.cleared).map delayedRecord ++ r.delivered)

/-- A tick takes a record out of the buffer. -/
def Replays (n : ReplayNode) : Prop :=
  n.bleEnabled = true ∧ n.bleTelemetryCharacteristicHandle ≠ 0 ∧ n.bleConnected = true ∧
    n.offlineBuffer.held ≠ []

/-- A tick that takes a record out finds the client subscribed when it sends it, and the stack
takes the notification. -/
def Delivers (r : ReplayRun) : ReplayEvent → Prop
  | .tick t => Replays r.node →
      (t.during.foldl ReplayNode.onEvent r.node).bleConnected = true ∧
        (t.during.foldl ReplayNode.onEvent r.node).bleNotifyEnabled = true ∧ t.statusOk = true
  | _ => True

/-! ## Records that can be encoded -/

/-- A record as a tick makes it. -/
def IsMicrophoneRecord (record : Record) : Prop :=
  record.channelId = "microphone_raw".toList ∧ record.hasNormalizedValue = false

/-- How long any float is printed. -/
theorem length_fixed_le_any (x : Single) : (x.fixed 3).length ≤ 44 := by
  cases hfinite : x.isFinite with
  | true => exact Single.length_fixed_le (by decide) hfinite
  | false =>
    cases x with
    | nan => decide
    | infinite negative => cases negative <;> decide
    | finite negative mantissa exponent => cases hfinite

/-- Such a record fits the buffer it is printed into, whatever the node is called.
SOURCE: telemetry_encoder.cpp:5-14 -/
theorem encodeRecord_microphone {record : Record} (h : IsMicrophoneRecord record)
    (id : ReportedId) : encodeRecord record id bleJsonSize = (true, recordText record id) ∧
      0 < (recordText record id).length ∧ (recordText record id).length < bleJsonSize := by
  have htype : (typeName record.type).length = 1 := by
    cases record.type <;> decide
  have hquality : (qualityName record.quality).length ≤ 12 := by
    cases record.quality <;> decide
  have hcounter (n : UInt32) : (Text.decimal n.toNat).length ≤ 10 :=
    Text.length_decimal_le (by decide) (by have := n.toNat_lt; omega)
  have hflag : (Text.decimal (flag record.delayed)).length = 1 := by
    cases record.delayed <;> rfl
  have hchannel : record.channelId.length = 14 := by
    rw [h.1]
    decide
  have hraw := length_fixed_le_any record.rawValue
  have hseq := hcounter record.sequenceNumber
  have hms := hcounter record.uptimeMs
  have hid := id.property
  have hlength : 0 < (recordText record id).length ∧
      (recordText record id).length < bleJsonSize := by
    have hliterals : "\x7b\"t\":\"".length = 6 ∧ "\",\"v\":1,\"id\":\"".length = 14 ∧
        "\",\"s\":".length = 6 ∧ ",\"ms\":".length = 6 ∧ ",\"c\":\"".length = 6 ∧
        "\",\"rv\":".length = 7 ∧ ",\"nv\":".length = 6 ∧ "null".length = 4 ∧
        ",\"u\":\"adc_count\",\"q\":\"".length = 22 ∧ "\",\"d\":".length = 6 ∧
        "\x7d".length = 1 := by decide
    unfold recordText bleJsonSize
    rw [h.2, if_neg (by decide)]
    simp only [List.length_append, String.length_toList]
    omega
  refine ⟨?_, hlength⟩
  unfold encodeRecord written
  rw [Text.snprintf_eq_self hlength.2]
  simp [hlength.1, hlength.2]

/-! ## Links -/

/-- Events on the link leave the buffer, and their outcome depends on the link alone. -/
theorem onEvents_congr {n m : ReplayNode} (hconnected : n.bleConnected = m.bleConnected)
    (hnotify : n.bleNotifyEnabled = m.bleNotifyEnabled) (events : List LinkEvent) :
    (events.foldl ReplayNode.onEvent n).offlineBuffer = n.offlineBuffer ∧
      (events.foldl ReplayNode.onEvent n).bleConnected =
        (events.foldl ReplayNode.onEvent m).bleConnected ∧
      (events.foldl ReplayNode.onEvent n).bleNotifyEnabled =
        (events.foldl ReplayNode.onEvent m).bleNotifyEnabled := by
  induction events generalizing n m with
  | nil => exact ⟨rfl, hconnected, hnotify⟩
  | cons e events ih =>
    rw [List.foldl_cons, List.foldl_cons]
    cases e with
    | connectionOpened => exact ih rfl hnotify
    | connectionClosed => exact ih rfl rfl
    | characteristicStatus notification => exact ih hconnected rfl

/-- A record is handed to a notification exactly when the client is subscribed and the stack takes
it. -/
theorem notified_replay_iff {n : ReplayNode} {t : TelemetryTick} {record : Record}
    (h : IsMicrophoneRecord record) : (n.replay t record).notified = true ↔
      n.bleConnected = true ∧ n.bleNotifyEnabled = true ∧ t.statusOk = true := by
  obtain ⟨hencoded, hpositive, hlt⟩ := encodeRecord_microphone h t.nodeId
  unfold ReplayNode.replay ReplayNode.bleSendPayload
  rw [hencoded]
  dsimp only
  rw [if_pos rfl, if_neg (by omega)]
  cases hlink : n.bleConnected && n.bleNotifyEnabled with
  | true =>
    rw [Bool.and_eq_true] at hlink
    rw [if_pos rfl]
    exact ⟨fun hok => ⟨hlink.1, hlink.2, hok⟩, fun hall => hall.2.2⟩
  | false =>
    rw [if_neg (by decide)]
    constructor
    · intro hnever
      cases hnever
    · rintro ⟨hconnected, hnotify, -⟩
      rw [hconnected, hnotify] at hlink
      cases hlink

/-! ## Ticks -/

section Ticks

variable {n : ReplayNode} (t : TelemetryTick)

theorem bleUpdateTelemetry_off
    (h : ¬ (n.bleEnabled = true ∧ n.bleTelemetryCharacteristicHandle ≠ 0)) :
    n.bleUpdateTelemetry t = { node := n } := by
  unfold ReplayNode.bleUpdateTelemetry
  rw [if_pos]
  rw [Bool.or_eq_true, Bool.not_eq_true', decide_eq_true_iff]
  by_cases henabled : n.bleEnabled = true
  · exact .inr (not_not.mp fun hhandle => h ⟨henabled, hhandle⟩)
  · exact .inl (by simpa using henabled)

variable (hon : n.bleEnabled = true ∧ n.bleTelemetryCharacteristicHandle ≠ 0)
include hon

theorem bleUpdateTelemetry_disconnected (hconnected : n.bleConnected = false) :
    n.bleUpdateTelemetry t = {
      node := { n with
        telemetrySequence := n.telemetrySequence + 1
        offlineBuffer :=
          (n.offlineBuffer.push (ReplayNode.telemetryRecord t n.telemetrySequence)).2 }
      buffered := some (ReplayNode.telemetryRecord t n.telemetrySequence) } := by
  unfold ReplayNode.bleUpdateTelemetry
  rw [if_neg (by simp [hon])]
  dsimp only
  rw [hconnected]
  rfl

theorem bleUpdateTelemetry_empty (hconnected : n.bleConnected = true)
    (hheld : n.offlineBuffer.held = []) :
    ∃ after : ReplayNode, n.bleUpdateTelemetry t = { node := after } ∧
      after.offlineBuffer = n.offlineBuffer := by
  unfold ReplayNode.bleUpdateTelemetry
  rw [if_neg (by simp [hon])]
  dsimp only
  rw [hconnected]
  obtain ⟨-, hpop⟩ | ⟨oldest, rest, hsome, -⟩ := pop_cases n.offlineBuffer
  · rw [hpop]
    exact ⟨_, rfl, (onEvents_congr rfl rfl t.during).1⟩
  · rw [hheld] at hsome
    cases hsome

/-- The oldest record is out of the buffer whatever becomes of it. -/
theorem bleUpdateTelemetry_replays (hconnected : n.bleConnected = true) {oldest : Record}
    {rest : List Record} (hheld : n.offlineBuffer.held = oldest :: rest) :
    ∃ after : ReplayNode, n.bleUpdateTelemetry t = {
        node := after
        replayed := some (delayedRecord oldest, after.replay t (delayedRecord oldest)) } ∧
      after.offlineBuffer.held = rest ∧
      after.bleConnected = (t.during.foldl ReplayNode.onEvent n).bleConnected ∧
      after.bleNotifyEnabled = (t.during.foldl ReplayNode.onEvent n).bleNotifyEnabled := by
  unfold ReplayNode.bleUpdateTelemetry
  rw [if_neg (by simp [hon])]
  dsimp only
  rw [hconnected]
  obtain ⟨hnone, -⟩ | ⟨first, others, hsome, hout, hleft, -⟩ := pop_cases n.offlineBuffer
  · rw [hheld] at hnone
    cases hnone
  · rw [hheld] at hsome
    obtain ⟨rfl, rfl⟩ := List.cons.inj hsome
    have hpop : n.offlineBuffer.pop = (some (delayedRecord oldest), n.offlineBuffer.pop.2) := by
      rw [← hout]
    have hafter := onEvents_congr (n := { n with
      telemetrySequence := n.telemetrySequence + 1
      bleConnected := true
      offlineBuffer := n.offlineBuffer.pop.2 }) (m := n) hconnected.symm rfl t.during
    rw [hpop]
    exact ⟨_, rfl, by rw [hafter.1]; exact hleft, hafter.2⟩

end Ticks

/-! ## Accounts -/

/-- A push returns whether the record is in the buffer. -/
theorem push_fst_iff (b : TelemetryBuffer) (record : Record) : (b.push record).1 = true ↔
    b.count < TELEMETRY_BUFFER_CAPACITY ∨
      priorityRank (b.records b.lowest) < priorityRank record := by
  unfold TelemetryBuffer.push
  split
  · rename_i hroom
    exact ⟨fun _ => .inl hroom, fun _ => rfl⟩
  · rename_i hroom
    split
    · rename_i hlow
      constructor
      · intro hfalse
        cases hfalse
      · rintro (h | hlower)
        · exact absurd h hroom
        · exact absurd hlow (not_le.mpr hlower)
    · rename_i hlow
      exact ⟨fun _ => .inr (not_le.mp hlow), fun _ => rfl⟩

theorem evictedBy_eq (b : TelemetryBuffer) (record : Record) : b.evictedBy record =
    if b.count < TELEMETRY_BUFFER_CAPACITY then []
    else if priorityRank record ≤ priorityRank (b.records b.lowest) then []
    else [b.records b.lowest] := rfl

/-- A push accounts for the records there are and the one that is placed.
SOURCE: telemetry_buffer.cpp:4-11 -/
theorem push_evictedBy (b : TelemetryBuffer) (record : Record) :
    (b.held ++ [record].filter fun record => (b.push record).1).Perm
      ((b.push record).2.held ++ b.evictedBy record) := by
  have hreturned := push_fst_iff b record
  rw [evictedBy_eq]
  obtain ⟨hroom, hheld, -⟩ | ⟨hfull, hlow, hheld, -⟩ | ⟨hfull, hlower, hheld, -⟩ :=
    push_cases b record
  · rw [if_pos hroom, hheld, List.filter_singleton, hreturned.mpr (.inl hroom), List.append_nil]
    exact List.Perm.refl _
  · have hrefused : (b.push record).1 = false := by
      rw [← Bool.not_eq_true, hreturned]
      omega
    rw [if_neg (by omega), if_pos hlow, hheld, List.filter_singleton, hrefused]
    exact List.Perm.refl _
  · have hlt : b.lowest < b.held.length := by
      rw [length_held]
      exact (isLowest_lowest hfull).lt
    have hget : b.held[b.lowest] = b.records b.lowest := by
      simp [TelemetryBuffer.held, BoundedBuffer.entries]
    have hsplit : b.held.Perm (b.records b.lowest :: b.held.eraseIdx b.lowest) := by
      rw [← hget]
      exact (List.getElem_cons_eraseIdx_perm hlt).symm
    rw [if_neg (by omega), if_neg (not_le.mpr hlower), hheld, List.filter_singleton,
      hreturned.mpr (.inr hlower)]
    refine (hsplit.append_right _).trans ?_
    exact (List.perm_append_singleton _ _).symm

/-- Every record in the buffer can be encoded. -/
def HoldsMicrophone (r : ReplayRun) : Prop :=
  ∀ record ∈ r.node.offlineBuffer.held, IsMicrophoneRecord record

theorem holdsMicrophone_next {r : ReplayRun} (h : HoldsMicrophone r) (e : ReplayEvent) :
    HoldsMicrophone (r.next e) := by
  cases e with
  | link e => cases e <;> exact h
  | counts => exact h
  | enables on => exact h
  | initialises handle => exact h
  | factoryReset => exact fun record hrecord => by cases hrecord
  | tick t =>
    show ∀ record ∈ (r.node.bleUpdateTelemetry t).node.offlineBuffer.held, _
    by_cases hon : r.node.bleEnabled = true ∧ r.node.bleTelemetryCharacteristicHandle ≠ 0
    · cases hconnected : r.node.bleConnected with
      | false =>
        rw [bleUpdateTelemetry_disconnected t hon hconnected]
        intro record hrecord
        have hmem := (offer_push r.node.offlineBuffer _).sublist.subset hrecord
        rcases List.mem_append.mp hmem with hold | hnew
        · exact h record hold
        · rw [List.mem_singleton.mp hnew]
          exact ⟨rfl, rfl⟩
      | true =>
        cases hheld : r.node.offlineBuffer.held with
        | nil =>
          obtain ⟨after, houtcome, hafter⟩ := bleUpdateTelemetry_empty t hon hconnected hheld
          rw [houtcome, hafter]
          exact h
        | cons oldest rest =>
          obtain ⟨after, houtcome, hafter, -⟩ := bleUpdateTelemetry_replays t hon hconnected hheld
          rw [houtcome, hafter]
          exact fun record hrecord => h record (hheld ▸ List.mem_cons_of_mem oldest hrecord)
    · rw [bleUpdateTelemetry_off t hon]
      exact h

section Account

variable {r : ReplayRun} {node : ReplayNode}

/-- A tick that leaves the buffer leaves the account. -/
theorem losesNothing_idle (haccounts : LosesNothing r)
    (hnode : node.offlineBuffer = r.node.offlineBuffer) :
    LosesNothing (r.record { node := node }) := by
  unfold LosesNothing ReplayRun.record
  simp only [Option.toList_none, List.filter_nil, List.flatMap_nil, List.map_nil, List.append_nil,
    hnode]
  exact haccounts

/-- A tick that puts a record into the buffer accounts for it and for the one it gives up. -/
theorem losesNothing_buffered (haccounts : LosesNothing r) {record : Record}
    (hnode : node.offlineBuffer = (r.node.offlineBuffer.push record).2) :
    LosesNothing (r.record { node := node, buffered := some record }) := by
  have hpush := (push_evictedBy r.node.offlineBuffer record).map delayedRecord
  unfold LosesNothing at haccounts
  unfold LosesNothing ReplayRun.record
  simp only [Option.toList_some, Option.toList_none, List.filter_nil, List.flatMap_cons,
    List.flatMap_nil, List.map_nil, List.append_nil, hnode]
  rw [List.perm_iff_count] at haccounts hpush ⊢
  intro record'
  have h₁ := haccounts record'
  have h₂ := hpush record'
  simp only [List.map_append, List.count_append] at h₁ h₂ ⊢
  omega

/-- A tick that takes a record out accounts for it exactly when it was handed to a
notification. -/
theorem losesNothing_replayed_iff (haccounts : LosesNothing r) {oldest : Record}
    (hheld : r.node.offlineBuffer.held = oldest :: node.offlineBuffer.held) (payload : Payload) :
    LosesNothing (r.record {
      node := node, replayed := some (delayedRecord oldest, payload) }) ↔
        payload.notified = true := by
  unfold LosesNothing at haccounts
  unfold LosesNothing ReplayRun.record
  rw [hheld] at haccounts
  simp only [Option.toList_some, Option.toList_none, List.filter_nil, List.flatMap_nil,
    List.append_nil, List.filter_singleton]
  cases payload.notified with
  | true =>
    refine ⟨fun _ => rfl, fun _ => ?_⟩
    rw [List.perm_iff_count] at haccounts ⊢
    intro record
    have h := haccounts record
    simp only [List.cons_append, List.map_cons, List.map_append, List.count_cons,
      List.count_append, cond_true, List.map_nil, List.count_nil] at h ⊢
    omega
  | false =>
    refine ⟨fun hnext => ?_, fun h => Bool.noConfusion h⟩
    have h₁ := haccounts.length_eq
    have h₂ := hnext.length_eq
    simp only [List.cons_append, List.map_cons, List.map_append, List.length_cons,
      List.length_append, List.length_map, cond_false, List.map_nil, List.length_nil] at h₁ h₂
    omega

end Account

/-- A tick loses nothing exactly when the record it takes out, if it takes one out, is
delivered. -/
theorem losesNothing_tick_iff {r : ReplayRun} (hmicrophone : HoldsMicrophone r)
    (haccounts : LosesNothing r) (t : TelemetryTick) :
    LosesNothing (r.next (.tick t)) ↔ Delivers r (.tick t) := by
  have hnext : r.next (.tick t) = r.record (r.node.bleUpdateTelemetry t) := rfl
  have hidle (hnot : ¬ Replays r.node) (hkept : LosesNothing (r.next (.tick t))) :
      LosesNothing (r.next (.tick t)) ↔ Delivers r (.tick t) :=
    ⟨fun _ hreplays => absurd hreplays hnot, fun _ => hkept⟩
  by_cases hon : r.node.bleEnabled = true ∧ r.node.bleTelemetryCharacteristicHandle ≠ 0
  · cases hconnected : r.node.bleConnected with
    | false =>
      apply hidle fun hreplays => Bool.noConfusion (hconnected.symm.trans hreplays.2.2.1)
      rw [hnext, bleUpdateTelemetry_disconnected t hon hconnected]
      exact losesNothing_buffered haccounts rfl
    | true =>
      cases hheld : r.node.offlineBuffer.held with
      | nil =>
        apply hidle fun hreplays => hreplays.2.2.2 hheld
        obtain ⟨after, houtcome, hafter⟩ := bleUpdateTelemetry_empty t hon hconnected hheld
        rw [hnext, houtcome]
        exact losesNothing_idle haccounts hafter
      | cons oldest rest =>
        obtain ⟨after, houtcome, hafter, hlink, hnotify⟩ :=
          bleUpdateTelemetry_replays t hon hconnected hheld
        have hreplays : Replays r.node := ⟨hon.1, hon.2, hconnected, by simp [hheld]⟩
        have hsent : IsMicrophoneRecord (delayedRecord oldest) :=
          hmicrophone oldest (by simp [hheld])
        rw [hnext, houtcome, losesNothing_replayed_iff haccounts (by rw [hheld, hafter]),
          notified_replay_iff hsent, hlink, hnotify]
        exact ⟨fun hall _ => hall, fun hall => hall hreplays⟩
  · apply hidle fun hreplays => hon ⟨hreplays.1, hreplays.2.1⟩
    rw [hnext, bleUpdateTelemetry_off t hon]
    exact losesNothing_idle haccounts rfl

/-- One event. -/
theorem losesNothing_next_iff {r : ReplayRun} (hmicrophone : HoldsMicrophone r)
    (haccounts : LosesNothing r) (e : ReplayEvent) :
    LosesNothing (r.next e) ↔ Delivers r e := by
  have hkept (hnext : LosesNothing (r.next e)) (hdelivers : Delivers r e) :
      LosesNothing (r.next e) ↔ Delivers r e := ⟨fun _ => hdelivers, fun _ => hnext⟩
  cases e with
  | tick t => exact losesNothing_tick_iff hmicrophone haccounts t
  | link e => exact hkept (by cases e <;> exact haccounts) trivial
  | counts => exact hkept haccounts trivial
  | enables on => exact hkept haccounts trivial
  | initialises handle => exact hkept haccounts trivial
  | factoryReset =>
    refine hkept ?_ trivial
    unfold LosesNothing at haccounts ⊢
    rw [List.perm_iff_count] at haccounts ⊢
    intro record
    have h := haccounts record
    have hempty : (r.next .factoryReset).node.offlineBuffer.held = [] := rfl
    show _ = List.count record (((r.next .factoryReset).node.offlineBuffer.held ++ r.evicted ++
      (r.cleared ++ r.node.offlineBuffer.held)).map delayedRecord ++ r.delivered)
    rw [hempty]
    simp only [List.map_append, List.count_append, List.map_nil, List.count_nil] at h ⊢
    show List.count record (r.placed.map delayedRecord) = _
    omega

/-! ## Runs -/

/-- A node after its boot. -/
def bootedRun (memory : ℕ → Record) : ReplayRun where
  node := { offlineBuffer := { records := memory, count_le := Nat.zero_le _ } }

/-- **No offline record is lost silently** all along a run if and only if every tick that takes a
record out of the buffer finds the client subscribed when it sends the record, and the stack takes
the notification.
SOURCE: xiao_mg24_sensor_node.ino:658-681, 873-916, telemetry_buffer.cpp:4-17 -/
theorem losesNothing_iff (memory : ℕ → Record) (events : List ReplayEvent) :
    Runs.Always ReplayRun.next LosesNothing (bootedRun memory) events ↔
      Runs.Throughout ReplayRun.next Delivers (bootedRun memory) events := by
  apply Runs.always_iff_throughout (I := HoldsMicrophone)
  · exact fun record hrecord => by cases hrecord
  · exact List.Perm.refl _
  · exact fun r e h => holdsMicrophone_next h e
  · exact fun r e hmicrophone haccounts => losesNothing_next_iff hmicrophone haccounts e

/-- A tick that measures nothing in particular. -/
def quietTick : TelemetryTick where
  nodeId := ⟨"UNASSIGNED-MG24".toList, by decide⟩
  micLevel := 0
  millis := 0
  during := []
  statusOk := true

/-- A report without a connection, and one after a client has connected that has not subscribed. -/
def unsubscribedReplay : List ReplayEvent :=
  [.initialises 1, .tick quietTick, .link .connectionOpened, .tick quietTick]

/-- The record of the first report is taken out by the second one and sent to nobody. -/
theorem not_losesNothing_unsubscribed : ¬ Runs.Always ReplayRun.next LosesNothing
    (bootedRun fun _ => ReplayNode.telemetryRecord quietTick 0) unsubscribedReplay := by
  intro h
  have hlast := h unsubscribedReplay (List.prefix_refl _)
  have hbefore := h [.initialises 1, .tick quietTick, .link .connectionOpened]
    (List.prefix_append _ [ReplayEvent.tick quietTick])
  have hmicrophone := Runs.after_invariant ReplayRun.next (I := HoldsMicrophone)
    (s := bootedRun fun _ => ReplayNode.telemetryRecord quietTick 0)
    (fun record hrecord => by cases hrecord) (fun r e h => holdsMicrophone_next h e)
    [.initialises 1, .tick quietTick, .link .connectionOpened]
  have hdelivers := (losesNothing_next_iff hmicrophone hbefore (.tick quietTick)).mp hlast
  have hreplays := hdelivers ⟨rfl, by decide, rfl, fun hempty => by
    have hlength := congrArg List.length hempty
    cases hlength⟩
  exact Bool.noConfusion hreplays.2.1

end SeedMg24.Analysis
