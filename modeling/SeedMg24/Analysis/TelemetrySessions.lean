import SeedMg24.Foundation.Runs
import SeedMg24.Model.NodeTelemetry

/-!
# The sessions of a node's records

A new session is started when an uptime is lower than the one before, and its boot time is taken
from its first record.  The sessions are those of the boots, and the records get their true times,
exactly when the records of every boot come in the order of their uptimes, and its first record
comes without delay and with an uptime lower than the last one of the boot before.
-/

set_option autoImplicit false

namespace SeedMg24.Analysis

open Foundation Foundation.Runs Model

/-! ## One packet -/

/-- Whether a packet gets as far as the session detection. -/
def Reaches (s : TelemetryService) (payload : NormalizedTelemetry) : Prop :=
  ¬ (payload.deviceId.isSome ∧ payload.deviceId ≠ some s.registeredDeviceId) ∧
    TelemetryService.dedupeKey payload ∉ s.dedupe ∧
    payload.encodedLength ≤ s.maxPayloadJsonBytes

/-- The session a packet is put into. -/
def entryOf (s : TelemetryService) (payload : NormalizedTelemetry) : SessionEntry :=
  sessionEntry s.sessionsStarted s.sessions payload.deviceUptimeMs payload.receivedAt

/-- A packet that gets so far is assigned its session, and the service remembers the session. -/
theorem ingest_reaches {s : TelemetryService} {payload : NormalizedTelemetry}
    (h : Reaches s payload) (processed : Bool) :
    (s.ingest payload processed).2.assigned =
        some ((entryOf s payload).sessionId,
          (entryOf s payload).measuredAt payload.deviceUptimeMs) ∧
      (s.ingest payload processed).1.sessions = some (entryOf s payload) ∧
      (s.ingest payload processed).1.sessionsStarted =
        if startsSession s.sessions payload.deviceUptimeMs then s.sessionsStarted + 1
        else s.sessionsStarted := by
  obtain ⟨hdevice, hkey, hlength⟩ := h
  unfold TelemetryService.ingest
  rw [if_neg hdevice, if_neg hkey, if_neg (by omega)]
  dsimp only [TelemetryService.sessionFor]
  split
  · split
    · exact ⟨rfl, rfl, rfl⟩
    · exact ⟨rfl, rfl, rfl⟩
  · unfold TelemetryService.persist
    dsimp only
    split
    · rename_i hpersist
      split at hpersist
      · cases hpersist
        exact ⟨rfl, rfl, rfl⟩
      · split at hpersist <;> cases hpersist
        exact ⟨rfl, rfl, rfl⟩
    · rename_i hpersist
      split at hpersist
      · cases hpersist
      · split at hpersist <;> cases hpersist
        exact ⟨rfl, rfl, rfl⟩

/-- A packet that does not get so far changes nothing and is assigned no session. -/
theorem ingest_stops {s : TelemetryService} {payload : NormalizedTelemetry}
    (h : ¬ Reaches s payload) (processed : Bool) :
    (s.ingest payload processed).2.assigned = none ∧ (s.ingest payload processed).1 = s := by
  unfold TelemetryService.ingest
  split
  · exact ⟨rfl, rfl⟩
  split
  · exact ⟨rfl, rfl⟩
  split
  · exact ⟨rfl, rfl⟩
  · rename_i hdevice hkey hlength
    exact absurd ⟨hdevice, hkey, by omega⟩ h

/-! ## Streams of records -/

/-- A record of a node: its packet shows an uptime. -/
structure NodeRecord extends NormalizedTelemetry where
  uptime : ℕ
  hasUptime : deviceUptimeMs = some uptime

/-- A record that was assigned a session, and the boot that sent it. -/
structure AssignedRecord where
  bootNumber : ℕ
  bootTime : ℤ
  uptime : ℕ
  sessionId : ℕ
  measuredAt : Option ℤ
deriving DecidableEq

/-- The node's current boot, the service, and the records assigned so far, oldest first. -/
structure SessionRun where
  bootNumber : ℕ
  bootTime : ℤ
  service : TelemetryService
  assigned : List AssignedRecord

/-- What happens: the node boots again, so long after the boot before, or a record arrives. -/
inductive SessionRunEvent where
  | reboots (later : ℕ)
  | receives (record : NodeRecord) (processed : Bool)

namespace SessionRun

/-- A service that has just been started. -/
def start (registeredDeviceId : Text) (maxPayloadJsonBytes : ℕ) (deviceActive : Bool)
    (readings : List Reading) (bootTime : ℤ) : SessionRun where
  bootNumber := 0
  bootTime := bootTime
  service := {
    registeredDeviceId := registeredDeviceId
    maxPayloadJsonBytes := maxPayloadJsonBytes
    deviceActive := deviceActive
    readings := readings }
  assigned := []

/-- One event. -/
def next (s : SessionRun) : SessionRunEvent → SessionRun
  | .reboots later =>
    { s with bootNumber := s.bootNumber + 1, bootTime := s.bootTime + 1 + later }
  | .receives record processed =>
    let (service, ingested) := s.service.ingest record.toNormalizedTelemetry processed
    { s with
      service := service
      assigned := match ingested.assigned with
        | none => s.assigned
        | some (sessionId, measuredAt) =>
          s.assigned ++ [⟨s.bootNumber, s.bootTime, record.uptime, sessionId, measuredAt⟩] }

end SessionRun

/-- The records of a boot are in one session, and measured at the time of the boot and their
uptime. -/
def SessionsOfBoots (assigned : List AssignedRecord) : Prop :=
  ∀ a ∈ assigned, a.measuredAt = some (a.bootTime + 1000 * a.uptime) ∧
    ∀ b ∈ assigned, a.bootNumber = b.bootNumber → a.sessionId = b.sessionId

/-- A record that gets as far as the session detection comes in order: the first record, and the
first of a boot, without delay, the first of a later boot with a lower uptime than the last record,
and the others of a boot with uptimes that never go back. -/
def ComesInOrder (s : SessionRun) : SessionRunEvent → Prop
  | .reboots _ => True
  | .receives record _ => Reaches s.service record.toNormalizedTelemetry →
    match s.assigned.getLast? with
    | none => record.receivedAt = s.bootTime + 1000 * record.uptime
    | some last =>
      if last.bootNumber = s.bootNumber then last.uptime ≤ record.uptime
      else record.uptime < last.uptime ∧ record.receivedAt = s.bootTime + 1000 * record.uptime

/-- What holds of a run whether or not its records come in order. -/
structure SessionRunInvariant (s : SessionRun) : Prop where
  boots : ∀ a ∈ s.assigned, (a.bootNumber = s.bootNumber ∧ a.bootTime = s.bootTime) ∨
    (a.bootNumber < s.bootNumber ∧ a.bootTime < s.bootTime)
  ids : ∀ a ∈ s.assigned, a.sessionId < s.service.sessionsStarted
  empty : s.assigned = [] → s.service.sessions = none
  last : ∀ a ∈ s.assigned.getLast?,
    (∃ bootTime, s.service.sessions = some ⟨a.sessionId, some a.uptime, some bootTime⟩ ∧
      a.measuredAt = some (bootTime + 1000 * a.uptime)) ∧
    ∀ b ∈ s.assigned, b.bootNumber ≤ a.bootNumber

theorem sessionRunInvariant_start (registeredDeviceId : Text) (maxPayloadJsonBytes : ℕ)
    (deviceActive : Bool) (readings : List Reading) (bootTime : ℤ) :
    SessionRunInvariant
      (.start registeredDeviceId maxPayloadJsonBytes deviceActive readings bootTime) where
  boots := by simp [SessionRun.start]
  ids := by simp [SessionRun.start]
  empty := fun _ => rfl
  last := by simp [SessionRun.start]

/-- The session of a record of a node, from the last one before it. -/
theorem entryOf_record {s : SessionRun} (h : SessionRunInvariant s) (record : NodeRecord) :
    (s.assigned = [] ∧ startsSession s.service.sessions (some record.uptime) = true ∧
      entryOf s.service record.toNormalizedTelemetry = ⟨s.service.sessionsStarted,
        some record.uptime, some (record.receivedAt - 1000 * record.uptime)⟩) ∨
    ∃ last, s.assigned.getLast? = some last ∧
      ((record.uptime < last.uptime ∧
          startsSession s.service.sessions (some record.uptime) = true ∧
          entryOf s.service record.toNormalizedTelemetry = ⟨s.service.sessionsStarted,
            some record.uptime, some (record.receivedAt - 1000 * record.uptime)⟩) ∨
        (last.uptime ≤ record.uptime ∧
          startsSession s.service.sessions (some record.uptime) = false ∧
          ∃ bootTime : ℤ, last.measuredAt = some (bootTime + 1000 * last.uptime) ∧
            entryOf s.service record.toNormalizedTelemetry =
              ⟨last.sessionId, some record.uptime, some bootTime⟩)) := by
  unfold entryOf sessionEntry
  rw [record.hasUptime]
  cases hlast : s.assigned.getLast? with
  | none =>
    have hnil := List.getLast?_eq_none_iff.mp hlast
    rw [h.empty hnil]
    exact .inl ⟨hnil, rfl, rfl⟩
  | some last =>
    obtain ⟨⟨bootTime, hentry, hmeasured⟩, -⟩ := h.last last hlast
    rw [hentry]
    refine .inr ⟨last, rfl, ?_⟩
    by_cases hlower : record.uptime < last.uptime
    · have hstarts : startsSession (some ⟨last.sessionId, some last.uptime, some bootTime⟩)
          (some record.uptime) = true := by
        simp [startsSession, hlower]
      refine .inl ⟨hlower, hstarts, ?_⟩
      simp only [hstarts, if_true, Option.map_some]
    · have hstarts : startsSession (some ⟨last.sessionId, some last.uptime, some bootTime⟩)
          (some record.uptime) = false := by
        simp [startsSession, hlower]
      refine .inr ⟨by omega, hstarts, bootTime, hmeasured, ?_⟩
      simp only [hstarts, Bool.false_eq_true, if_false, Option.some_or]

/-- What a record that is assigned a session adds to the run. -/
theorem next_receives {s : SessionRun} {record : NodeRecord} (processed : Bool)
    (h : Reaches s.service record.toNormalizedTelemetry) :
    ((s.next (.receives record processed)).bootNumber = s.bootNumber ∧
      (s.next (.receives record processed)).bootTime = s.bootTime) ∧
      (s.next (.receives record processed)).assigned = s.assigned ++ [⟨s.bootNumber, s.bootTime,
        record.uptime, (entryOf s.service record.toNormalizedTelemetry).sessionId,
        (entryOf s.service record.toNormalizedTelemetry).measuredAt (some record.uptime)⟩] ∧
      (s.next (.receives record processed)).service.sessions =
        some (entryOf s.service record.toNormalizedTelemetry) ∧
      (s.next (.receives record processed)).service.sessionsStarted =
        if startsSession s.service.sessions (some record.uptime) then
          s.service.sessionsStarted + 1
        else s.service.sessionsStarted := by
  obtain ⟨hassigned, hsessions, hstarted⟩ := ingest_reaches h processed
  rw [record.hasUptime] at hassigned hstarted
  unfold SessionRun.next
  dsimp only
  rw [hassigned]
  exact ⟨⟨rfl, rfl⟩, rfl, hsessions, hstarted⟩

/-- A record that gets no session leaves the run as it is. -/
theorem next_stops {s : SessionRun} {record : NodeRecord} (processed : Bool)
    (h : ¬ Reaches s.service record.toNormalizedTelemetry) :
    s.next (.receives record processed) = s := by
  obtain ⟨hassigned, hservice⟩ := ingest_stops h processed
  unfold SessionRun.next
  dsimp only
  rw [hassigned, hservice]

/-- **The invariant holds along every run.** -/
theorem sessionRunInvariant_next {s : SessionRun} (h : SessionRunInvariant s)
    (e : SessionRunEvent) : SessionRunInvariant (s.next e) := by
  cases e with
  | reboots later =>
    refine ⟨?_, h.ids, h.empty, h.last⟩
    intro a ha
    right
    simp only [SessionRun.next]
    rcases h.boots a ha with ⟨hnumber, htime⟩ | ⟨hnumber, htime⟩ <;> omega
  | receives record processed =>
    by_cases hreaches : Reaches s.service record.toNormalizedTelemetry
    · obtain ⟨⟨hnumber, htime⟩, hassigned, hsessions, hstarted⟩ := next_receives processed hreaches
      refine ⟨?_, ?_, ?_, ?_⟩
      · intro a ha
        rw [hassigned, List.mem_append, List.mem_singleton] at ha
        rw [hnumber, htime]
        rcases ha with ha | rfl
        · exact h.boots a ha
        · exact .inl ⟨rfl, rfl⟩
      · intro a ha
        rw [hassigned, List.mem_append, List.mem_singleton] at ha
        rw [hstarted]
        rcases ha with ha | rfl
        · have := h.ids a ha
          split <;> omega
        · rcases entryOf_record h record with ⟨-, hstarts, hentry⟩ |
            ⟨last, hlast, ⟨-, hstarts, hentry⟩ | ⟨-, hstarts, bootTime, -, hentry⟩⟩
          · simp [hstarts, hentry]
          · simp [hstarts, hentry]
          · have := h.ids last (List.mem_of_getLast? hlast)
            simpa [hstarts, hentry] using this
      · intro hnil
        rw [hassigned] at hnil
        simp at hnil
      · intro a ha
        rw [hassigned, List.getLast?_concat, Option.mem_some_iff] at ha
        subst ha
        constructor
        · rw [hsessions]
          rcases entryOf_record h record with ⟨-, -, hentry⟩ |
            ⟨last, -, ⟨-, -, hentry⟩ | ⟨-, -, bootTime, -, hentry⟩⟩ <;>
            rw [hentry] <;> exact ⟨_, rfl, rfl⟩
        · intro b hb
          rw [hassigned, List.mem_append, List.mem_singleton] at hb
          rcases hb with hb | rfl
          · have := h.boots b hb
            simp only
            omega
          · exact le_refl _
    · rw [next_stops processed hreaches]
      exact h

/-- One more record. -/
theorem sessionsOfBoots_snoc {assigned : List AssignedRecord} {added : AssignedRecord}
    (h : SessionsOfBoots assigned) :
    SessionsOfBoots (assigned ++ [added]) ↔
      added.measuredAt = some (added.bootTime + 1000 * added.uptime) ∧
        ∀ a ∈ assigned, a.bootNumber = added.bootNumber → a.sessionId = added.sessionId := by
  constructor
  · intro hall
    have hlast := hall added (by simp)
    refine ⟨hlast.1, fun a ha hboot => ?_⟩
    exact (hlast.2 a (by simp [ha]) hboot.symm).symm
  · rintro ⟨hmeasured, hsame⟩ a ha
    rw [List.mem_append, List.mem_singleton] at ha
    rcases ha with ha | rfl
    · refine ⟨(h a ha).1, fun b hb hboot => ?_⟩
      rw [List.mem_append, List.mem_singleton] at hb
      rcases hb with hb | rfl
      · exact (h a ha).2 b hb hboot
      · exact hsame a ha hboot
    · refine ⟨hmeasured, fun b hb hboot => ?_⟩
      rw [List.mem_append, List.mem_singleton] at hb
      rcases hb with hb | rfl
      · exact (hsame b hb hboot.symm).symm
      · rfl

/-- One event: the sessions stay those of the boots exactly when the record comes in order. -/
theorem sessionsOfBoots_next {s : SessionRun} (h : SessionRunInvariant s) (e : SessionRunEvent)
    (hsessions : SessionsOfBoots s.assigned) :
    SessionsOfBoots (s.next e).assigned ↔ ComesInOrder s e := by
  cases e with
  | reboots later => exact ⟨fun _ => trivial, fun _ => hsessions⟩
  | receives record processed =>
    by_cases hreaches : Reaches s.service record.toNormalizedTelemetry
    swap
    · rw [next_stops processed hreaches]
      exact ⟨fun _ hr => absurd hr hreaches, fun _ => hsessions⟩
    rw [(next_receives processed hreaches).2.1, sessionsOfBoots_snoc hsessions]
    simp only [ComesInOrder, hreaches, true_imp_iff]
    rcases entryOf_record h record with ⟨hnil, -, hentry⟩ |
      ⟨last, hlast, ⟨hlower, -, hentry⟩ | ⟨hlower, -, bootTime, hmeasured, hentry⟩⟩
    · rw [hentry, hnil]
      simp only [SessionEntry.measuredAt, List.getLast?_nil, List.not_mem_nil, false_imp_iff,
        implies_true, and_true, Option.some.injEq]
      omega
    · have hmem := List.mem_of_getLast? hlast
      have hids := h.ids last hmem
      rw [hentry, hlast]
      simp only [SessionEntry.measuredAt, Option.some.injEq]
      by_cases hboot : last.bootNumber = s.bootNumber
      · rw [if_pos hboot]
        constructor
        · rintro ⟨-, hsame⟩
          have := hsame last hmem hboot
          omega
        · intro hle
          omega
      · rw [if_neg hboot]
        have hnone : ∀ a ∈ s.assigned, a.bootNumber ≠ s.bootNumber := by
          intro a ha heq
          have hle := (h.last last hlast).2 a ha
          rcases h.boots last hmem with hl | hl <;> omega
        constructor
        · rintro ⟨htime, -⟩
          exact ⟨hlower, by omega⟩
        · rintro ⟨-, htime⟩
          exact ⟨by omega, fun a ha heq => absurd heq (hnone a ha)⟩
    · have hmem := List.mem_of_getLast? hlast
      have htrue := (hsessions last hmem).1
      rw [hmeasured, Option.some.injEq] at htrue
      rw [hentry, hlast]
      simp only [SessionEntry.measuredAt, Option.some.injEq]
      by_cases hboot : last.bootNumber = s.bootNumber
      · rw [if_pos hboot]
        constructor
        · intro _
          exact hlower
        · intro _
          have htimes : last.bootTime = s.bootTime := by
            rcases h.boots last hmem with hl | hl <;> omega
          refine ⟨by omega, fun a ha heq => ?_⟩
          exact (hsessions a ha).2 last hmem (heq.trans hboot.symm)
      · rw [if_neg hboot]
        constructor
        · rintro ⟨htime, -⟩
          rcases h.boots last hmem with hl | hl <;> omega
        · rintro ⟨hlt, -⟩
          omega

/-- A sent record as the gateway receives it without delay; a replayed one and a heartbeat name the
node. -/
def NodeRecord.ofSent (nodeId : Text) (bootTime : ℤ) (r : SentRecord) : NodeRecord where
  deviceId := if r.delayed || r.recordType = .heartbeat then some nodeId else none
  recordType := r.recordType
  deviceUptimeMs := some r.uptimeMs.toNat
  sequenceNumber := some r.sequenceNumber.toNat
  receivedAt := bootTime + 1000 * r.sentAtMs
  delayed := r.delayed
  event := none
  channels := [("microphone_raw".toList, ⟨some 0, some 0, none, "uncalibrated".toList⟩)]
  hasVibration := false
  encodedLength := 100
  digest := []
  channels_nodup := by simp
  uptime := r.uptimeMs.toNat
  hasUptime := rfl

/-- A boot that reports twice before the gateway connects, and twice after it. -/
def bufferedBoot : List TelemetryEvent :=
  [.elapses 100, .pass 0, .elapses 100, .pass 0, .connects, .subscribes, .elapses 100, .pass 0,
    .elapses 100, .pass 0]

end SeedMg24.Analysis
