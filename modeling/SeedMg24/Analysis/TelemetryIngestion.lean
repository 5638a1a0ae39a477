import SeedMg24.Analysis.TelemetrySessions

/-!
# Which packets are stored

Every packet of a boot is to be stored once.  What the service goes by are the last 256 keys, which
do not name the boot, and the uniqueness of a row in its session.  Every packet is stored exactly
once as long as these tell a packet that came before from one that did not.
-/

set_option autoImplicit false

namespace SeedMg24.Analysis

open Foundation Foundation.Runs Model

/-! ## One packet -/

/-- A packet of the node with a sequence number, no vibration summary, that fits the storage. -/
structure ValidPacket (nodeId : Text) (maximum : ℕ) extends NormalizedTelemetry where
  sequence : ℕ
  hasSequence : sequenceNumber = some sequence
  noVibration : recordType ≠ .vibration
  ofNode : deviceId = none ∨ deviceId = some nodeId
  fits : encodedLength ≤ maximum

variable {nodeId : Text} {maximum : ℕ}

/-- The rows a packet would be stored as. -/
def rowsFor (s : TelemetryService) (payload : NormalizedTelemetry) : List Reading :=
  TelemetryService.rowsOf payload (entryOf s payload).sessionId
    ((entryOf s payload).measuredAt payload.deviceUptimeMs)

/-- The session a packet is put into has a row with its sequence number and a channel of it. -/
def Clashes (s : TelemetryService) (payload : NormalizedTelemetry) : Prop :=
  ∃ row ∈ rowsFor s payload, ∃ old ∈ s.readings, TelemetryService.Clash row old

theorem rowsOf_ne_nil (payload : NormalizedTelemetry) (sessionId : ℕ) (measuredAt : Option ℤ) :
    TelemetryService.rowsOf payload sessionId measuredAt ≠ [] := by
  unfold TelemetryService.rowsOf
  dsimp only
  split
  · simp
  · rename_i h
    simpa using h

/-- The transaction of an active device. -/
theorem persist_active {s : TelemetryService} (hactive : s.deviceActive = true)
    (payload : NormalizedTelemetry) (sessionId : ℕ) (measuredAt : Option ℤ) :
    s.persist payload sessionId measuredAt =
      if ∃ row ∈ TelemetryService.rowsOf payload sessionId measuredAt, ∃ old ∈ s.readings,
          TelemetryService.Clash row old then (s, .error .persistence)
      else ({ s with
        readings := s.readings ++ TelemetryService.rowsOf payload sessionId measuredAt },
        .ok (TelemetryService.rowsOf payload sessionId measuredAt)) := by
  unfold TelemetryService.persist
  rw [hactive]
  rfl

/-- A remembered packet is dropped. -/
theorem ingest_remembered {s : TelemetryService} (hnode : s.registeredDeviceId = nodeId)
    (payload : ValidPacket nodeId maximum) (processed : Bool)
    (h : TelemetryService.dedupeKey payload.toNormalizedTelemetry ∈ s.dedupe) :
    s.ingest payload.toNormalizedTelemetry processed = (s, ⟨none, .ok []⟩) := by
  unfold TelemetryService.ingest
  rw [if_neg ?_, if_pos h]
  rintro ⟨hsome, hne⟩
  rcases payload.ofNode with hid | hid
  · rw [hid] at hsome
    cases hsome
  · exact hne (hnode ▸ hid)

/-- Any other packet of an active node is stored, unless its rows clash. -/
theorem ingest_fresh {s : TelemetryService} (hnode : s.registeredDeviceId = nodeId)
    (hmaximum : s.maxPayloadJsonBytes = maximum) (hactive : s.deviceActive = true)
    (payload : ValidPacket nodeId maximum) (processed : Bool)
    (h : TelemetryService.dedupeKey payload.toNormalizedTelemetry ∉ s.dedupe) :
    let out := s.ingest payload.toNormalizedTelemetry processed
    (out.1.registeredDeviceId = nodeId ∧ out.1.maxPayloadJsonBytes = maximum ∧
      out.1.deviceActive = true) ∧
    ((Clashes s payload.toNormalizedTelemetry ∧ out.2.rows = .error .persistence ∧
        out.1.readings = s.readings ∧ out.1.dedupe = s.dedupe) ∨
      (¬ Clashes s payload.toNormalizedTelemetry ∧
        out.2.rows = .ok (rowsFor s payload.toNormalizedTelemetry) ∧
        out.1.readings = s.readings ++ rowsFor s payload.toNormalizedTelemetry ∧
        out.1.dedupe = (s.dedupe ++
          [TelemetryService.dedupeKey payload.toNormalizedTelemetry]).drop
            (s.dedupe.length + 1 - TelemetryService.dedupeCapacity))) := by
  have hdevice : ¬ (payload.deviceId.isSome ∧ payload.deviceId ≠ some s.registeredDeviceId) := by
    rintro ⟨hsome, hne⟩
    rcases payload.ofNode with hid | hid
    · rw [hid] at hsome
      cases hsome
    · exact hne (hnode ▸ hid)
  have hlength := payload.fits
  have hpersist := persist_active (s := (s.sessionFor payload.deviceUptimeMs payload.receivedAt).1)
    hactive payload.toNormalizedTelemetry (entryOf s payload.toNormalizedTelemetry).sessionId
    ((entryOf s payload.toNormalizedTelemetry).measuredAt payload.deviceUptimeMs)
  intro out
  have hout : out = s.ingest payload.toNormalizedTelemetry processed := rfl
  clear_value out
  unfold TelemetryService.ingest at hout
  rw [if_neg hdevice, if_neg h, if_neg (by omega)] at hout
  dsimp only at hout
  rw [if_neg payload.noVibration] at hout
  split at hpersist
  · rename_i hclash
    erw [hpersist] at hout
    subst hout
    exact ⟨⟨hnode, hmaximum, hactive⟩, .inl ⟨hclash, rfl, rfl, rfl⟩⟩
  · rename_i hclash
    erw [hpersist] at hout
    subst hout
    refine ⟨⟨hnode, hmaximum, hactive⟩, .inr ⟨hclash, rfl, rfl, ?_⟩⟩
    dsimp only [TelemetryService.remember]
    rfl

/-! ## Streams of packets -/

/-- A packet that arrived: the boot that sent it, its kind and number, and the rows stored for
it. -/
structure ReceivedPacket where
  bootNumber : ℕ
  recordType : TelemetryRecordType
  sequence : ℕ
  rows : List Reading

/-- What tells packets apart. -/
def ReceivedPacket.identity (a : ReceivedPacket) : ℕ × TelemetryRecordType × ℕ :=
  (a.bootNumber, a.recordType, a.sequence)

/-- The key a stored packet is remembered by. -/
def ReceivedPacket.key (a : ReceivedPacket) : DedupeKey := .sequenced a.recordType a.sequence

/-- The node's current boot, the service, and the packets received so far, oldest first. -/
structure IngestRun where
  bootNumber : ℕ
  service : TelemetryService
  received : List ReceivedPacket

/-- What happens: the node boots again, or a packet arrives, for the first time or again. -/
inductive IngestEvent (nodeId : Text) (maximum : ℕ) where
  | reboots
  | receives (packet : ValidPacket nodeId maximum)

namespace IngestRun

/-- A service that has just been started, for an active device. -/
def start (nodeId : Text) (maximum : ℕ) (readings : List Reading) : IngestRun where
  bootNumber := 0
  service := {
    registeredDeviceId := nodeId
    maxPayloadJsonBytes := maximum
    readings := readings }
  received := []

/-- One event; a refused packet has no rows. -/
def next (s : IngestRun) : IngestEvent nodeId maximum → IngestRun
  | .reboots => { s with bootNumber := s.bootNumber + 1 }
  | .receives packet =>
    let (service, ingested) := s.service.ingest packet.toNormalizedTelemetry false
    { s with
      service := service
      received := s.received ++ [⟨s.bootNumber, packet.recordType, packet.sequence,
        match ingested.rows with
        | .ok rows => rows
        | .error _ => []⟩] }

end IngestRun

/-- How many times a packet was stored. -/
def timesStored (received : List ReceivedPacket) (identity : ℕ × TelemetryRecordType × ℕ) : ℕ :=
  received.countP fun a => a.identity = identity ∧ a.rows ≠ []

/-- Every packet that arrived is stored exactly once. -/
def StoredOnce (received : List ReceivedPacket) : Prop :=
  ∀ a ∈ received, timesStored received a.identity = 1

/-- The keys of the last 256 stored packets. -/
def recentKeys (received : List ReceivedPacket) : List DedupeKey :=
  let keys := (received.filter (·.rows ≠ [])).map ReceivedPacket.key
  keys.drop (keys.length - TelemetryService.dedupeCapacity)

/-- The packet arrived before in this boot exactly when its key is a recent one, or the session it
is put into has a row of it. -/
def Recognized (s : IngestRun) : IngestEvent nodeId maximum → Prop
  | .reboots => True
  | .receives packet =>
    (∃ a ∈ s.received, a.identity = (s.bootNumber, packet.recordType, packet.sequence)) ↔
      .sequenced packet.recordType packet.sequence ∈ recentKeys s.received ∨
        Clashes s.service packet.toNormalizedTelemetry

/-- What holds of a run whether or not its packets are recognized. -/
structure IngestRunInvariant (nodeId : Text) (maximum : ℕ) (initial : List Reading)
    (s : IngestRun) : Prop where
  node : s.service.registeredDeviceId = nodeId
  maximum : s.service.maxPayloadJsonBytes = maximum
  active : s.service.deviceActive = true
  dedupe : s.service.dedupe = recentKeys s.received
  readings : s.service.readings = initial ++ s.received.flatMap (·.rows)

theorem dedupeKey_valid (packet : ValidPacket nodeId maximum) :
    TelemetryService.dedupeKey packet.toNormalizedTelemetry =
      .sequenced packet.recordType packet.sequence := by
  unfold TelemetryService.dedupeKey
  rw [packet.hasSequence]

/-- A packet without rows is not remembered. -/
theorem recentKeys_snoc_nil (received : List ReceivedPacket) {a : ReceivedPacket}
    (h : a.rows = []) : recentKeys (received ++ [a]) = recentKeys received := by
  simp [recentKeys, h]

/-- A stored packet is remembered, and one that is too old is forgotten. -/
theorem recentKeys_snoc (received : List ReceivedPacket) {a : ReceivedPacket} (h : a.rows ≠ []) :
    recentKeys (received ++ [a]) = (recentKeys received ++ [a.key]).drop
      ((recentKeys received).length + 1 - TelemetryService.dedupeCapacity) := by
  have hkeys : ((received ++ [a]).filter (·.rows ≠ [])).map ReceivedPacket.key =
      (received.filter (·.rows ≠ [])).map ReceivedPacket.key ++ [a.key] := by
    simp [h]
  unfold recentKeys
  rw [hkeys]
  generalize (received.filter (·.rows ≠ [])).map ReceivedPacket.key = keys
  generalize TelemetryService.dedupeCapacity = capacity
  dsimp only
  rw [List.length_append, List.length_singleton, List.length_drop]
  by_cases hfull : capacity ≤ keys.length
  · rw [← List.drop_append_of_le_length (by omega), List.drop_drop]
    congr 1
    omega
  · rw [show keys.length - capacity = 0 by omega, List.drop_zero]
    congr 1

/-- A packet that is recognized is dropped, any other one is stored. -/
theorem next_receives_rows {initial : List Reading} {s : IngestRun}
    (h : IngestRunInvariant nodeId maximum initial s) (packet : ValidPacket nodeId maximum) :
    IngestRunInvariant nodeId maximum initial (s.next (.receives packet)) ∧
      ∃ rows, (s.next (.receives packet)).received = s.received ++
          [⟨s.bootNumber, packet.recordType, packet.sequence, rows⟩] ∧
        (rows = [] ↔ .sequenced packet.recordType packet.sequence ∈ recentKeys s.received ∨
          Clashes s.service packet.toNormalizedTelemetry) := by
  by_cases hkey : TelemetryService.dedupeKey packet.toNormalizedTelemetry ∈ s.service.dedupe
  · have hingest := ingest_remembered h.node packet false hkey
    have hnext : s.next (.receives packet) = { s with
        received := s.received ++ [⟨s.bootNumber, packet.recordType, packet.sequence, []⟩] } := by
      simp only [IngestRun.next, hingest]
    rw [hnext]
    refine ⟨⟨h.node, h.maximum, h.active, ?_, ?_⟩, [], rfl, ?_⟩
    · rw [h.dedupe, recentKeys_snoc_nil _ rfl]
    · simp [h.readings]
    · rw [dedupeKey_valid, h.dedupe] at hkey
      exact ⟨fun _ => .inl hkey, fun _ => rfl⟩
  · obtain ⟨⟨hnode, hmaximum, hactive⟩, hcases⟩ :=
      ingest_fresh h.node h.maximum h.active packet false hkey
    rw [dedupeKey_valid, h.dedupe] at hkey
    rcases hcases with ⟨hclash, hrows, hreadings, hdedupe⟩ | ⟨hclash, hrows, hreadings, hdedupe⟩
    · refine ⟨⟨hnode, hmaximum, hactive, ?_, ?_⟩, [], ?_, ⟨fun _ => .inr hclash, fun _ => rfl⟩⟩
      · simp only [IngestRun.next, hrows, hdedupe]
        rw [h.dedupe, recentKeys_snoc_nil _ rfl]
      · simp only [IngestRun.next, hrows, hreadings]
        simp [h.readings]
      · simp only [IngestRun.next, hrows]
    · have hne := rowsOf_ne_nil packet.toNormalizedTelemetry
        (entryOf s.service packet.toNormalizedTelemetry).sessionId
        ((entryOf s.service packet.toNormalizedTelemetry).measuredAt packet.deviceUptimeMs)
      refine ⟨⟨hnode, hmaximum, hactive, ?_, ?_⟩,
        rowsFor s.service packet.toNormalizedTelemetry, ?_, ?_⟩
      · simp only [IngestRun.next, hrows, hdedupe]
        rw [recentKeys_snoc _ hne, dedupeKey_valid, h.dedupe]
        rfl
      · simp only [IngestRun.next, hrows, hreadings]
        simp [h.readings]
      · simp only [IngestRun.next, hrows]
      · constructor
        · intro hnil
          exact absurd hnil hne
        · rintro (hold | hold)
          · exact absurd hold hkey
          · exact absurd hold hclash

theorem ingestRunInvariant_start (nodeId : Text) (maximum : ℕ) (readings : List Reading) :
    IngestRunInvariant nodeId maximum readings (.start nodeId maximum readings) where
  node := rfl
  maximum := rfl
  active := rfl
  dedupe := by simp [recentKeys, IngestRun.start]
  readings := by simp [IngestRun.start]

theorem ingestRunInvariant_next {initial : List Reading} {s : IngestRun}
    (h : IngestRunInvariant nodeId maximum initial s) (e : IngestEvent nodeId maximum) :
    IngestRunInvariant nodeId maximum initial (s.next e) := by
  cases e with
  | reboots => exact ⟨h.node, h.maximum, h.active, h.dedupe, h.readings⟩
  | receives packet => exact (next_receives_rows h packet).1

theorem timesStored_snoc (received : List ReceivedPacket) (a : ReceivedPacket)
    (identity : ℕ × TelemetryRecordType × ℕ) :
    timesStored (received ++ [a]) identity =
      timesStored received identity + if a.identity = identity ∧ a.rows ≠ [] then 1 else 0 := by
  simp [timesStored, List.countP_append, List.countP_singleton]

/-- One event: packets stay stored once exactly when the packet is told from the others. -/
theorem storedOnce_next {initial : List Reading} {s : IngestRun}
    (h : IngestRunInvariant nodeId maximum initial s) (e : IngestEvent nodeId maximum)
    (hstored : StoredOnce s.received) : StoredOnce (s.next e).received ↔ Recognized s e := by
  cases e with
  | reboots => exact ⟨fun _ => trivial, fun _ => hstored⟩
  | receives packet =>
    obtain ⟨-, rows, hreceived, hrows⟩ := next_receives_rows h packet
    have hadded : (⟨s.bootNumber, packet.recordType, packet.sequence, rows⟩ :
        ReceivedPacket).identity = (s.bootNumber, packet.recordType, packet.sequence) := rfl
    rw [hreceived]
    simp only [Recognized]
    rw [← hrows]
    constructor
    · intro hall
      have hlast := hall _ (List.mem_append_right _ (List.mem_singleton_self _))
      rw [timesStored_snoc, hadded] at hlast
      constructor
      · rintro ⟨a, ha, hidentity⟩
        have hbefore := hstored a ha
        rw [hidentity] at hbefore
        by_contra hne
        rw [if_pos ⟨rfl, hne⟩] at hlast
        omega
      · intro hnil
        rw [if_neg (fun hboth => hboth.2 hnil)] at hlast
        have hpos : 0 < timesStored s.received
            (s.bootNumber, packet.recordType, packet.sequence) := by omega
        rw [timesStored, List.countP_pos_iff] at hpos
        obtain ⟨a, ha, hidentity⟩ := hpos
        simp only [decide_eq_true_eq] at hidentity
        exact ⟨a, ha, hidentity.1⟩
    · intro hrecognized a ha
      rw [timesStored_snoc, hadded]
      by_cases hsame : (s.bootNumber, packet.recordType, packet.sequence) = a.identity
      · by_cases hseen : ∃ b ∈ s.received,
            b.identity = (s.bootNumber, packet.recordType, packet.sequence)
        · obtain ⟨b, hb, hidentity⟩ := hseen
          have hbefore := hstored b hb
          rw [hidentity, hsame] at hbefore
          rw [hbefore, if_neg (fun hboth => hboth.2 (hrecognized.mp ⟨b, hb, hidentity⟩))]
        · have hzero : timesStored s.received a.identity = 0 := by
            rw [timesStored, List.countP_eq_zero]
            intro b hb hcontra
            simp only [decide_eq_true_eq] at hcontra
            exact hseen ⟨b, hb, hcontra.1.trans hsame.symm⟩
          rw [hzero, if_pos ⟨hsame, fun hnil => hseen (hrecognized.mpr hnil)⟩]
      · rw [if_neg (fun hboth => hsame hboth.1)]
        rw [List.mem_append, List.mem_singleton] at ha
        rcases ha with ha | rfl
        · exact hstored a ha
        · exact absurd rfl hsame

instance (received : List ReceivedPacket) : Decidable (StoredOnce received) :=
  inferInstanceAs (Decidable (∀ a ∈ received, _))

/-- A live report with its number and uptime, received without delay. -/
def report (sequence uptime : ℕ) (bootTime : ℤ) : ValidPacket "MG24-01".toList 4096 where
  deviceId := none
  recordType := .measurement
  deviceUptimeMs := some uptime
  sequenceNumber := some sequence
  receivedAt := bootTime + 1000 * uptime
  delayed := false
  event := none
  channels := [("microphone_raw".toList, ⟨some 0, some 0, none, "good".toList⟩)]
  hasVibration := false
  encodedLength := 100
  digest := []
  channels_nodup := by simp
  sequence := sequence
  hasSequence := rfl
  noVibration := by decide
  ofNode := .inl rfl
  fits := by decide

end SeedMg24.Analysis
