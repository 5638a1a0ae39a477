import SeedMg24.Analysis.RegistryStatements

/-!
# Identities of the registry

Along every run the ids of the rows stay what they are, and no hardware id becomes that of a second
active row.  A database may hold such rows from before the triggers: it gets no more of them.  An
address is taken over by a second active row only where a removed row is restored.
-/

set_option autoImplicit false

namespace SeedMg24.Analysis

open Foundation SeedMg24.Model

namespace RegistryIdentities

open Registry Registry.DeviceRegistry RegistryStatements

/-- The address of a row that is not archived. -/
def activeBleAddress (row : DeviceRow) : Option Text :=
  if row.archived then none else row.bleAddress

/-- How many active rows have a hardware id. -/
def activeRows (s : DeviceRegistry) (hardwareId : Text) : ℕ :=
  Places.holders DeviceRow.activeHardwareId s.devices hardwareId

/-- How many active rows have an address. -/
def activeRowsAt (s : DeviceRegistry) (address : Text) : ℕ :=
  Places.holders activeBleAddress s.devices address

/-- How many restorations of rows with an address the log holds. -/
def restorations (events : List DeviceLifecycleEvent) (address : Text) : ℕ :=
  events.countP fun event => event.eventType = .gatewayRestored ∧ event.bleAddress = some address

/-- The ids of a row. -/
def ids (row : DeviceRow) : ℕ × Text := (row.recordId, row.deviceId)

/-- The tables are like those before a run: what is said of the ids, and how crowded hardware ids
and addresses are. -/
structure Keeps (start t : Tables) : Prop where
  recordIds : (t.devices.map DeviceRow.recordId).Nodup
  deviceIds : (t.devices.map DeviceRow.deviceId).Nodup
  kept : start.devices.map ids <+: t.devices.map ids
  logged : start.events <+: t.events
  hardwareIds : ∀ hardwareId, Places.holders DeviceRow.activeHardwareId t.devices hardwareId ≤
    max 1 (Places.holders DeviceRow.activeHardwareId start.devices hardwareId)
  addresses : ∀ address, Places.holders activeBleAddress t.devices address +
      restorations start.events address ≤
    max 1 (Places.holders activeBleAddress start.devices address) + restorations t.events address

variable {start t : Tables}

theorem holders_trans {before after first : ℕ} (hfirst : before ≤ max 1 first)
    (h : after ≤ max 1 before) : after ≤ max 1 first :=
  h.trans (max_le (le_max_left _ _) hfirst)

/-- A row without a hardware id, or an archived one, takes no place. -/
theorem isTaken_eq_false {row : DeviceRow} (h : row.activeHardwareId = none) :
    RegistryStatements.isTaken t row = false := by
  unfold RegistryStatements.isTaken Places.isTaken
  rw [h]
  rfl

/-- A new row finds its address free. -/
theorem bleAddress_free {row : DeviceRow} (hnew : IsNew t row) :
    Places.isTaken DeviceRow.recordId activeBleAddress t.devices row = false := by
  by_contra htaken
  unfold Places.isTaken at htaken
  rw [Bool.not_eq_false, Bool.and_eq_true, List.any_eq_true, Option.isSome_iff_exists] at htaken
  obtain ⟨⟨address, hplace⟩, other, hother, hsame⟩ := htaken
  rw [decide_eq_true_iff, hplace] at hsame
  have haddress : row.bleAddress = some address := by
    unfold activeBleAddress at hplace
    rwa [hnew.archived, if_neg Bool.false_ne_true] at hplace
  cases harchived : other.archived with
  | true => simp [activeBleAddress, harchived] at hsame
  | false =>
    refine hnew.bleAddress address haddress other hother harchived ?_
    simpa [activeBleAddress, harchived] using hsame.2

/-- A change of one row that keeps its ids, and takes no hardware id or address. -/
theorem Keeps.modify (h : Keeps start t) (recordId : ℕ) {f : DeviceRow → DeviceRow}
    (hids : ∀ row ∈ t.devices, row.recordId = recordId → ids (f row) = ids row)
    (hhardware : ∀ hardwareId,
      Places.holders DeviceRow.activeHardwareId (t.modify recordId f).devices hardwareId ≤
        max 1 (Places.holders DeviceRow.activeHardwareId t.devices hardwareId))
    {events : List DeviceLifecycleEvent} (hevents : t.events <+: events)
    (haddress : ∀ address,
      Places.holders activeBleAddress (t.modify recordId f).devices address +
          restorations t.events address ≤
        Places.holders activeBleAddress t.devices address + restorations events address) :
    Keeps start { t.modify recordId f with events := events } := by
  have hmap : (t.modify recordId f).devices.map ids = t.devices.map ids :=
    Places.map_modify ids hids
  have hrecord : (t.modify recordId f).devices.map DeviceRow.recordId =
      t.devices.map DeviceRow.recordId :=
    Places.map_modify _ fun row hrow hid => congrArg Prod.fst (hids row hrow hid)
  have hdevice : (t.modify recordId f).devices.map DeviceRow.deviceId =
      t.devices.map DeviceRow.deviceId :=
    Places.map_modify _ fun row hrow hid => congrArg Prod.snd (hids row hrow hid)
  refine ⟨?_, ?_, ?_, h.logged.trans hevents, fun hardwareId => ?_, fun address => ?_⟩
  · show ((t.modify recordId f).devices.map DeviceRow.recordId).Nodup
    rw [hrecord]
    exact h.recordIds
  · show ((t.modify recordId f).devices.map DeviceRow.deviceId).Nodup
    rw [hdevice]
    exact h.deviceIds
  · show start.devices.map ids <+: (t.modify recordId f).devices.map ids
    rw [hmap]
    exact h.kept
  · exact holders_trans (h.hardwareIds hardwareId) (hhardware hardwareId)
  · have hbefore := h.addresses address
    have hstep := haddress address
    show Places.holders activeBleAddress (t.modify recordId f).devices address +
      restorations start.events address ≤ _ + restorations events address
    omega

/-- **One statement.** -/
theorem Keeps.statement {after : Tables} (h : Keeps start t) (hstatement : Statement t after) :
    Keeps start after := by
  cases hstatement with
  | inserts row hnew =>
    have hplace : row.activeHardwareId = none := by
      unfold DeviceRow.activeHardwareId
      rw [hnew.hardwareId]
      simp
    refine ⟨?_, ?_, ?_, h.logged, fun hardwareId => ?_, fun address => ?_⟩
    · rw [List.map_append]
      refine h.recordIds.append (List.nodup_singleton _) fun id hid hrow => ?_
      obtain ⟨other, hother, rfl⟩ := List.mem_map.mp hid
      exact hnew.recordId other hother (List.mem_singleton.mp hrow)
    · rw [List.map_append]
      refine h.deviceIds.append (List.nodup_singleton _) fun id hid hrow => ?_
      obtain ⟨other, hother, rfl⟩ := List.mem_map.mp hid
      exact hnew.deviceId other hother (List.mem_singleton.mp hrow)
    · rw [List.map_append]
      exact h.kept.trans (List.prefix_append _ _)
    · exact holders_trans (h.hardwareIds hardwareId)
        (Places.holders_append_le hnew.recordId (isTaken_eq_false hplace) hardwareId)
    · have hbefore := h.addresses address
      have hlog : restorations start.events address ≤ restorations t.events address :=
        h.logged.sublist.countP_le
      show Places.holders activeBleAddress (t.devices ++ [row]) address + _ ≤
        _ + restorations t.events address
      have happend : Places.holders activeBleAddress (t.devices ++ [row]) address ≤
          max 1 (Places.holders activeBleAddress t.devices address) :=
        Places.holders_append_le hnew.recordId (bleAddress_free hnew) address
      omega
  | describes recordId f hdescribes =>
    refine h.modify recordId (fun row hrow hid => ?_) (fun hardwareId => ?_)
      (List.prefix_refl t.events) fun address => ?_
    · obtain ⟨hrecord, hdevice⟩ := (hdescribes row hrow hid)
      exact Prod.ext hrecord hdevice
    · refine le_max_of_le_right (Places.holders_modify_of_place_eq (fun row hrow hid => ?_) _).le
      unfold DeviceRow.activeHardwareId
      rw [(hdescribes row hrow hid).archived, (hdescribes row hrow hid).hardwareId]
    · refine Nat.add_le_add_right
        (Places.holders_modify_of_place_eq (fun row hrow hid => ?_) _).le _
      unfold activeBleAddress
      rw [(hdescribes row hrow hid).archived, (hdescribes row hrow hid).bleAddress]
  | associates recordId hardwareId f hdescribes hfree =>
    refine h.modify recordId (fun row hrow hid => ?_) (fun other => ?_)
      (List.prefix_refl t.events) fun address => ?_
    · exact Prod.ext (hdescribes row).recordId (hdescribes row).deviceId
    · exact Places.holders_modify_le h.recordIds (fun row => (hdescribes row).recordId) hfree other
    · refine Nat.add_le_add_right
        (Places.holders_modify_of_place_eq (fun row hrow hid => ?_) _).le _
      unfold activeBleAddress
      rw [(hdescribes row).archived, (hdescribes row).bleAddress]
  | removes device reason now event hdevice hactive hevent =>
    refine h.modify device.recordId (f := (·.removed reason now)) (fun row hrow hid => rfl)
      (fun hardwareId => ?_) (List.prefix_append t.events [event]) fun address => ?_
    · have hfree : ∀ row ∈ t.devices, row.recordId = device.recordId →
          RegistryStatements.isTaken t (row.removed reason now) = false :=
        fun row _ _ => isTaken_eq_false rfl
      exact Places.holders_modify_le h.recordIds (f := (·.removed reason now)) (fun row => rfl)
        hfree hardwareId
    · refine Nat.add_le_add (Places.holders_modify_mono fun row hrow hid hplace => ?_)
        (List.sublist_append_left _ _).countP_le
      cases hplace
  | restores device event hdevice hinactive hfree hevent =>
    refine h.modify device.recordId (f := (·.restored)) (fun row hrow hid => rfl)
      (fun hardwareId => ?_) (List.prefix_append t.events [event]) fun address => ?_
    · exact Places.holders_modify_le h.recordIds (f := (·.restored)) (fun row => rfl) hfree
        hardwareId
    · by_cases haddress : device.bleAddress = some address
      · -- the row may take an address that another has, and the log tells
        have hlogged : restorations (t.events ++ [event]) address =
            restorations t.events address + 1 := by
          unfold restorations
          rw [List.countP_append, List.countP_singleton, if_pos]
          exact decide_eq_true ⟨hevent.1, hevent.2.2.trans haddress⟩
        have hstep : Places.holders activeBleAddress
            (t.modify device.recordId (·.restored)).devices address ≤
            Places.holders activeBleAddress t.devices address + 1 :=
          Places.holders_modify_le_succ h.recordIds address
        rw [hlogged]
        omega
      · refine Nat.add_le_add (Places.holders_modify_mono fun row hrow hid hplace => ?_)
          (List.sublist_append_left _ _).countP_le
        obtain rfl := List.inj_on_of_nodup_map h.recordIds hrow hdevice hid
        exact absurd hplace haddress

/-- Several statements. -/
theorem Keeps.statements {after : Tables} (h : Keeps start t) (hstatements : Statements t after) :
    Keeps start after := by
  induction hstatements with
  | refl => exact h
  | tail _ hstatement ih => exact ih.statement hstatement

/-- **A run.** -/
theorem keeps_after (S : Settings) {s : DeviceRegistry}
    (hrecords : (s.devices.map DeviceRow.recordId).Nodup)
    (hdevices : (s.devices.map DeviceRow.deviceId).Nodup) (events : List RegistryEvent) :
    Keeps (tables s) (tables (Runs.after (next S) s events)) := by
  refine Runs.after_invariant (next S) (I := fun after => Keeps (tables s) (tables after)) ?_
    (fun after event h => h.statements (statements_next S h.recordIds event)) events
  exact ⟨hrecords, hdevices, List.prefix_refl _, List.prefix_refl _, fun _ => le_max_right _ _,
    fun _ => Nat.add_le_add_right (le_max_right _ _) _⟩

end RegistryIdentities

open Registry Registry.DeviceRegistry RegistryStatements RegistryIdentities

/-- **The registry keeps its identities.**  After every run, whatever requests, writes in threads,
resets and workflows it is made of, no hardware id is that of a second active row unless it was
before; no row has gone, and none has another id; record ids and device ids are those of one row;
and as many active rows have one address as there were restorations at it, and one more. -/
theorem registry_keeps_identities (S : Settings) (s : DeviceRegistry)
    (hrecords : (s.devices.map DeviceRow.recordId).Nodup)
    (hdevices : (s.devices.map DeviceRow.deviceId).Nodup) (events : List RegistryEvent) :
    let after := Runs.after (next S) s events
    (∀ hardwareId, activeRows after hardwareId ≤ max 1 (activeRows s hardwareId)) ∧
      s.devices.map ids <+: after.devices.map ids ∧
      (after.devices.map DeviceRow.recordId).Nodup ∧
      (after.devices.map DeviceRow.deviceId).Nodup ∧
      ∃ log, after.events = s.events ++ log ∧ ∀ address,
        activeRowsAt after address ≤ max 1 (activeRowsAt s address) + restorations log address := by
  have h := keeps_after S hrecords hdevices events
  refine ⟨h.hardwareIds, h.kept, h.recordIds, h.deviceIds, ?_⟩
  obtain ⟨log, hlog⟩ := h.logged
  refine ⟨log, hlog.symm, fun address => ?_⟩
  have haddress := h.addresses address
  have hsplit : restorations (tables (Runs.after (next S) s events)).events address =
      restorations s.events address + restorations log address := by
    rw [← hlog]
    exact List.countP_append ..
  rw [hsplit] at haddress
  change activeRowsAt _ address + restorations s.events address ≤
    max 1 (activeRowsAt s address) + _ at haddress
  omega

namespace RegistryIdentities

def plainSettings : Settings := ⟨fun _ => true, id, []⟩

def hardwareId : Text := "0x1122334455667788".toList

/-- A database from before the triggers: two active rows with one hardware id. -/
def legacy : DeviceRegistry where
  devices := [
    { recordId := 1, deviceId := "PUMP-01".toList, displayName := "Pump".toList
      bleAddress := some "AA:01".toList, hardwareId := some hardwareId },
    { recordId := 2, deviceId := "PUMP-02".toList, displayName := "Pump".toList
      bleAddress := some "AA:02".toList, hardwareId := some hardwareId }]

/-- The second row is removed, another sensor takes its address, and both it and the removed row are
asked for the hardware id. -/
def takeover : List RegistryEvent := [
  .confirmLifecycle false "PUMP-02".toList none none 0 0,
  .executeLifecycle ⟨0, false, "PUMP-02".toList, none, none, none⟩ "connected".toList 5,
  .register ⟨"PUMP-03".toList, "Pump".toList, "AA:02".toList, [], none, none, false⟩
    (some ⟨"AA:02".toList, none, true, none⟩),
  .confirmReset ⟨"PUMP-03".toList, hardwareId, "COM3".toList⟩
    (.ok { hardwareId := some hardwareId, nodeId := some "PUMP-03".toList
           identityStatus := some "ok".toList }) 6,
  .writes 0,
  .confirmLifecycle true "PUMP-02".toList (some hardwareId) (some "AA:02".toList) 7 7,
  .executeLifecycle ⟨2, true, "PUMP-02".toList, some hardwareId, some "AA:02".toList, none⟩ [] 8]

end RegistryIdentities

/-- The rows of the legacy database get no third one with their hardware id. -/
theorem takeover_keeps_identities :
    let after := Runs.after (next plainSettings) legacy takeover
    (∀ hardwareId, activeRows after hardwareId ≤ max 1 (activeRows legacy hardwareId)) ∧
      legacy.devices.map ids <+: after.devices.map ids ∧
      (after.devices.map DeviceRow.recordId).Nodup ∧
      (after.devices.map DeviceRow.deviceId).Nodup ∧
      ∃ log, after.events = legacy.events ++ log ∧ ∀ address,
        activeRowsAt after address ≤
          max 1 (activeRowsAt legacy address) + restorations log address :=
  registry_keeps_identities plainSettings legacy (by decide) (by decide) takeover

-- the write for the new row is aborted, and the restoration is refused
example :
    let after := Runs.after (next plainSettings) legacy takeover
    (after.devices.map (·.hardwareId), after.events.length, after.tasks) =
      ([some hardwareId, some hardwareId, none], 1, [.done]) := by decide

end SeedMg24.Analysis
