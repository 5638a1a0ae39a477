import SeedMg24.Analysis.BootstrapRequests
import SeedMg24.Analysis.StoreHistories

/-!
# Restoring a configuration over USB

What `restore_configuration` makes of the seven numbers of a request.  Three of them are stored in a
byte, and they are cut down to it before anything is checked.
-/

set_option autoImplicit false

namespace SeedMg24.Analysis

open Foundation Foundation.TwoSlot Foundation.Json Model Model.BootstrapHost

/-! ## Requests -/

/-- The seven numbers of a request, as received. -/
structure ReceivedSettings where
  sample : UInt32
  process : UInt32
  report : UInt32
  heartbeat : UInt32
  filter : UInt32
  window : UInt32
  enabled : UInt32
deriving DecidableEq, Repr

namespace ReceivedSettings

/-- The bounds of `validate_stored_configuration`.
SOURCE: configuration_store.cpp:20-24 -/
def withinBounds (n : ReceivedSettings) : Bool :=
  n.enabled ≤ 1 && 10 ≤ n.sample && n.sample ≤ 5000 && 10 ≤ n.process && n.process ≤ 5000 &&
    50 ≤ n.report && n.report ≤ 5000 && 1000 ≤ n.heartbeat && n.heartbeat ≤ 3600000 &&
    n.filter ≤ FilterType.digitalDebounce.toUInt32 && 1 ≤ n.window && n.window ≤ 9

/-- What is proposed to the store.
SOURCE: usb_bootstrap.cpp:44 -/
def narrowed (n : ReceivedSettings) : StoredChannelConfiguration where
  sampleIntervalMs := n.sample
  processingIntervalMs := n.process
  reportIntervalMs := n.report
  heartbeatIntervalMs := n.heartbeat
  filterType := n.filter.toUInt8
  filterWindow := n.window.toUInt8
  enabled := n.enabled.toUInt8

/-- Each of the three numbers that are stored in a byte is one. -/
def fitsBytes (n : ReceivedSettings) : Bool := n.filter < 256 && n.window < 256 && n.enabled < 256

end ReceivedSettings

/-- The configuration has exactly these seven values. -/
structure HasValues (c : StoredChannelConfiguration) (n : ReceivedSettings) : Prop where
  sample : c.sampleIntervalMs = n.sample
  process : c.processingIntervalMs = n.process
  report : c.reportIntervalMs = n.report
  heartbeat : c.heartbeatIntervalMs = n.heartbeat
  filter : c.filterType.toUInt32 = n.filter
  window : c.filterWindow.toUInt32 = n.window
  enabled : c.enabled.toUInt32 = n.enabled

/-- The request has these seven numbers.
SOURCE: usb_bootstrap.cpp:44 -/
structure Carries (json : Text) (n : ReceivedSettings) : Prop where
  sample : jsonUint json "sample_interval_ms".toList = some n.sample
  process : jsonUint json "processing_interval_ms".toList = some n.process
  report : jsonUint json "report_interval_ms".toList = some n.report
  heartbeat : jsonUint json "heartbeat_interval_ms".toList = some n.heartbeat
  filter : jsonUint json "filter_type".toList = some n.filter
  window : jsonUint json "filter_window".toList = some n.window
  enabled : jsonUint json "enabled".toList = some n.enabled

/-- A line that asks to restore these seven numbers. -/
structure RestoreRequest (line : Text) (h : RequestHeader) (n : ReceivedSettings) : Prop where
  prefixed : kBootstrapPrefix.isPrefixOf (Text.cString line) = true
  header : requestHeader ((Text.cString line).drop kBootstrapPrefix.length) = some h
  type : h.type = "bootstrap_request".toList
  version : h.version = 1
  action : h.action = "restore_configuration".toList
  carries : Carries ((Text.cString line).drop kBootstrapPrefix.length) n

/-- A configuration store that takes a write. -/
structure UsableStore (nvm : Nvm) : Prop where
  coherent : Coherent (configurationStore nvm)
  readable : (configurationStore nvm).load ≠ .corrupt

theorem UsableStore.exists_next {nvm : Nvm} (h : UsableStore nvm) :
    ∃ g, nextConfigurationGeneration nvm = some g :=
  h.coherent.exists_nextGeneration h.readable

/-! ## The answer -/

/-- A failure is not mistaken for a success. -/
theorem failure_ne_success (h : RequestHeader) (error result : Text) :
    h.failure error ≠ h.success result := by
  unfold RequestHeader.failure RequestHeader.success respond
  simp only [List.append_assoc, ne_eq, List.append_cancel_left_eq, String.reduceToList]
  simp

theorem proposedConfiguration_of_carries {json : Text} {n : ReceivedSettings} (h : Carries json n) :
    proposedConfiguration json = some n.narrowed := by
  unfold proposedConfiguration
  rw [h.sample, h.process, h.report, h.heartbeat, h.filter, h.window, h.enabled]
  rfl

/-- The action is the one with this handler. -/
theorem handleAction_restore (d : BootstrapDevice) {h : RequestHeader}
    (haction : h.action = "restore_configuration".toList) (c : FactoryResetController) (json : Text)
    (now : UInt32) :
    handleAction d h c json now = (do return (← restoreConfiguration h c json, c)) := by
  unfold handleAction
  simp only [haction, stateActions, List.mem_cons, List.not_mem_nil, String.toList_inj, or_false]
  simp

/-- What the line makes the node do. -/
theorem handleLine_restore (d : BootstrapDevice) {c : FactoryResetController} {line : Text}
    (now : UInt32) {h : RequestHeader} {n : ReceivedSettings} (hrequest : RestoreRequest line h n)
    (hbusy : c.busy = false) :
    handleLine d c line now = (do
      let stored ← configurationWrite n.narrowed {}
      return some (if stored.1 ≠ .ok then h.failure (storeStatusName stored.1)
        else h.success (restoredJson stored.2), c)) := by
  have hversion : ¬ (h.type ≠ "bootstrap_request".toList ∨ h.version ≠ 1) :=
    not_or.mpr ⟨not_not.mpr hrequest.type, not_not.mpr hrequest.version⟩
  unfold handleLine
  dsimp only
  rw [hrequest.prefixed, hrequest.header]
  dsimp only
  rw [if_neg hversion, handleAction_restore d hrequest.action]
  unfold restoreConfiguration
  rw [hbusy, proposedConfiguration_of_carries hrequest.carries]
  simp only [Bool.not_true, Bool.false_eq_true, if_false, Program.pure_eq_done,
    Program.bind_assoc', Program.done_bind]
  congr 1
  funext stored
  split <;> rfl

/-- **The answer to a request**, on a backend that works: the configuration is stored if the narrowed
numbers are in range. -/
theorem run_restore (d : BootstrapDevice) {c : FactoryResetController} {line : Text} (now : UInt32)
    {h : RequestHeader} {n : ReceivedSettings} (hrequest : RestoreRequest line h n)
    (hbusy : c.busy = false) {nvm : Nvm} (husable : UsableStore nvm) :
    let after := (handleLine d c line now).run healthy nvm fun _ => ()
    (settingsInRange n.narrowed = true ∧ (∃ result, after.value = some (h.success result, c)) ∧
        ∃ g, Loads after.state (sealConfiguration n.narrowed g)) ∨
      (settingsInRange n.narrowed = false ∧ ∃ error, after.value = some (h.failure error, c)) := by
  obtain ⟨g, hnext⟩ := husable.exists_next
  dsimp only
  rw [handleLine_restore d now hrequest hbusy, Program.run_bind]
  cases hr : settingsInRange n.narrowed with
  | false =>
    rw [run_configurationWrite_invalid healthy_faithful hnext hr]
    exact .inr ⟨rfl, _, rfl⟩
  | true =>
    have hrun := run_configurationWrite healthy_faithful hnext hr {} fun _ => ()
    have hstep : healthy.step nvm (.write (configurationTarget g)
      (configurationRecord n.narrowed g)) () =
        (.ok, nvm.put (configurationTarget g) (some (configurationRecord n.narrowed g))) := rfl
    obtain ⟨r, hnew⟩ := husable.coherent.load_after_write (v := sealConfiguration n.narrowed g) hnext
    have hread : configurationReadback (nvm.put (configurationTarget g)
        (some (configurationRecord n.narrowed g))) g .ok {} = (.ok, sealConfiguration n.narrowed g) := by
      simp [configurationReadback, configSlotOf_record hr]
    dsimp only at hrun
    rw [hrun, hstep, hread]
    refine .inl ⟨rfl, ⟨_, rfl⟩, g, loads_iff.mpr ⟨g, r, ?_⟩⟩
    show (configurationStore (nvm.put (configurationTarget g)
      (some (configurationRecord n.narrowed g)))).load = _
    rw [configurationStore_put, configSlotOf_record hr]
    exact hnew

/-! ## What is stored -/

namespace ReceivedSettings

variable {n : ReceivedSettings}

/-- A number that is a byte is stored as it is. -/
theorem toUInt32_toUInt8 {m : UInt32} (h : m < 256) : m.toUInt8.toUInt32 = m := by
  apply UInt32.toNat_inj.mp
  have hm := UInt32.lt_iff_toNat_lt.mp h
  simp at hm ⊢
  omega

/-- Numbers within the bounds are bytes where they must be. -/
theorem fitsBytes_of_withinBounds (h : n.withinBounds = true) : n.fitsBytes = true := by
  have hconstants : (FilterType.digitalDebounce.toUInt32).toNat = 4 ∧ (9 : UInt32).toNat = 9 ∧
      (1 : UInt32).toNat = 1 ∧ (256 : UInt32).toNat = 256 := by decide
  simp only [withinBounds, Bool.and_eq_true, decide_eq_true_eq, UInt32.le_iff_toNat_le] at h
  simp only [fitsBytes, Bool.and_eq_true, decide_eq_true_eq, UInt32.lt_iff_toNat_lt]
  omega

/-- Then narrowing changes nothing that is checked. -/
theorem settingsInRange_narrowed (h : n.fitsBytes = true) :
    settingsInRange n.narrowed = n.withinBounds := by
  simp only [fitsBytes, Bool.and_eq_true, decide_eq_true_eq] at h
  have hle {m : UInt32} (hm : m < 256) (b : UInt8) : (m.toUInt8 ≤ b) ↔ m ≤ b.toUInt32 := by
    rw [UInt8.le_iff_toNat_le, UInt32.le_iff_toNat_le, ← UInt8.toNat_toUInt32,
      toUInt32_toUInt8 hm, UInt8.toNat_toUInt32]
  have hge {m : UInt32} (hm : m < 256) (b : UInt8) : (b ≤ m.toUInt8) ↔ b.toUInt32 ≤ m := by
    rw [UInt8.le_iff_toNat_le, UInt32.le_iff_toNat_le, ← UInt8.toNat_toUInt32 (x := m.toUInt8),
      toUInt32_toUInt8 hm, UInt8.toNat_toUInt32]
  unfold settingsInRange withinBounds narrowed
  simp only [hle h.1.1, hle h.1.2, hge h.1.2, hle h.2]
  rfl

theorem hasValues_narrowed (h : n.fitsBytes = true) (g : UInt32) :
    HasValues (sealConfiguration n.narrowed g) n := by
  simp only [fitsBytes, Bool.and_eq_true, decide_eq_true_eq] at h
  exact ⟨rfl, rfl, rfl, rfl, toUInt32_toUInt8 h.1.1, toUInt32_toUInt8 h.1.2, toUInt32_toUInt8 h.2⟩

end ReceivedSettings

/-- What a request stores is what it asked for, or it fails and its numbers are out of bounds. -/
structure StoresWhatWasAsked (after : Outcome Nvm Unit (Option (Text × FactoryResetController)))
    (h : RequestHeader) (c : FactoryResetController) (n : ReceivedSettings) : Prop where
  succeeds : (∃ result, after.value = some (h.success result, c)) ↔ n.withinBounds = true
  stored : (∃ result, after.value = some (h.success result, c)) →
    ∃ stored, Loads after.state stored ∧ HasValues stored n

/-- **What `restore_configuration` stores.**  For every request, every usable store and a backend
that works: it succeeds exactly on numbers within the bounds, and stores exactly them, if and only
if the three numbers that are stored in a byte are bytes, or the numbers are out of bounds even when
they are cut down.
SOURCE: usb_bootstrap.cpp:21-23, 44; configuration_store.cpp:18-26, 88-97 -/
theorem restore_storesWhatWasAsked_iff (d : BootstrapDevice) {c : FactoryResetController}
    {line : Text} (now : UInt32) {h : RequestHeader} {n : ReceivedSettings}
    (hrequest : RestoreRequest line h n) (hbusy : c.busy = false) {nvm : Nvm}
    (husable : UsableStore nvm) :
    StoresWhatWasAsked ((handleLine d c line now).run healthy nvm fun _ => ()) h c n ↔
      (n.fitsBytes = true ∨ settingsInRange n.narrowed = false) := by
  have hrun := run_restore d now hrequest hbusy husable
  dsimp only at hrun
  generalize (handleLine d c line now).run healthy nvm (fun _ => ()) = after at hrun ⊢
  constructor
  · intro hasked
    rcases hrun with ⟨-, hsuccess, -⟩ | ⟨hrange, -⟩
    · exact .inl (ReceivedSettings.fitsBytes_of_withinBounds (hasked.succeeds.mp hsuccess))
    · exact .inr hrange
  · intro hcondition
    rcases hrun with ⟨hrange, hsuccess, g, hloads⟩ | ⟨hrange, error, hfailure⟩
    · have hfits : n.fitsBytes = true := by simpa [hrange] using hcondition
      rw [ReceivedSettings.settingsInRange_narrowed hfits] at hrange
      exact ⟨iff_of_true hsuccess hrange, fun _ =>
        ⟨_, hloads, ReceivedSettings.hasValues_narrowed hfits g⟩⟩
    · have hfails : ¬ ∃ result, after.value = some (h.success result, c) := by
        rintro ⟨result, hvalue⟩
        rw [hfailure, Option.some.injEq, Prod.mk.injEq] at hvalue
        exact failure_ne_success h error result hvalue.1
      have hbounds : ¬ n.withinBounds = true := by
        intro hwithin
        rw [ReceivedSettings.settingsInRange_narrowed
          (ReceivedSettings.fitsBytes_of_withinBounds hwithin), hwithin] at hrange
        cases hrange
      exact ⟨iff_of_false hfails hbounds, fun hsuccess => absurd hsuccess hfails⟩

/-! ## Requests for any numbers -/

/-- The parameters of a request. -/
def restoreFields (n : ReceivedSettings) : Dict := [
  ("sample_interval_ms".toList, .integer n.sample.toNat),
  ("processing_interval_ms".toList, .integer n.process.toNat),
  ("report_interval_ms".toList, .integer n.report.toNat),
  ("heartbeat_interval_ms".toList, .integer n.heartbeat.toNat),
  ("filter_type".toList, .integer n.filter.toNat),
  ("filter_window".toList, .integer n.window.toNat),
  ("enabled".toList, .integer n.enabled.toNat)]

/-- The request as the host prints it, and what it is read as. -/
def restoreLine (n : ReceivedSettings) : Text :=
  kBootstrapPrefix ++
    canonicalJson (requestItems "req-1".toList "restore_configuration".toList (restoreFields n))

def restoreHeader : RequestHeader where
  compact := false
  request := "req-1".toList
  type := "bootstrap_request".toList
  action := "restore_configuration".toList
  version := 1

theorem plainParameters_restoreFields (n : ReceivedSettings) : PlainParameters (restoreFields n) where
  nodup := by
    simp only [restoreFields, List.map_cons, List.map_nil]
    decide
  named := by
    have hnames : ∀ name ∈ (restoreFields n).map Prod.fst, IsName name := by
      simp only [restoreFields, List.map_cons, List.map_nil]
      unfold IsName IsBare
      decide
    exact fun item hitem => hnames _ (List.mem_map_of_mem hitem)
  valued := by
    have hword (m : UInt32) : FieldValue.IsPlain (.integer m.toNat) := by
      have hm := m.toNat_lt
      exact ⟨by omega, by omega⟩
    intro item hitem
    simp only [restoreFields, List.mem_cons, List.not_mem_nil, or_false] at hitem
    rcases hitem with rfl | rfl | rfl | rfl | rfl | rfl | rfl <;> exact hword _
  own := by
    have hnames : ∀ name ∈ (restoreFields n).map Prod.fst, name ∉ requestNames := by
      simp only [restoreFields, List.map_cons, List.map_nil]
      decide
    exact fun item hitem => hnames _ (List.mem_map_of_mem hitem)

/-- **Every seven numbers can be asked for.** -/
theorem restoreRequest_restoreLine (n : ReceivedSettings) :
    RestoreRequest (restoreLine n) restoreHeader n := by
  have hfields := plainParameters_restoreFields n
  have hid : validRequestId "req-1".toList := by decide
  have haction : "restore_configuration".toList ∈ ALLOWED_ACTIONS := by decide
  have hextracts := extracts_requestItems hfields hid haction
  have hplain := requestItems_plain hfields hid haction
  have hconfirm : "restore_configuration".toList ≠ "confirm_factory_reset".toList := by decide
  have hnul : Text.cString (restoreLine n) = restoreLine n := by
    apply Text.cString_eq_self
    rw [restoreLine, List.mem_append, not_or]
    exact ⟨by decide, no_control_canonicalJson hplain (by decide)⟩
  have hjson : (Text.cString (restoreLine n)).drop kBootstrapPrefix.length =
      canonicalJson (requestItems "req-1".toList "restore_configuration".toList
        (restoreFields n)) := by
    rw [hnul]
    exact List.drop_left
  have hread (name : Text) (m : UInt32) (hmem : (name, .integer m.toNat) ∈ restoreFields n) :
      jsonUint (canonicalJson (requestItems "req-1".toList "restore_configuration".toList
        (restoreFields n))) name = some m := by
    have hvalue := hextracts.integers name m.toNat hmem
    rw [sentName, if_neg hconfirm, Option.map_eq_some_iff] at hvalue
    obtain ⟨v, hv, hsame⟩ := hvalue
    rw [hv, UInt32.toNat_inj.mp (Int.ofNat_inj.mp hsame)]
  refine ⟨?_, ?_, rfl, rfl, rfl, ?_⟩
  · rw [hnul]
    exact List.isPrefixOf_iff_prefix.mpr (List.prefix_append _ _)
  · rw [hjson, hextracts.header, decide_eq_false hconfirm]
    rfl
  · rw [hjson]
    constructor <;> exact hread _ _ (by simp [restoreFields])

/-! ## The known filters and others -/

theorem usableStore_empty : UsableStore Nvm.empty :=
  ⟨slotInvariant_empty.coherent, by
    rw [show (configurationStore Nvm.empty).load = .empty by rfl]
    exact nofun⟩

/-- A request for the defaults with another filter. -/
def filterSettings (filter : UInt32) : ReceivedSettings where
  sample := 100
  process := 100
  report := 100
  heartbeat := 30000
  filter := filter
  window := 5
  enabled := 1

/-- Filter 1 is stored as it is asked for. -/
theorem restore_storesWhatWasAsked_known :
    StoresWhatWasAsked ((handleLine ⟨1, none, none⟩ {} (restoreLine (filterSettings 1)) 10).run
      healthy Nvm.empty fun _ => ()) restoreHeader {} (filterSettings 1) :=
  (restore_storesWhatWasAsked_iff ⟨1, none, none⟩ 10 (restoreRequest_restoreLine (filterSettings 1))
    rfl usableStore_empty).mpr (.inl (by decide))

/-- Filter 257 is none there is, and is stored as filter 1. -/
theorem not_restore_storesWhatWasAsked_unknown :
    RestoreRequest (restoreLine (filterSettings 257)) restoreHeader (filterSettings 257) ∧
      UsableStore Nvm.empty ∧
      ¬ StoresWhatWasAsked
        ((handleLine ⟨1, none, none⟩ {} (restoreLine (filterSettings 257)) 10).run healthy Nvm.empty
          fun _ => ()) restoreHeader {} (filterSettings 257) := by
  have hrequest := restoreRequest_restoreLine (filterSettings 257)
  refine ⟨hrequest, usableStore_empty, fun hasked => ?_⟩
  have hrun := run_restore ⟨1, none, none⟩ 10 hrequest (c := {}) rfl usableStore_empty
  rcases hrun with ⟨-, hsuccess, -⟩ | ⟨hrange, -⟩
  · exact absurd (hasked.succeeds.mp hsuccess) (by decide)
  · exact absurd hrange (by decide)

end SeedMg24.Analysis
