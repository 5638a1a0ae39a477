import SeedMg24.Analysis.BootstrapResponses
import SeedMg24.Analysis.ResetRequests
import SeedMg24.Foundation.DecimalNumbers

/-!
# A factory reset that succeeds

The conversation with a sensor that answers every request as it should.  Whatever the ids of its
requests and the texts of its lines are, the operation is complete at its end.
-/

set_option autoImplicit false

namespace SeedMg24.Analysis

open Foundation Foundation.Json SeedMg24.Model SeedMg24.Model.BootstrapClient SeedMg24.Model.UsbResetRun

namespace ResetConversations

/-! ## Requests that are answered -/

/-- A request and the line it is answered with. -/
structure Exchange where
  requestId : Text
  line : Text
  reply : List UInt8

/-- Its events. -/
def Exchange.events (x : Exchange) : Events :=
  [⟨.tokenHex, x.requestId⟩, ⟨.resetInputBuffer, (.ok () : Except Raised Unit)⟩, sent x.line,
    ⟨.flush, (.ok () : Except Raised Unit)⟩, received x.reply]

/-- The line is the request's, and the reply is a response to it with a result. -/
structure Exchange.Answers (x : Exchange) (printing : Printing) (action : Text)
    (fields : List (Text × Json)) (result : Json) : Prop where
  isRequest : encodeRequest printing x.requestId action fields = .ok x.line
  isResponse : ∃ response, decodeResponse x.reply x.requestId action = .ok response ∧
    isStr (response.get? "status".toList) "error".toList = false ∧
    response.get? "result".toList = some result

section Exchanges

variable {printing : Printing} {requestId action : Text} {fields : List (Text × Json)} {result : Json}

/-- What is decoded has the prefix of the protocol. -/
theorem isPrefixOf_of_decodeResponse {reply : List UInt8} {response : Json}
    (h : decodeResponse reply requestId action = .ok response) :
    BootstrapHost.PREFIX.toBytes.isPrefixOf reply = true := by
  cases hmarked : BootstrapHost.PREFIX.toBytes.isPrefixOf reply with
  | true => rfl
  | false =>
    unfold decodeResponse at h
    rw [hmarked, Bool.not_false, if_pos (Or.inr rfl)] at h
    cases h

/-- A response that comes first is what is read. -/
theorem answered_readResponse_first {reply : List UInt8} {response : Json} (left : ℕ)
    (h : decodeResponse reply requestId action = .ok response)
    (hstatus : isStr (response.get? "status".toList) "error".toList = false) :
    (readResponse printing requestId action (left + 1)).run.Answered [received reply]
      (.ok response) := by
  have hmarked := isPrefixOf_of_decodeResponse h
  have hne : reply ≠ [] := by
    rintro rfl
    cases hmarked
  have hread : Call.readLine.run.Answered [received reply] (.ok reply) := ⟨_, _, rfl, rfl, rfl⟩
  unfold readResponse
  rw [← List.append_nil [received reply]]
  refine Program.Answered.bind_except hread ?_
  rw [if_neg hne, if_neg (by simp [hmarked]), h]
  dsimp only
  rw [hstatus, if_neg Bool.false_ne_true]
  exact ⟨rfl, rfl⟩

/-- A request that is answered gives the result. -/
theorem Exchange.Answers.answered {x : Exchange} (h : x.Answers printing action fields result) :
    (requestResult printing action fields).run.Answered x.events (.ok result) := by
  obtain ⟨response, hdecoded, hstatus, hresult⟩ := h.isResponse
  have hrequest : (request printing action fields).run.Answered x.events (.ok response) := by
    have hline : (ExceptT.mk (.done (encodeRequest printing x.requestId action fields)) :
        Session Text).run.Answered [] (.ok x.line) := ⟨rfl, h.isRequest⟩
    refine ⟨x.requestId, _, rfl, .ok (), _, rfl, ?_⟩
    refine Program.Answered.bind_except hline ?_
    exact ⟨.ok (), _, rfl, .ok (), _, rfl, answered_readResponse_first 63 hdecoded hstatus⟩
  unfold requestResult
  rw [← List.append_nil x.events]
  refine Program.Answered.bind_except hrequest ?_
  rw [hresult]
  exact ⟨rfl, rfl⟩

theorem answered_twice_first {isCaught : Raised → Bool} {block : Session Json} {value : Json}
    {events : Events} (h : block.run.Answered events (.ok value)) :
    (twice isCaught block).run.Answered events (.ok (value, none)) := by
  unfold twice
  rw [← List.append_nil events]
  refine Program.Answered.bind_except (answered_attempt_of h) ?_
  exact ⟨rfl, rfl⟩

theorem answered_getOf_object {j : Json} (h : ∃ members, j = .obj members) (key : Text) :
    (getOf j key).run.Answered [] (.ok (j.get key)) := by
  obtain ⟨members, rfl⟩ := h
  exact ⟨rfl, rfl⟩

theorem isNull_object {j : Json} (h : ∃ members, j = .obj members) : isNull j = false := by
  obtain ⟨members, rfl⟩ := h
  rfl

end Exchanges

/-! ## Connections -/

/-- The events of opening a port. -/
def openEvents (port : Text) : Events :=
  [opened port, sent "\n".toList, ⟨.flush, (.ok () : Except Raised Unit)⟩,
    ⟨.resetInputBuffer, (.ok () : Except Raised Unit)⟩]

/-- The events of a block on a connection of its own. -/
def connectionEvents (port : Text) (middle : Events) : Events :=
  openEvents port ++ (middle ++ [⟨.close, (.ok () : Except Raised Unit)⟩])

/-- The ports are listed, and there is one board. -/
def listed (item : UsbPort) : Event Answer :=
  ⟨.comports, (.ok [⟨item.port, item.usbSerial, some VID, some PID⟩] : Except Raised (List PortInfo))⟩

section Connections

variable {port : Text} {item : UsbPort}

theorem answered_openClient_first (hport : port ≠ []) :
    (openClient port).run.Answered (openEvents port) (.ok ()) := by
  unfold openClient
  rw [if_neg hport]
  exact ⟨.ok (), _, rfl, .ok (), _, rfl, .ok (), _, rfl, .ok (), _, rfl, rfl, rfl⟩

theorem answered_withClient_first {α : Type} {block : Session α} {middle : Events} {value : α}
    (hport : port ≠ []) (h : block.run.Answered middle (.ok value)) :
    (withClient port block).run.Answered (connectionEvents port middle) (.ok value) := by
  unfold withClient connectionEvents
  refine Program.Answered.bind_except (answered_openClient_first hport) ?_
  refine Program.Answered.bind_except (answered_attempt_of h) ?_
  exact ⟨.ok (), _, rfl, rfl, rfl⟩

theorem answered_ports_first : ports.run.Answered [listed item] (.ok [item]) := by
  refine ⟨_, _, rfl, rfl, ?_⟩
  simp

theorem answered_onlyPort_first : (onlyPort item.port).run.Answered [listed item] (.ok item) := by
  unfold onlyPort
  rw [← List.append_nil [listed item]]
  refine Program.Answered.bind_except answered_ports_first ?_
  rw [List.filter_cons_of_pos (by simp), List.filter_nil]
  exact ⟨rfl, rfl⟩

end Connections

/-! ## The whole operation -/

/-- The exchanges of an operation, and what the clock tells when it begins to wait, when it looks for
the sensor and when it has found it. -/
structure CompleteReset where
  usbSerial : Option Text
  before : Exchange
  prepared : Exchange
  accepted : Exchange
  after : Exchange
  waits : ℚ
  looks : ℚ
  finds : ℚ

/-- Its events up to the reboot, on a port. -/
def CompleteReset.resetEvents (c : CompleteReset) (port : Text) : Events :=
  listed ⟨port, c.usbSerial⟩ ::
    connectionEvents port (c.before.events ++ (c.prepared.events ++ c.accepted.events))

/-- Its events after the reboot. -/
def CompleteReset.verifyEvents (c : CompleteReset) (port : Text) : Events :=
  ⟨.monotonic, c.waits⟩ :: ⟨.monotonic, c.looks⟩ :: listed ⟨port, c.usbSerial⟩ ::
    listed ⟨port, c.usbSerial⟩ :: (connectionEvents port c.after.events ++ [⟨.monotonic, c.finds⟩])

def CompleteReset.events (c : CompleteReset) (port : Text) : Events :=
  c.resetEvents port ++ c.verifyEvents port

/-- What the sensor answers: its state, the challenge, that it resets, and its state after that. -/
structure Results where
  state : Json
  prepared : Json
  accepted : Json
  later : Json

/-- The sensor is the one of the operation, and it answers as it should. -/
structure CompleteReset.Succeeds (c : CompleteReset) (printing : Printing) (rebootTimeout : ℚ)
    (operation : ResetOperation) (results : Results) : Prop where
  port : operation.port ≠ []
  hardwareId : Onboarding.hardwareIdPattern operation.hardwareId = true
  before : c.before.Answers printing "read_node_state".toList [] results.state
  beforeHardware : results.state.get "hardware_id".toList = .str operation.hardwareId
  beforeNode : results.state.get "node_id".toList = .str operation.deviceId
  firmware : countsAsTrue (results.state.get "firmware_version".toList) = true
  prepared : c.prepared.Answers printing "prepare_factory_reset".toList (prepareFields operation)
    results.prepared
  preparedHardware : results.prepared.get "hardware_id".toList = .str operation.hardwareId
  accepted : ∃ operationId challenge,
    results.prepared.get? "operation_id".toList = some operationId ∧
    results.prepared.get? "challenge".toList = some challenge ∧
    c.accepted.Answers printing "confirm_factory_reset".toList
      (confirmFields operation operationId challenge) results.accepted
  acceptedObject : ∃ members, results.accepted = .obj members
  acceptedOperation : same (results.accepted.get "operation_id".toList)
    (results.prepared.get "operation_id".toList) = true
  inTime : c.looks < c.waits + rebootTimeout
  after : c.after.Answers printing "read_node_state".toList [] results.later
  afterHardware : results.later.get "hardware_id".toList = .str operation.hardwareId
  afterNode : results.later.get "node_id".toList = .null
  afterIdentity : results.later.get "identity_status".toList = .str "unprovisioned".toList
  afterFirmware : same (results.later.get "firmware_version".toList)
    (results.state.get "firmware_version".toList) = true

section Completed

variable {c : CompleteReset} {printing : Printing} {rebootTimeout : ℚ} {operation : ResetOperation}
  {results : Results}

/-- Only an object has a text for a key. -/
theorem exists_members_of_get {j : Json} {key s : Text} (h : j.get key = .str s) :
    ∃ members, j = .obj members := by
  cases j with
  | obj members => exact ⟨members, rfl⟩
  | _ => cases h

theorem isStr_str (s : Text) : isStr (some (.str s)) s = true := by simp [isStr]

/-- The keys a port adds. -/
def portKeys : List Text := ["port".toList, "usb_serial".toList, "usb_vid_pid".toList]

/-- A port changes no other key. -/
theorem get_merged (item : UsbPort) {state : Json} (hstate : ∃ members, state = .obj members) {key : Text}
    (hkey : key ∉ portKeys) : (merged item state).get key = state.get key := by
  obtain ⟨members, rfl⟩ := hstate
  have hnone : item.members.reverse.lookup key = none := by
    rw [List.lookup_eq_none_iff]
    intro member hmember
    rw [bne_iff_ne]
    rintro rfl
    exact hkey (List.mem_map_of_mem (List.mem_reverse.mp hmember))
  unfold merged Json.get Json.get?
  dsimp only
  rw [List.reverse_append, List.lookup_append, hnone, Option.or_none]

/-- The sensor is the right one, and its challenge is confirmed. -/
theorem CompleteReset.Succeeds.answered_exchange_first
    (h : c.Succeeds printing rebootTimeout operation results) :
    (exchange printing operation).run.Answered
      (c.before.events ++ (c.prepared.events ++ c.accepted.events))
      (.ok (results.state, results.prepared, results.accepted)) := by
  have hidentify : (identify printing operation).run.Answered c.before.events (.ok results.state) := by
    have hobject := exists_members_of_get h.beforeHardware
    unfold identify
    rw [← List.append_nil c.before.events]
    refine Program.Answered.bind_except (answered_twice_first h.before.answered) ?_
    dsimp only
    rw [isNull_object hobject, if_neg Bool.false_ne_true]
    refine Program.Answered.bind_except (answered_getOf_object hobject _) ?_
    rw [h.beforeHardware, h.beforeNode, isStr_str, isStr_str]
    exact ⟨rfl, rfl⟩
  have hchallenge : (challenge printing operation).run.Answered c.prepared.events
      (.ok results.prepared) := by
    have hobject := exists_members_of_get h.preparedHardware
    unfold challenge
    rw [← List.append_nil c.prepared.events]
    refine Program.Answered.bind_except (answered_twice_first h.prepared.answered) ?_
    dsimp only
    rw [isNull_object hobject, if_neg Bool.false_ne_true]
    refine Program.Answered.bind_except (answered_getOf_object hobject _) ?_
    rw [h.preparedHardware, isStr_str]
    exact ⟨rfl, rfl⟩
  have hconfirm : (confirm printing operation results.prepared).run.Answered c.accepted.events
      (.ok results.accepted) := by
    obtain ⟨operationId, token, hoperation, htoken, hanswers⟩ := h.accepted
    unfold confirm itemOf
    rw [hoperation, htoken]
    exact hanswers.answered
  unfold exchange
  refine Program.Answered.bind_except hidentify ?_
  refine Program.Answered.bind_except hchallenge ?_
  rw [← List.append_nil c.accepted.events]
  exact Program.Answered.bind_except hconfirm ⟨rfl, rfl⟩

/-- The operation goes on to the reboot. -/
theorem CompleteReset.Succeeds.answered_resetSensor_first
    (h : c.Succeeds printing rebootTimeout operation results) :
    (resetSensor printing operation).run.Answered (c.resetEvents operation.port)
      (.ok results.state) := by
  have hport : (onlyPort operation.port).run.Answered [listed ⟨operation.port, c.usbSerial⟩]
      (.ok ⟨operation.port, c.usbSerial⟩) := answered_onlyPort_first
  have hrest : (withClient operation.port (exchange printing operation) >>= fun found => do
      let operationId ← getOf found.2.2 "operation_id".toList
      if !same operationId (found.2.1.get "operation_id".toList) then
        throw (usbResetError "reset operation correlation mismatch".toList)
      else return found.1).run.Answered (connectionEvents operation.port
        (c.before.events ++ (c.prepared.events ++ c.accepted.events))) (.ok results.state) := by
    rw [← List.append_nil (connectionEvents _ _)]
    refine Program.Answered.bind_except (answered_withClient_first h.port h.answered_exchange_first) ?_
    refine Program.Answered.bind_except (answered_getOf_object h.acceptedObject _) ?_
    rw [h.acceptedOperation]
    exact ⟨rfl, rfl⟩
  exact Program.Answered.bind_except hport hrest

/-- Afterwards the sensor is found again. -/
theorem CompleteReset.Succeeds.answered_inspect_first
    (h : c.Succeeds printing rebootTimeout operation results) :
    (inspect printing operation.port).run.Answered
      (listed ⟨operation.port, c.usbSerial⟩ :: connectionEvents operation.port c.after.events)
      (.ok (merged ⟨operation.port, c.usbSerial⟩ results.later)) := by
  have hobject := exists_members_of_get h.afterHardware
  have hport : (onlyPort operation.port).run.Answered [listed ⟨operation.port, c.usbSerial⟩]
      (.ok ⟨operation.port, c.usbSerial⟩) := answered_onlyPort_first
  have hread : (readNodeState printing).run.Answered c.after.events (.ok results.later) :=
    h.after.answered
  have hvalid : isHardwareId (results.later.get "hardware_id".toList) = true := by
    rw [h.afterHardware]
    exact h.hardwareId
  unfold inspect
  rw [← List.singleton_append, ← List.append_nil (connectionEvents _ _)]
  refine Program.Answered.bind_except hport ?_
  refine Program.Answered.bind_except
    (answered_twice_first (answered_withClient_first h.port hread)) ?_
  dsimp only
  rw [isNull_object hobject, if_neg Bool.false_ne_true]
  refine Program.Answered.bind_except (answered_getOf_object hobject _) ?_
  rw [hvalid]
  exact ⟨rfl, rfl⟩

/-- The first look is enough. -/
theorem CompleteReset.Succeeds.answered_poll_first
    (h : c.Succeeds printing rebootTimeout operation results) (rounds : ℕ) :
    (poll printing operation.hardwareId (c.waits + rebootTimeout) (rounds + 1)).run.Answered
      (⟨.monotonic, c.looks⟩ :: listed ⟨operation.port, c.usbSerial⟩ ::
        listed ⟨operation.port, c.usbSerial⟩ ::
          (connectionEvents operation.port c.after.events ++ [⟨.monotonic, c.finds⟩]))
      (.ok (some (some (merged ⟨operation.port, c.usbSerial⟩ results.later)))) := by
  have hfound : (findSensor printing operation.hardwareId [⟨operation.port, c.usbSerial⟩]).run.Answered
      (listed ⟨operation.port, c.usbSerial⟩ :: connectionEvents operation.port c.after.events)
      (.ok (some (merged ⟨operation.port, c.usbSerial⟩ results.later))) := by
    have hkey : "hardware_id".toList ∉ portKeys := by decide
    unfold findSensor
    rw [← List.append_nil (_ :: connectionEvents _ _)]
    refine Program.Answered.bind_except (answered_attempt_of h.answered_inspect_first) ?_
    dsimp only
    rw [get_merged _ (exists_members_of_get h.afterHardware) hkey, h.afterHardware,
      isStr_str]
    exact ⟨rfl, rfl⟩
  have hclock : Call.now.run.Answered [⟨.monotonic, c.looks⟩] (.ok c.looks) := ⟨_, _, rfl, rfl, rfl⟩
  unfold poll
  refine Program.Answered.bind_except hclock ?_
  rw [if_pos h.inTime]
  refine Program.Answered.bind_except answered_ports_first ?_
  exact Program.Answered.bind_except hfound ⟨c.finds, [], rfl, rfl, rfl⟩

theorem CompleteReset.Succeeds.answered_verifySensor_first
    (h : c.Succeeds printing rebootTimeout operation results) (rounds : ℕ) :
    (verifySensor printing rebootTimeout (rounds + 1) operation results.state).run.Answered
      (c.verifyEvents operation.port)
      (.ok (some (merged ⟨operation.port, c.usbSerial⟩ results.later))) := by
  have hget {key : Text} (hkey : key ∉ portKeys) :
      (merged ⟨operation.port, c.usbSerial⟩ results.later).get key = results.later.get key :=
    get_merged _ (exists_members_of_get h.afterHardware) hkey
  have hclock : Call.now.run.Answered [⟨.monotonic, c.waits⟩] (.ok c.waits) := ⟨_, _, rfl, rfl, rfl⟩
  unfold verifySensor CompleteReset.verifyEvents
  refine Program.Answered.bind_except hclock ?_
  rw [← List.append_nil (_ :: _ :: _ :: _)]
  refine Program.Answered.bind_except (h.answered_poll_first rounds) ?_
  dsimp only
  rw [hget (by decide), hget (by decide), hget (by decide), h.afterNode, h.afterIdentity, h.firmware,
    h.afterFirmware, isStr_str]
  exact ⟨rfl, rfl⟩

/-- **An operation with a sensor that answers as it should is complete**, with the state that was
read back. -/
theorem reset_completes (h : c.Succeeds printing rebootTimeout operation results) (rounds : ℕ) :
    (run printing rebootTimeout (rounds + 1) operation).Answered (c.events operation.port)
      { operation with
        resetCommandAccepted := true, physicalResetComplete := true, state := .physicalComplete
        postReset := some (merged ⟨operation.port, c.usbSerial⟩ results.later) } := by
  unfold run CompleteReset.events
  refine Program.Answered.bind h.answered_resetSensor_first ?_
  dsimp only
  rw [← List.append_nil (c.verifyEvents _)]
  exact Program.Answered.bind (h.answered_verifySensor_first rounds) ⟨rfl, rfl⟩

end Completed

/-! ## Lines a board sends -/

/-- The line of a request. -/
def requestLine (printing : Printing) (requestId action : Text) (fields : List (Text × Json)) : Text :=
  BootstrapHost.PREFIX ++ canonicalJson printing (requestBody requestId action fields) ++ "\n".toList

/-- The line of a response with a result. -/
def replyLine (requestId action : Text) (result : List Field) : Text :=
  BootstrapHost.PREFIX ++ (fieldsText (resultFields requestId action result) ++ "\n".toList)

section Lines

variable {printing : Printing} {requestId action : Text} {fields : List (Text × Json)}
  {result : List Field}

theorem encodeRequest_requestLine (hid : BootstrapHost.validRequestId requestId = true)
    (haction : action ∈ BootstrapHost.ALLOWED_ACTIONS)
    (hlength : (requestLine printing requestId action fields).length ≤ BootstrapHost.MAX_LINE_BYTES) :
    encodeRequest printing requestId action fields = .ok (requestLine printing requestId action fields) := by
  unfold encodeRequest
  rw [hid, Bool.not_true, if_neg Bool.false_ne_true, if_neg (not_not_intro haction)]
  exact if_neg (Nat.not_lt.mpr hlength)

/-- A line of ASCII characters is decoded as the text it is. -/
theorem decodeResponse_replyLine
    (hlength : (replyLine requestId action result).length ≤ BootstrapHost.MAX_LINE_BYTES)
    (hread : ∀ f ∈ resultFields requestId action result, f.IsRead)
    (hascii : ∀ f ∈ resultFields requestId action result, f.IsAscii) :
    decodeResponse (replyLine requestId action result).toBytes requestId action =
      .ok (fieldsJson (resultFields requestId action result)) := by
  have hmarked : BootstrapHost.PREFIX.toBytes.isPrefixOf (replyLine requestId action result).toBytes =
      true := by
    rw [List.isPrefixOf_iff_prefix]
    exact ⟨_, (List.map_append ..).symm⟩
  have hdecoded : Text.decodeUtf8 (replyLine requestId action result).toBytes =
      some (replyLine requestId action result) :=
    Text.decodeUtf8_toBytes ((by decide : IsAscii BootstrapHost.PREFIX).append
      ((isAscii_fieldsText hascii).append (by decide : IsAscii "\n".toList)))
  have hhost := decodeResponse_resultFields rfl (by decide) hlength hread
  have hframed : ¬ ((replyLine requestId action result).toBytes.length > BootstrapHost.MAX_LINE_BYTES ∨
      (!BootstrapHost.PREFIX.toBytes.isPrefixOf (replyLine requestId action result).toBytes) = true) := by
    rw [hmarked, Text.length_toBytes]
    simpa using hlength
  unfold decodeResponse
  rw [if_neg hframed, hdecoded]
  dsimp only
  rw [show BootstrapHost.decodeResponse (replyLine requestId action result) requestId action = _ from hhost]
  rfl

/-- A board that replies to the request of a client answers it. -/
theorem answers_replyLine (hid : BootstrapHost.validRequestId requestId = true)
    (haction : action ∈ BootstrapHost.ALLOWED_ACTIONS)
    (hrequest : (requestLine printing requestId action fields).length ≤ BootstrapHost.MAX_LINE_BYTES)
    (hne : result ≠ []) (hread : ∀ f ∈ result, f.IsRead) (hascii : ∀ f ∈ result, f.IsAscii)
    (hlength : (replyLine requestId action result).length ≤ BootstrapHost.MAX_LINE_BYTES) :
    Exchange.Answers ⟨requestId, requestLine printing requestId action fields,
      (replyLine requestId action result).toBytes⟩ printing action fields (fieldsJson result) := by
  have hbare : IsBare requestId := by
    unfold BootstrapHost.validRequestId at hid
    simp only [Bool.and_eq_true, List.all_eq_true] at hid
    exact fun c hc => hid.2 c hc
  have hverbatim : ∀ action ∈ BootstrapHost.ALLOWED_ACTIONS, IsVerbatim action ∧ IsAscii action := by
    decide
  refine ⟨encodeRequest_requestLine hid haction hrequest, fieldsJson (resultFields requestId action result),
    decodeResponse_replyLine hlength ?_ ?_, rfl, rfl⟩
  · simp only [resultFields, List.forall_mem_cons]
    exact ⟨Field.isRead_string (by decide) (by decide), Field.isRead_natural (by decide) _,
      Field.isRead_string (by decide) hbare.isVerbatim,
      Field.isRead_string (by decide) (hverbatim action haction).1,
      Field.isRead_string (by decide) (by decide), Field.isRead_object (by decide) hne hread, by simp⟩
  · simp only [resultFields, List.forall_mem_cons]
    exact ⟨Field.isAscii_string (by decide) (by decide), Field.isAscii_natural (by decide) _,
      Field.isAscii_string (by decide) hbare.isAscii,
      Field.isAscii_string (by decide) (hverbatim action haction).2,
      Field.isAscii_string (by decide) (by decide), ⟨(by decide : IsAscii "result".toList), isAscii_fieldsText hascii⟩,
      by simp⟩

end Lines

/-! ## A board that is reset -/

section Board

/-- A provisioned board. -/
def boardState : List Field := [
  .string "hardware_id".toList "0x0123456789ABCDEF".toList, .string "node_id".toList "ARM2001-01".toList,
  .string "firmware_version".toList "1.2.0".toList]

/-- Its challenge. -/
def boardPrepared : List Field := [
  .string "hardware_id".toList "0x0123456789ABCDEF".toList, .string "operation_id".toList "7".toList,
  .string "challenge".toList "c".toList]

/-- Its answer to the confirmation. -/
def boardAccepted : List Field := [.string "operation_id".toList "7".toList]

/-- The board after its reset. -/
def boardLater : List Field := [
  .string "hardware_id".toList "0x0123456789ABCDEF".toList, .optionalString "node_id".toList none,
  .string "identity_status".toList "unprovisioned".toList, .string "firmware_version".toList "1.2.0".toList]

/-- The operation that resets it. -/
def boardReset : ResetOperation :=
  { deviceId := "ARM2001-01".toList, hardwareId := "0x0123456789ABCDEF".toList, port := "COM5".toList }

/-- A way to print that is not asked for anything. -/
def noPrinting : Printing := ⟨fun _ => [], fun _ => []⟩

/-- A request to the board, and its reply. -/
def boardExchange (action : Text) (fields : List (Text × Json)) (result : List Field) : Exchange :=
  ⟨"00".toList, requestLine noPrinting "00".toList action fields,
    (replyLine "00".toList action result).toBytes⟩

/-- What is said while it is reset. -/
def boardExchanges : CompleteReset where
  usbSerial := none
  before := boardExchange "read_node_state".toList [] boardState
  prepared := boardExchange "prepare_factory_reset".toList (prepareFields boardReset) boardPrepared
  accepted := boardExchange "confirm_factory_reset".toList
    (confirmFields boardReset (.str "7".toList) (.str "c".toList)) boardAccepted
  after := boardExchange "read_node_state".toList [] boardLater
  waits := 0
  looks := 1
  finds := 2

/-- What the board sends can be read. -/
theorem isRead_boardFields : ∀ result ∈ [boardState, boardPrepared, boardAccepted, boardLater],
    ∀ f ∈ result, f.IsRead ∧ f.IsAscii := by
  have hstring {key s : Text} (hkey : IsVerbatim key ∧ IsAscii key) (hs : IsVerbatim s ∧ IsAscii s) :
      (Field.string key s).IsRead ∧ (Field.string key s).IsAscii :=
    ⟨Field.isRead_string hkey.1 hs.1, Field.isAscii_string hkey.2 hs.2⟩
  have hnull : (Field.optionalString "node_id".toList none).IsRead ∧
      (Field.optionalString "node_id".toList none).IsAscii :=
    ⟨Field.isRead_optionalString (by decide) (by simp),
      ⟨(by decide : IsAscii "node_id".toList), (by decide : IsAscii "null".toList)⟩⟩
  simp only [boardState, boardPrepared, boardAccepted, boardLater, List.forall_mem_cons]
  refine ⟨⟨?_, ?_, ?_, by simp⟩, ⟨?_, ?_, ?_, by simp⟩, ⟨?_, by simp⟩, ⟨?_, hnull, ?_, ?_, by simp⟩, by simp⟩
  all_goals exact hstring (by decide) (by decide)

theorem answers_boardExchange {action : Text} {fields : List (Text × Json)} {result : List Field}
    (haction : action ∈ BootstrapHost.ALLOWED_ACTIONS)
    (hmem : result ∈ [boardState, boardPrepared, boardAccepted, boardLater]) (hne : result ≠ [])
    (hrequest : (requestLine noPrinting "00".toList action fields).length ≤ BootstrapHost.MAX_LINE_BYTES)
    (hreply : (replyLine "00".toList action result).length ≤ BootstrapHost.MAX_LINE_BYTES) :
    (boardExchange action fields result).Answers noPrinting action fields (fieldsJson result) :=
  answers_replyLine (by decide) haction hrequest hne (fun f hf => (isRead_boardFields result hmem f hf).1)
    (fun f hf => (isRead_boardFields result hmem f hf).2) hreply

/-- The board answers as it should. -/
theorem succeeds_board : boardExchanges.Succeeds noPrinting 90 boardReset
    ⟨fieldsJson boardState, fieldsJson boardPrepared, fieldsJson boardAccepted, fieldsJson boardLater⟩ where
  port := by decide
  hardwareId := by decide +kernel
  before := answers_boardExchange (by decide) (by simp) (by simp [boardState]) (by decide +kernel)
    (by decide +kernel)
  beforeHardware := rfl
  beforeNode := rfl
  firmware := rfl
  prepared := answers_boardExchange (by decide) (by simp) (by simp [boardPrepared]) (by decide +kernel)
    (by decide +kernel)
  preparedHardware := rfl
  accepted := ⟨_, _, rfl, rfl, answers_boardExchange (by decide) (by simp) (by simp [boardAccepted])
    (by decide +kernel) (by decide +kernel)⟩
  acceptedObject := ⟨_, rfl⟩
  acceptedOperation := same_str.mpr rfl
  inTime := by norm_num [boardExchanges]
  after := answers_boardExchange (by decide) (by simp) (by simp [boardLater]) (by decide +kernel)
    (by decide +kernel)
  afterHardware := rfl
  afterNode := rfl
  afterIdentity := rfl
  afterFirmware := same_str.mpr rfl

end Board

end ResetConversations

end SeedMg24.Analysis
