import SeedMg24.Analysis.NodeAnswers
import SeedMg24.Model.ProvisioningCalls

/-!
# Rejections and the gateway's calls

A node serves its commands to the client of a provisioning call.  Its rejections carry no
transaction id, so the client passes over them, and the call waits until its timeout.
-/

set_option autoImplicit false

namespace SeedMg24.Analysis

open Foundation Foundation.Json Model

/-! ## A connected node -/

/-- A pass of a node's loop: when it handles a command, and the faults its backend meets
meanwhile. -/
structure LoopPass (φ : Type) where
  now : UInt32
  faults : ℕ → φ

/-- A node with a client, and the passes of its loop to come. -/
structure LinkedNode (φ : Type) where
  state : NodeState
  passes : ℕ → LoopPass φ

/-- What can be read of a node. -/
structure NodeTexts where
  metadata : NodeState → Text
  capabilities : NodeState → Text
  onboardingIdentity : NodeState → Text

section Server

variable {φ : Type} (E : Environment NvmAnswer Nvm φ)

/-- The node after the pass that handles a command.
SOURCE: xiao_mg24_sensor_node.ino:682-691, 963-971, 1005 -/
def LinkedNode.handle (s : LinkedNode φ) (command : Text) : LinkedNode φ :=
  let pass := s.passes 0
  let handled := (s.state.node.writeCommand command pass.now).run E s.state.storage pass.faults
  ⟨⟨handled.state, handled.value.afterCommands⟩, fun i => s.passes (i + 1)⟩

/-- The GATT server of a node.  A client that subscribes is connected.
SOURCE: xiao_mg24_sensor_node.ino:664-691, 905-916 -/
def nodeServer (texts : NodeTexts) : GattServer (LinkedNode φ) where
  metadata s := texts.metadata s.state
  capabilities s := texts.capabilities s.state
  onboardingIdentity s := texts.onboardingIdentity s.state
  startNotify s := { s with
    state.node := { s.state.node with bleConnected := true, bleNotifyEnabled := true } }
  stopNotify s := { s with state.node := { s.state.node with bleNotifyEnabled := false } }
  writeCommand s command :=
    let after := s.handle E command
    (after.state.node.notifications.drop s.state.node.notifications.length, after)

variable {E}

/-- What a client is answered. -/
theorem writeCommand_answers {s : LinkedNode φ} (h : NamedBare s.state.node) (texts : NodeTexts)
    (command : Text) :
    let written := (nodeServer E texts).writeCommand s command
    NamedBare written.2.state.node ∧
      (written.1 = [] ∨ ∃ text, NodeAnswer text ∧ written.1 = [text]) := by
  have hanswers : Answers s.state.node ((s.state.node.writeCommand command (s.passes 0).now).run E
      s.state.storage (s.passes 0).faults).value := by
    unfold Node.writeCommand
    split
    · exact .refl h
    · exact (ensures_handleCommand_answers E s.state.storage h _ _ (s.passes 0).faults).1
  obtain ⟨hnamed, hnotified⟩ := hanswers
  have hloop (n : Node) : n.afterCommands.activeIdentity = n.activeIdentity ∧
      n.afterCommands.notifications = n.notifications := by
    unfold Node.afterCommands
    split <;> exact ⟨rfl, rfl⟩
  dsimp only [nodeServer, LinkedNode.handle, NamedBare]
  rw [(hloop _).1, (hloop _).2]
  refine ⟨hnamed, ?_⟩
  rcases hnotified with hsame | ⟨text, htext, happended⟩
  · exact .inl (by rw [hsame, List.drop_length])
  · exact .inr ⟨text, htext, by rw [happended, List.drop_left]⟩

end Server

/-! ## Calls, step by step -/

namespace ProvisioningCall

variable {σ α β : Type}

/-- A call goes on with what it was given, or ends with a failure. -/
theorem outcome_bind (call : ProvisioningCall σ α) (f : α → ProvisioningCall σ β)
    (s : ProvisioningSession σ) :
    (call >>= f).outcome s = match call.outcome s with
      | (.ok a, t) => (f a).outcome t
      | (.error failure, t) => (.error failure, t) := by
  have hbind : (call >>= f).outcome s =
      (ExceptT.bindCont f (call.outcome s).1).run (call.outcome s).2 := rfl
  rw [hbind]
  rcases call.outcome s with ⟨failure | a, t⟩ <;> rfl

theorem outcome_pure (a : α) (s : ProvisioningSession σ) :
    (pure a : ProvisioningCall σ α).outcome s = (.ok a, s) := rfl

end ProvisioningCall

open ProvisioningCall BleNodeProvisioner

/-- One message leaves nothing in the queue, whatever it is. -/
theorem takeAnswer_rest (transactionId : Text) (acceptedCodes : List Text) {queue : List Json}
    (h : queue.length ≤ 1) : (takeAnswer transactionId acceptedCodes queue).2 = [] := by
  rcases queue with _ | ⟨result, _ | ⟨next, queue⟩⟩
  · rfl
  · unfold takeAnswer
    dsimp only
    repeat' split
    all_goals rfl
  · simp at h

/-- What waiting for the answer to a write comes to. -/
def answerTo (transactionId : Text) (acceptedCodes : List Text) (notifications : List Text) :
    Except CallFailure Json :=
  (takeAnswer transactionId acceptedCodes (notifications.foldl notification [])).1

theorem outcome_waitFor {σ : Type} (transactionId : Text) (acceptedCodes : List Text)
    (s : ProvisioningSession σ) :
    (waitFor transactionId acceptedCodes).outcome s =
      ((takeAnswer transactionId acceptedCodes s.queue).1,
        { s with queue := (takeAnswer transactionId acceptedCodes s.queue).2 }) := by
  have hget : (get : ProvisioningCall σ (ProvisioningSession σ)).outcome s = (.ok s, s) := rfl
  rw [waitFor, outcome_bind, hget]
  dsimp only
  rcases takeAnswer transactionId acceptedCodes s.queue with ⟨failure | result, queue⟩ <;> rfl

/-- A write that is answered once at most, and the wait for its answer. -/
theorem exchange_outcome {σ : Type} (server : GattServer σ) {s : ProvisioningSession σ}
    (hquiet : s.queue = []) {command : Text}
    (hone : (server.writeCommand s.server command).1.length ≤ 1) (transactionId : Text)
    (acceptedCodes : List Text) :
    (writeCommand server command >>= fun _ => waitFor transactionId acceptedCodes).outcome s =
      (answerTo transactionId acceptedCodes (server.writeCommand s.server command).1,
        { server := (server.writeCommand s.server command).2
          answered := s.answered ++ [(command, (server.writeCommand s.server command).1)] }) := by
  have hmessages : ((server.writeCommand s.server command).1.foldl notification []).length ≤ 1 := by
    generalize (server.writeCommand s.server command).1 = notifications at hone
    rcases notifications with _ | ⟨text, _ | ⟨next, notifications⟩⟩
    · exact Nat.zero_le 1
    · dsimp only [List.foldl_cons, List.foldl_nil]
      unfold notification
      split
      · exact Nat.zero_le 1
      · dsimp only
        split <;> simp
    · simp at hone
  have hrest := takeAnswer_rest transactionId acceptedCodes hmessages
  rw [outcome_bind]
  show (waitFor transactionId acceptedCodes).outcome
    { server := (server.writeCommand s.server command).2
      queue := (server.writeCommand s.server command).1.foldl notification s.queue
      answered := s.answered ++ [(command, (server.writeCommand s.server command).1)] } = _
  rw [hquiet]
  unfold answerTo
  rw [outcome_waitFor, hrest]

/-! ## Rejections -/

/-- The answer of a rejection, when it is printed whole. -/
def rejectionFields (n : Node) (code : Text) (now : UInt32) : List Field :=
  [.string "t".toList "ce".toList, .natural "v".toList 1, .string "id".toList n.runtimeNodeId,
    .natural "s".toList n.telemetrySequence.toNat, .natural "ms".toList now.toNat,
    .string "code".toList code]

theorem commandResultText_false (n : Node) (code : Text) (now : UInt32) :
    n.commandResultText false code now = Text.snprintf 120 (fieldsText (rejectionFields n code now)) := by
  unfold Node.commandResultText rejectionFields
  simp only [fieldsText, objectText, membersText, memberText, Field.string, Field.natural,
    List.map_cons, List.map_nil, List.append_assoc, List.cons_append]
  rfl

/-- Nothing between the braces of a rejection is a brace. -/
theorem rejection_members_brace {n : Node} {code : Text} (hid : IsBare n.runtimeNodeId)
    (hcode : IsBare code) (now : UInt32) :
    '\x7d' ∉ membersText ((rejectionFields n code now).map fun f => (f.key, f.text)) := by
  have hdigits (m : ℕ) : '\x7d' ∉ Text.decimal m := fun hmem =>
    absurd (Text.isDigit_of_mem_decimal hmem) (by decide)
  have hone := hdigits 1
  have hsequence := hdigits n.telemetrySequence.toNat
  have htime := hdigits now.toNat
  have hid := hid.not_mem (c := '\x7d') (by decide)
  have hcode := hcode.not_mem (c := '\x7d') (by decide)
  simp [rejectionFields, membersText, memberText, Field.string, Field.natural, hone, hsequence,
    htime, hid, hcode]

/-- **A rejection is cut short, and no value, or names no transaction.** -/
theorem loads_rejection {n : Node} {code : Text} (hid : IsBare n.runtimeNodeId)
    (hcode : IsBare code) (now : UInt32) :
    loads (n.commandResultText false code now) = none ∨
      ∃ j, loads (n.commandResultText false code now) = some j ∧ j.get? "tx".toList = none := by
  have hread : ∀ f ∈ rejectionFields n code now, f.IsRead := by
    intro f hf
    simp only [rejectionFields, List.mem_cons, List.not_mem_nil, or_false] at hf
    rcases hf with rfl | rfl | rfl | rfl | rfl | rfl
    · exact Field.isRead_string (by decide +kernel) (by decide +kernel)
    · exact Field.isRead_natural (by decide +kernel) 1
    · exact Field.isRead_string (by decide +kernel) hid.isVerbatim
    · exact Field.isRead_natural (by decide +kernel) _
    · exact Field.isRead_natural (by decide +kernel) _
    · exact Field.isRead_string (by decide +kernel) hcode.isVerbatim
  rw [commandResultText_false]
  by_cases hfits : (fieldsText (rejectionFields n code now)).length < 120
  · rw [Text.snprintf_eq_self hfits]
    have hloads := loads_of_reads (reads_fields (by simp [rejectionFields]) hread)
      (List.forall_mem_nil _)
    rw [List.append_nil] at hloads
    exact .inr ⟨_, hloads, rfl⟩
  · -- the closing brace is cut off
    left
    have hbrace := rejection_members_brace hid hcode now
    unfold fieldsText objectText at hfits ⊢
    generalize membersText ((rejectionFields n code now).map fun f => (f.key, f.text)) = members
      at hbrace hfits ⊢
    simp only [List.length_append, List.length_cons, List.length_nil] at hfits
    rw [Text.snprintf, List.cons_append, List.take_succ_cons, List.take_append_of_le_length (by omega)]
    exact loads_unclosed fun hmem => hbrace (List.mem_of_mem_take hmem)

/-- Nobody waits for what a node rejects a command with. -/
theorem answerTo_rejection {n : Node} {code : Text} (hid : IsBare n.runtimeNodeId)
    (hcode : IsBare code) (now : UInt32) (transactionId : Text) (acceptedCodes : List Text) :
    answerTo transactionId acceptedCodes [n.commandResultText false code now] =
      .error .timedOut := by
  have hloads := loads_rejection hid hcode now
  unfold answerTo
  dsimp only [List.foldl_cons, List.foldl_nil]
  unfold notification
  rcases hloads with hnone | ⟨j, hloads, htransaction⟩
  · rw [hnone]
    rfl
  · rw [hloads]
    dsimp only
    split
    · rw [List.nil_append]
      unfold takeAnswer
      rw [htransaction]
      rfl
    · rfl

/-- A node answered a command of a call by rejecting it with a code. -/
def Rejects (answered : List (Text × List Text)) (command code : Text) : Prop :=
  ∃ notifications, (command, notifications) ∈ answered ∧
    ∃ (n : Node) (now : UInt32), n.commandResultText false code now ∈ notifications

/-- An acknowledgement rejects nothing. -/
theorem not_rejects_acknowledgement {text : Text} (h : isAnswer "ca" text = true) (n : Node)
    (code : Text) (now : UInt32) : n.commandResultText false code now ≠ text := by
  rintro rfl
  rw [(isAnswer_commandResultText n false code now).1] at h
  cases h

/-- A call that waits for nothing, and none of whose commands was rejected. -/
structure Ready {φ : Type} (s : ProvisioningSession (LinkedNode φ)) : Prop where
  named : NamedBare s.server.state.node
  quiet : s.queue = []
  unrejected : ∀ command code, ¬ Rejects s.answered command code

/-- What is left of a call either goes on without a rejection, or ends in a timeout, or ends
without a rejection. -/
def WaitsOnRejection {φ α : Type} (call : ProvisioningCall (LinkedNode φ) α) : Prop :=
  ∀ s, Ready s → match call.outcome s with
    | (.ok _, t) => Ready t
    | (.error failure, t) => failure = .timedOut ∨ ∀ command code, ¬ Rejects t.answered command code

namespace WaitsOnRejection

variable {φ α β : Type} {E : Environment NvmAnswer Nvm φ} {texts : NodeTexts}

theorem bind {call : ProvisioningCall (LinkedNode φ) α} {f : α → ProvisioningCall (LinkedNode φ) β}
    (h : WaitsOnRejection call) (hf : ∀ a, WaitsOnRejection (f a)) :
    WaitsOnRejection (call >>= f) := by
  intro s hs
  have hcall := h s hs
  rw [outcome_bind]
  generalize call.outcome s = result at hcall ⊢
  obtain ⟨failure | a, t⟩ := result
  · exact hcall
  · exact hf a t hcall

theorem pure (a : α) : WaitsOnRejection (pure a : ProvisioningCall (LinkedNode φ) α) :=
  fun _ hs => hs

theorem throw (failure : CallFailure) :
    WaitsOnRejection (throw failure : ProvisioningCall (LinkedNode φ) α) :=
  fun _ hs => .inr hs.unrejected

theorem checked (check : Except BleProvisioningError α) :
    WaitsOnRejection (checked check : ProvisioningCall (LinkedNode φ) α) := by
  cases check with
  | ok a => exact pure a
  | error e => exact throw _

theorem startNotify : WaitsOnRejection (startNotify (nodeServer E texts)) :=
  fun _ hs => ⟨hs.named, hs.quiet, hs.unrejected⟩

theorem stopNotify : WaitsOnRejection (stopNotify (nodeServer E texts)) :=
  fun _ hs => ⟨hs.named, hs.quiet, hs.unrejected⟩

theorem get : WaitsOnRejection (get : ProvisioningCall (LinkedNode φ) _) := fun _ hs => hs

theorem readJson (characteristic : LinkedNode φ → Text) :
    WaitsOnRejection (readJson characteristic) := by
  unfold BleNodeProvisioner.readJson
  refine bind get fun s => ?_
  split
  · exact pure _
  · exact throw _

theorem getFrom (j : Json) (key : Text) :
    WaitsOnRejection (getFrom j key : ProvisioningCall (LinkedNode φ) _) := by
  unfold BleNodeProvisioner.getFrom
  split
  · exact pure _
  · exact throw _

theorem readOnboarding : WaitsOnRejection (readOnboarding (nodeServer E texts)) := by
  unfold BleNodeProvisioner.readOnboarding
  refine bind get fun s => ?_
  split
  · exact pure _
  · exact throw _

/-- **A write and the wait for its answer.** -/
theorem exchange (command transactionId : Text) (acceptedCodes : List Text) :
    WaitsOnRejection (writeCommand (nodeServer E texts) command >>= fun _ =>
      waitFor transactionId acceptedCodes) := by
  rintro ⟨server, queue, answered⟩ ⟨hnamed, hquiet, hunrejected⟩
  obtain ⟨hnamed', hanswer⟩ := writeCommand_answers (E := E) hnamed texts command
  have hone : ((nodeServer E texts).writeCommand server command).1.length ≤ 1 := by
    rcases hanswer with h | ⟨text, -, h⟩ <;> rw [h] <;> simp
  rw [exchange_outcome (nodeServer E texts) hquiet hone]
  -- a list of answers without a rejection, and one more answer
  have hmore : ∀ notifications : List Text,
      (∀ n code now, Node.commandResultText n false code now ∉ notifications) →
        ∀ command' code, ¬ Rejects (answered ++ [(command, notifications)]) command' code := by
    rintro notifications hclean command' code ⟨others, hmem, n, now, htext⟩
    rcases List.mem_append.mp hmem with hold | hnew
    · exact hunrejected command' code ⟨others, hold, n, now, htext⟩
    · cases List.mem_singleton.mp hnew
      exact hclean n code now htext
  generalize hwritten : (nodeServer E texts).writeCommand server command = written
    at hnamed' hanswer ⊢
  obtain ⟨notifications, server'⟩ := written
  dsimp only at hnamed' hanswer ⊢
  rcases hanswer with rfl | ⟨text, htext, rfl⟩
  · exact .inl rfl
  · cases htext with
    | acknowledges hca =>
      have hclean := hmore [text] fun n code now hmem =>
        not_rejects_acknowledgement hca n code now (List.mem_singleton.mp hmem)
      cases answerTo transactionId acceptedCodes [text] with
      | ok a => exact ⟨hnamed', rfl, hclean⟩
      | error failure => exact .inr hclean
    | rejects hid hcode now =>
      rw [answerTo_rejection hid hcode]
      exact .inl rfl

/-- The same, with what follows the answer. -/
theorem exchange_bind (command transactionId : Text) (acceptedCodes : List Text)
    {f : Json → ProvisioningCall (LinkedNode φ) α} (hf : ∀ j, WaitsOnRejection (f j)) :
    WaitsOnRejection (writeCommand (nodeServer E texts) command >>= fun _ =>
      waitFor transactionId acceptedCodes >>= f) := by
  have hassoc : (writeCommand (nodeServer E texts) command >>= fun _ =>
      waitFor transactionId acceptedCodes >>= f) =
      ((writeCommand (nodeServer E texts) command >>= fun _ =>
        waitFor transactionId acceptedCodes) >>= f) := by
    rw [bind_assoc]
  rw [hassoc]
  exact (exchange command transactionId acceptedCodes).bind hf

/-- A check in the middle of a call. -/
theorem guarded {c : Prop} [Decidable c] (failure : CallFailure)
    {f : Unit → ProvisioningCall (LinkedNode φ) α} (hf : WaitsOnRejection (f ())) :
    WaitsOnRejection (if c then MonadExcept.throw failure >>= f else f ()) := by
  split
  · exact (throw failure).bind fun _ => hf
  · exact hf

/-- A configuration call. -/
theorem configure (locked : Bool) (nodeId transactionId : Text)
    (configuration : DeviceConfiguration) :
    WaitsOnRejection (configure (nodeServer E texts) locked nodeId transactionId configuration) := by
  unfold BleNodeProvisioner.configure
  refine (checked _).bind fun command => ?_
  refine (checked _).bind fun values => ?_
  refine guarded _ ?_
  unfold configureConnected
  refine startNotify.bind fun _ => ?_
  refine exchange_bind _ _ _ fun before => ?_
  refine guarded _ ?_
  split
  · exact stopNotify.bind fun _ => pure _
  refine exchange_bind _ _ _ fun acknowledgement => ?_
  refine exchange_bind _ _ _ fun readback => ?_
  refine stopNotify.bind fun _ => ?_
  exact guarded _ (pure _)

/-- A provisioning call. -/
theorem provision (locked : Bool) (nodeId transactionId : Text)
    (configuration : DeviceConfiguration) (expectedOnboardingIdentity : Option Text) :
    WaitsOnRejection (provision (nodeServer E texts) locked nodeId transactionId configuration
      expectedOnboardingIdentity) := by
  have hexpected : WaitsOnRejection
      (expectIdentity (nodeServer E texts) expectedOnboardingIdentity) := by
    cases expectedOnboardingIdentity with
    | none => exact pure ()
    | some expected => exact readOnboarding.bind fun _ => guarded _ (pure ())
  have hsupport : WaitsOnRejection (readSupport (nodeServer E texts)) := by
    unfold readSupport
    refine (readJson _).bind fun metadata => ?_
    refine (readJson _).bind fun capabilities => ?_
    refine (getFrom _ _).bind fun protocolVersion => ?_
    refine guarded _ ?_
    refine (getFrom _ _).bind fun configuration => ?_
    refine (getFrom _ _).bind fun supported => ?_
    exact guarded _ (pure _)
  have hacknowledged (metadata : Json) (command : Text) : WaitsOnRejection (acknowledge
      (nodeServer E texts) metadata nodeId (Text.toUpperAscii transactionId) command) := by
    unfold acknowledge
    split
    · exact exchange command _ _
    split
    · exact pure _
    · exact throw _
  have hafter : WaitsOnRejection
      (readOnboardingAfter (nodeServer E texts) expectedOnboardingIdentity) := by
    cases expectedOnboardingIdentity with
    | none => exact pure none
    | some expected => exact readOnboarding.bind fun _ => pure _
  have hhidden (onboardingAfter : Option Json) :
      WaitsOnRejection (expectHidden onboardingAfter : ProvisioningCall (LinkedNode φ) Unit) := by
    cases onboardingAfter with
    | none => exact pure ()
    | some onboardingAfter => exact guarded _ (pure ())
  unfold BleNodeProvisioner.provision
  refine guarded _ ?_
  refine guarded _ ?_
  refine guarded _ ?_
  refine (checked _).bind fun command => ?_
  refine (checked _).bind fun values => ?_
  unfold provisionConnected
  refine hexpected.bind fun _ => ?_
  refine hsupport.bind fun support => ?_
  refine startNotify.bind fun _ => ?_
  refine (hacknowledged _ _).bind fun acknowledgement => ?_
  refine exchange_bind _ _ _ fun readback => ?_
  refine hafter.bind fun onboardingAfter => ?_
  refine stopNotify.bind fun _ => ?_
  refine guarded _ ?_
  exact (hhidden _).bind fun _ => pure _

end WaitsOnRejection

/-! ## Rejected calls -/

/-- The start of a call on a node after a run. -/
def callAfter {φ : Type} (E : Environment NvmAnswer Nvm φ) (events : List (NodeEvent φ))
    (passes : ℕ → LoopPass φ) : ProvisioningSession (LinkedNode φ) where
  server := ⟨nodeAfter E events, passes⟩

/-- A call raises the error that carries a code of the node. -/
def RaisesCode {σ α : Type} (result : Except CallFailure α × ProvisioningSession σ)
    (code : Text) : Prop :=
  result.1 = .error (.rejected (.str code))

theorem ready_callAfter {φ : Type} (E : Environment NvmAnswer Nvm φ) (events : List (NodeEvent φ))
    (passes : ℕ → LoopPass φ) : Ready (callAfter E events passes) := by
  refine ⟨namedBare_nodeAfter E events, rfl, ?_⟩
  rintro command code ⟨notifications, hmem, -⟩
  cases hmem

/-- A call that passes over rejections times out when it is rejected. -/
theorem WaitsOnRejection.timesOut {φ α : Type} {call : ProvisioningCall (LinkedNode φ) α}
    (h : WaitsOnRejection call) {s : ProvisioningSession (LinkedNode φ)} (hs : Ready s)
    {command code : Text} (hrejects : Rejects (call.outcome s).2.answered command code) :
    ¬ RaisesCode (call.outcome s) code ∧ (call.outcome s).1 = .error .timedOut := by
  have hcall := h s hs
  unfold RaisesCode
  generalize call.outcome s = result at hcall hrejects ⊢
  obtain ⟨failure | a, t⟩ := result
  · rcases hcall with rfl | hclean
    · simp
    · exact absurd hrejects (hclean command code)
  · exact absurd hrejects (hcall.unrejected command code)

/-- **No rejection reaches the gateway.**  Whatever the run before, the backend and the request, a
call whose command a node rejects with a code does not raise that code: it times out.
SOURCE: ble_provisioning.py:87-235; xiao_mg24_sensor_node.ino:177-185, 235-369 -/
theorem rejected_calls_time_out {φ : Type} (E : Environment NvmAnswer Nvm φ)
    (events : List (NodeEvent φ)) (passes : ℕ → LoopPass φ) (texts : NodeTexts) (locked : Bool)
    (nodeId transactionId : Text) (configuration : DeviceConfiguration)
    (expectedOnboardingIdentity : Option Text) (command code : Text) :
    let configured := (configure (nodeServer E texts) locked nodeId transactionId
      configuration).outcome (callAfter E events passes)
    let provisioned := (provision (nodeServer E texts) locked nodeId transactionId configuration
      expectedOnboardingIdentity).outcome (callAfter E events passes)
    (Rejects configured.2.answered command code →
        ¬ RaisesCode configured code ∧ configured.1 = .error .timedOut) ∧
      (Rejects provisioned.2.answered command code →
        ¬ RaisesCode provisioned code ∧ provisioned.1 = .error .timedOut) :=
  ⟨(WaitsOnRejection.configure locked nodeId transactionId configuration).timesOut
      (ready_callAfter E events passes),
    (WaitsOnRejection.provision locked nodeId transactionId configuration
      expectedOnboardingIdentity).timesOut (ready_callAfter E events passes)⟩

/-- A configuration other than the one of `firstProvisioning`. -/
def otherConfiguration : DeviceConfiguration where
  sampleIntervalMs := 500
  processingIntervalMs := 100
  reportIntervalMs := 100
  heartbeatIntervalMs := 30000
  filterType := .ema
  filterWindow := 2

/-- The second command of a call meets a write that fails. -/
def secondWriteFails (i : ℕ) : LoopPass CleanFault :=
  ⟨20, fun _ => if i = 1 then .failed ⟨.writeFailed, writeFailed_ne_ok⟩ else .none⟩

/-- A call that configures a provisioned node, whose store cannot be written. -/
def unwritableCall : Except CallFailure (Json × Json) × ProvisioningSession (LinkedNode CleanFault) :=
  (configure (nodeServer failing ⟨fun _ => [], fun _ => [], fun _ => []⟩) false "NODE-1".toList
    "0123456789abcdef".toList otherConfiguration).outcome
      (callAfter failing [firstProvisioning] secondWriteFails)

/-- The command it sends. -/
def unwritableCommand : Text := "CFGSET 1 0123456789ABCDEF 500 100 100 30000 2 2 1".toList

/-- The node rejects it. -/
theorem rejects_unwritable :
    Rejects unwritableCall.2.answered unwritableCommand "write_failed".toList := by
  refine ⟨_, ?_, (nodeAfter failing [firstProvisioning]).node, 20, List.mem_singleton_self _⟩
  decide +kernel

/-- Whether a call waits in vain. -/
def isTimedOut {α : Type} : Except CallFailure α → Bool
  | .error .timedOut => true
  | _ => false

/-- The call does not raise `write_failed`. -/
theorem not_raisesCode_unwritable :
    Rejects unwritableCall.2.answered unwritableCommand "write_failed".toList ∧
      ¬ RaisesCode unwritableCall "write_failed".toList := by
  refine ⟨rejects_unwritable, fun hraises => ?_⟩
  have htimes : isTimedOut unwritableCall.1 = true := by decide +kernel
  rw [RaisesCode] at hraises
  rw [hraises] at htimes
  cases htimes

/-- The call waits until its timeout. -/
theorem rejected_calls_time_out_unwritable : unwritableCall.1 = .error .timedOut := by
  have hrejects := rejects_unwritable
  have hcall := rejected_calls_time_out failing [firstProvisioning] secondWriteFails
    ⟨fun _ => [], fun _ => [], fun _ => []⟩ false "NODE-1".toList "0123456789abcdef".toList
    otherConfiguration none unwritableCommand "write_failed".toList
  dsimp only at hcall
  unfold unwritableCall at hrejects ⊢
  exact (hcall.1 hrejects).2

end SeedMg24.Analysis
