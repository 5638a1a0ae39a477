import SeedMg24.Model.UsbResetRun

/-!
# The requests of a factory reset over USB

The events of a conversation, what one request writes and reads, and which of the lines that are
written are confirmations of a reset.  All that is called but the confirmation itself confirms
nothing.
-/

set_option autoImplicit false

namespace SeedMg24.Analysis

open Foundation Foundation.Json SeedMg24.Model SeedMg24.Model.BootstrapClient SeedMg24.Model.UsbResetRun

namespace ResetConversations

/-! ## Events -/

abbrev Events := List (Event Answer)

/-- A port was opened. -/
def opened (port : Text) : Event Answer := ⟨.openPort port, (.ok () : Except Raised Unit)⟩

/-- A line was written. -/
def sent (line : Text) : Event Answer := ⟨.write line, (.ok () : Except Raised Unit)⟩

/-- A line was read. -/
def received (line : List UInt8) : Event Answer := ⟨.readline, (.ok line : Except Raised (List UInt8))⟩

/-- The line of a call that writes, whether it was written or the call has raised. -/
def lineOf (e : Event Answer) : Option Text :=
  match e.1 with
  | .write line => some line
  | _ => none

/-- How the line of a confirmation begins. -/
def confirmationStart : Text := "MG24BOOT1 \x7b\"a\":\"confirm_factory_reset\"".toList

/-- Whether a line is the confirmation of a reset. -/
def isConfirmation (line : Text) : Bool := confirmationStart.isPrefixOf line

/-- The confirmations that were written. -/
def confirmations (events : Events) : List Text := (events.filterMap lineOf).filter isConfirmation

/-- A call that confirms no reset. -/
def IsHarmless (call : Call) : Prop := ∀ line, call = .write line → isConfirmation line = false

/-- A call that keeps the connection there is. -/
def StaysOpen (call : Call) : Prop := (∀ port, call ≠ .openPort port) ∧ call ≠ .close

/-- A call of both kinds. -/
def IsQuiet (call : Call) : Prop := IsHarmless call ∧ StaysOpen call

/-- A call that writes nothing either. -/
def IsSilent (call : Call) : Prop := StaysOpen call ∧ ∀ line, call ≠ .write line

section Kinds

theorem isHarmless_of_ne {call : Call} (h : ∀ line, call ≠ .write line) : IsHarmless call :=
  fun line hline => absurd hline (h line)

theorem IsSilent.isQuiet {call : Call} (h : IsSilent call) : IsQuiet call := ⟨isHarmless_of_ne h.2, h.1⟩

theorem confirmations_append (front back : Events) :
    confirmations (front ++ back) = confirmations front ++ confirmations back := by
  rw [confirmations, List.filterMap_append, List.filter_append]
  rfl

/-- Harmless calls confirm nothing. -/
theorem confirmations_eq_nil {events : Events} (h : ∀ e ∈ events, IsHarmless e.1) :
    confirmations events = [] := by
  refine List.filter_eq_nil_iff.mpr fun line hline => ?_
  obtain ⟨⟨call, answer⟩, hmem, hcall⟩ := List.mem_filterMap.mp hline
  cases call with
  | write line' =>
    obtain rfl : line' = line := Option.some.inj hcall
    simp [h _ hmem line' rfl]
  | _ => cases hcall

end Kinds

/-! ## Single calls -/

section Calls

variable {events : Events}

theorem answered_listPorts {r : Except Raised (List PortInfo)} (h : Call.listPorts.run.Answered events r) :
    events = [⟨.comports, r⟩] :=
  Program.answered_perform h

theorem answered_openSerial {port : Text} {r : Except Raised Unit}
    (h : (Call.openSerial port).run.Answered events r) : events = [⟨.openPort port, r⟩] :=
  Program.answered_perform h

theorem answered_writeLine {line : Text} {r : Except Raised Unit}
    (h : (Call.writeLine line).run.Answered events r) : events = [⟨.write line, r⟩] :=
  Program.answered_perform h

theorem answered_readLine {r : Except Raised (List UInt8)} (h : Call.readLine.run.Answered events r) :
    events = [⟨.readline, r⟩] :=
  Program.answered_perform h

/-- A part that may raise. -/
theorem answered_attempt {α : Type} {part : Session α} {r : Except Raised (Except Raised α)}
    (h : (attempt part).run.Answered events r) :
    ∃ result, r = .ok result ∧ part.run.Answered events result := by
  obtain ⟨result, front, back, rfl, hfront, rfl, rfl⟩ := Program.answered_bind h
  exact ⟨result, rfl, by rwa [List.append_nil]⟩

theorem answered_attempt_of {α : Type} {part : Session α} {result : Except Raised α}
    (h : part.run.Answered events result) : (attempt part).run.Answered events (.ok result) := by
  rw [← List.append_nil events]
  exact Program.Answered.bind h ⟨rfl, rfl⟩

theorem onlyCalls_attempt {α : Type} {good : Call → Prop} {part : Session α}
    (h : part.run.OnlyCalls good) : (attempt part).run.OnlyCalls good :=
  Program.OnlyCalls.bind h fun _ => True.intro

end Calls

/-! ## Requests -/

/-- A line was written and a response to it was read, with a result. -/
def IsResponse (printing : Printing) (events : Events) (action : Text) (result : Json) : Prop :=
  ∃ requestId fields line middle reply response,
    events = sent line :: middle ++ [received reply] ∧ (∀ e ∈ middle, IsSilent e.1) ∧
    encodeRequest printing requestId action fields = .ok line ∧
    decodeResponse reply requestId action = .ok response ∧
    isStr (response.get? "status".toList) "error".toList = false ∧
    response.get? "result".toList = some result

/-- Somewhere among the events a request was answered with a result. -/
def Reported (printing : Printing) (events : Events) (action : Text) (result : Json) : Prop :=
  ∃ front exchange back, events = front ++ exchange ++ back ∧
    IsResponse printing exchange action result

theorem Reported.append_left {printing : Printing} {events : Events} {action : Text} {result : Json}
    (h : Reported printing events action result) (before : Events) :
    Reported printing (before ++ events) action result := by
  obtain ⟨front, exchange, back, rfl, hresponse⟩ := h
  exact ⟨before ++ front, exchange, back, by simp, hresponse⟩

theorem Reported.append_right {printing : Printing} {events : Events} {action : Text} {result : Json}
    (h : Reported printing events action result) (after : Events) :
    Reported printing (events ++ after) action result := by
  obtain ⟨front, exchange, back, rfl, hresponse⟩ := h
  exact ⟨front, exchange, back ++ after, by simp, hresponse⟩

section Requests

variable {printing : Printing} {requestId action : Text} {fields : List (Text × Json)} {events : Events}

/-- A call that is no write, and neither opens nor closes. -/
theorem isSilent_of_eq {call : Call} (h : call = .tokenHex ∨ call = .resetInputBuffer ∨ call = .flush ∨
    call = .readline) : IsSilent call := by
  rcases h with rfl | rfl | rfl | rfl <;> simp [IsSilent, StaysOpen]

theorem onlyCalls_readResponse (left : ℕ) :
    (readResponse printing requestId action left).run.OnlyCalls IsSilent := by
  induction left with
  | zero => trivial
  | succ left ih =>
    unfold readResponse
    refine .bind_except ⟨isSilent_of_eq (.inr (.inr (.inr rfl))), fun _ => trivial⟩ fun line => ?_
    split
    · trivial
    · split
      · exact ih
      · split
        · split
          · exact ih
          · trivial
        · split <;> trivial

/-- The response is read from the last of the lines. -/
theorem answered_readResponse {left : ℕ} {response : Json}
    (h : (readResponse printing requestId action left).run.Answered events (.ok response)) :
    ∃ middle reply, events = middle ++ [received reply] ∧
      decodeResponse reply requestId action = .ok response ∧
      isStr (response.get? "status".toList) "error".toList = false := by
  induction left generalizing events with
  | zero => exact absurd (Program.answered_throw h).2 (by simp)
  | succ left ih =>
    unfold readResponse at h
    rcases Program.answered_bind_except h with ⟨e, he, -⟩ | ⟨line, front, back, rfl, hfront, hback⟩
    · cases he
    · obtain rfl := answered_readLine hfront
      have hagain (hrest : (readResponse printing requestId action left).run.Answered back
          (.ok response)) : ∃ middle reply, [⟨.readline, .ok line⟩] ++ back = middle ++ [received reply] ∧
            decodeResponse reply requestId action = .ok response ∧
            isStr (response.get? "status".toList) "error".toList = false := by
        obtain ⟨middle, reply, rfl, hdecoded, hstatus⟩ := ih hrest
        exact ⟨[⟨.readline, .ok line⟩] ++ middle, reply, by simp, hdecoded, hstatus⟩
      split at hback
      · exact absurd (Program.answered_throw hback).2 (by simp)
      · split at hback
        · exact hagain hback
        · split at hback
          · split at hback
            · exact hagain hback
            · exact absurd (Program.answered_throw hback).2 (by simp)
          · rename_i decoded hdecoded
            split at hback
            · exact absurd (Program.answered_throw hback).2 (by simp)
            · rename_i hstatus
              obtain ⟨rfl, hresponse⟩ := Program.answered_pure_except hback
              obtain rfl : response = decoded := Except.ok.inj hresponse
              exact ⟨[], line, rfl, hdecoded, Bool.eq_false_iff.mpr hstatus⟩

/-- A request writes its line once at most, and what it returns is a response to it. -/
theorem answered_request {r : Except Raised Json}
    (h : (request printing action fields).run.Answered events r) :
    ((∀ e ∈ events, IsSilent e.1) ∧ ∃ e, r = .error e) ∨
    ∃ front requestId line back, ∃ answer : Except Raised Unit,
      events = front ++ ⟨.write line, answer⟩ :: back ∧
      (∀ e ∈ front, IsSilent e.1) ∧ (∀ e ∈ back, IsSilent e.1) ∧
      encodeRequest printing requestId action fields = .ok line ∧
      ∀ response, r = .ok response → answer = .ok () ∧ ∃ middle reply,
        back = middle ++ [received reply] ∧ decodeResponse reply requestId action = .ok response ∧
        isStr (response.get? "status".toList) "error".toList = false := by
  have hidCalls : Call.newRequestId.run.OnlyCalls IsSilent :=
    ⟨isSilent_of_eq (.inl rfl), fun _ => trivial⟩
  have hresetCalls : Call.resetInput.run.OnlyCalls IsSilent :=
    ⟨isSilent_of_eq (.inr (.inl rfl)), fun _ => trivial⟩
  have hflushCalls : Call.flushPort.run.OnlyCalls IsSilent :=
    ⟨isSilent_of_eq (.inr (.inr (.inl rfl))), fun _ => trivial⟩
  unfold request at h
  rcases Program.answered_bind_except h with ⟨e, rfl, hraised⟩ | ⟨requestId, ids, rest, rfl, hids, hafterId⟩
  · exact .inl ⟨hidCalls.forall_events hraised, e, rfl⟩
  have hsilentIds := hidCalls.forall_events hids
  rcases Program.answered_bind_except hafterId with
    ⟨e, rfl, hraised⟩ | ⟨_, resets, rest, rfl, hresets, hafterReset⟩
  · exact .inl ⟨List.forall_mem_append.mpr ⟨hsilentIds, hresetCalls.forall_events hraised⟩, e, rfl⟩
  have hsilent : ∀ e ∈ ids ++ resets, IsSilent e.1 :=
    List.forall_mem_append.mpr ⟨hsilentIds, hresetCalls.forall_events hresets⟩
  rcases Program.answered_bind_except hafterReset with
    ⟨e, rfl, hencode⟩ | ⟨line, nothing, rest, rfl, hencode, hafterLine⟩
  · obtain ⟨rfl, -⟩ := hencode
    rw [List.append_nil]
    exact .inl ⟨hsilent, e, rfl⟩
  obtain ⟨rfl, hline⟩ := hencode
  rcases Program.answered_bind_except hafterLine with
    ⟨e, rfl, hraised⟩ | ⟨_, writes, rest, rfl, hwrite, hafterWrite⟩
  · obtain rfl := answered_writeLine hraised
    refine .inr ⟨ids ++ resets, requestId, line, [], .error e, by simp, hsilent, by simp, hline, ?_⟩
    intro response hr
    cases hr
  obtain rfl := answered_writeLine hwrite
  rcases Program.answered_bind_except hafterWrite with
    ⟨e, rfl, hraised⟩ | ⟨_, flushes, rest, rfl, hflush, hread⟩
  · refine .inr ⟨ids ++ resets, requestId, line, rest, .ok (), by simp, hsilent,
      hflushCalls.forall_events hraised, hline, ?_⟩
    intro response hr
    cases hr
  refine .inr ⟨ids ++ resets, requestId, line, flushes ++ rest, .ok (), by simp, hsilent,
    List.forall_mem_append.mpr ⟨hflushCalls.forall_events hflush,
      (onlyCalls_readResponse 64).forall_events hread⟩, hline, ?_⟩
  rintro response rfl
  obtain ⟨middle, reply, rfl, hdecoded, hstatus⟩ := answered_readResponse hread
  exact ⟨rfl, flushes ++ middle, reply, by simp, hdecoded, hstatus⟩

/-- So does a request for a result, and what it returns was reported. -/
theorem answered_requestResult {r : Except Raised Json}
    (h : (requestResult printing action fields).run.Answered events r) :
    ((∀ e ∈ events, IsSilent e.1) ∧ ∃ e, r = .error e) ∨
    ∃ front requestId line back, ∃ answer : Except Raised Unit,
      events = front ++ ⟨.write line, answer⟩ :: back ∧
      (∀ e ∈ front, IsSilent e.1) ∧ (∀ e ∈ back, IsSilent e.1) ∧
      encodeRequest printing requestId action fields = .ok line ∧
      ∀ result, r = .ok result → answer = .ok () ∧
        IsResponse printing (⟨.write line, answer⟩ :: back) action result := by
  unfold requestResult at h
  rcases Program.answered_bind_except h with
    ⟨e, rfl, hraised⟩ | ⟨response, front, back, rfl, hrequest, hback⟩
  · rcases answered_request hraised with hsilent | ⟨front, requestId, line, back, answer, hevents, hfront, hback,
      hline, -⟩
    · exact .inl hsilent
    · refine .inr ⟨front, requestId, line, back, answer, hevents, hfront, hback, hline, ?_⟩
      intro result hr
      cases hr
  · rcases answered_request hrequest with ⟨-, e, he⟩ | ⟨front, requestId, line, rest, answer, rfl, hfront,
      hrest, hline, hresponse⟩
    · cases he
    · obtain ⟨rfl, middle, reply, rfl, hdecoded, hstatus⟩ := hresponse response rfl
      have hmiddle : ∀ e ∈ middle, IsSilent e.1 := fun e he => hrest e (List.mem_append_left _ he)
      refine .inr ⟨front, requestId, line, middle ++ [received reply], .ok (), ?_, hfront, hrest, hline, ?_⟩
      · split at hback
        · rw [(Program.answered_throw hback).1, List.append_nil]
        · rw [(Program.answered_pure_except hback).1, List.append_nil]
      · rintro result rfl
        refine ⟨rfl, ?_⟩
        split at hback
        · exact absurd (Program.answered_throw hback).2 (by simp)
        · rename_i value hvalue
          obtain rfl : result = value := Except.ok.inj (Program.answered_pure_except hback).2
          exact ⟨requestId, fields, line, middle, reply, response, rfl, hmiddle, hline, hdecoded, hstatus,
            hvalue⟩

end Requests

/-! ## Which lines are confirmations -/

section Lines

variable {printing : Printing} {requestId action line : Text} {fields : List (Text × Json)}

/-- An object begins with its first member. -/
theorem exists_objectText (key text : Text) (members : List (Text × Text)) :
    ∃ tail, objectText ((key, text) :: members) = '\x7b' :: (memberText key text ++ tail) := by
  cases members with
  | nil => exact ⟨['\x7d'], rfl⟩
  | cons member members =>
    refine ⟨',' :: membersText (member :: members) ++ ['\x7d'], ?_⟩
    rw [objectText, membersText]
    simp

/-- A line begins with the first member of its canonical text. -/
theorem exists_encodeRequest {key text : Text} {members : List (Text × Text)}
    (hline : encodeRequest printing requestId action fields = .ok line)
    (hbody : canonicalJson printing (requestBody requestId action fields) =
      objectText ((key, text) :: members)) :
    ∃ tail, line = BootstrapHost.PREFIX ++ '\x7b' :: (memberText key text ++ tail) := by
  obtain ⟨tail, htail⟩ := exists_objectText key text members
  unfold encodeRequest at hline
  split at hline
  · cases hline
  · split at hline
    · cases hline
    · rw [hbody, htail] at hline
      dsimp only at hline
      split at hline
      · cases hline
      · obtain rfl := Except.ok.inj hline
        exact ⟨tail ++ "\n".toList, by simp⟩

/-- By its keys the action is the first member of a confirmation. -/
theorem exists_sortedMembers (t v id a rv s h op c : Json) :
    ∃ members, sortedMembers [("t".toList, t), ("v".toList, v), ("id".toList, id), ("a".toList, a),
      ("rv".toList, rv), ("s".toList, s), ("h".toList, h), ("op".toList, op), ("c".toList, c)] =
        ("a".toList, a) :: members := ⟨_, rfl⟩

/-- The request for a confirmation is one. -/
theorem isConfirmation_confirm {operation : ResetOperation} {operationId challenge : Json}
    (h : encodeRequest printing requestId "confirm_factory_reset".toList
      (confirmFields operation operationId challenge) = .ok line) : isConfirmation line = true := by
  have hbody : requestBody requestId "confirm_factory_reset".toList
      (confirmFields operation operationId challenge) = .obj [
        ("t".toList, .str "bootstrap_request".toList), ("v".toList, .int BootstrapHost.SCHEMA_VERSION),
        ("id".toList, .str requestId), ("a".toList, .str "confirm_factory_reset".toList),
        ("rv".toList, .int 2), ("s".toList, .str "application_factory".toList),
        ("h".toList, .str operation.hardwareId), ("op".toList, operationId),
        ("c".toList, challenge)] := rfl
  obtain ⟨members, hmembers⟩ := exists_sortedMembers (.str "bootstrap_request".toList)
    (.int BootstrapHost.SCHEMA_VERSION) (.str requestId) (.str "confirm_factory_reset".toList) (.int 2)
    (.str "application_factory".toList) (.str operation.hardwareId) operationId.canonical
    challenge.canonical
  have hline : canonicalJson printing (requestBody requestId "confirm_factory_reset".toList
      (confirmFields operation operationId challenge)) =
        objectText (("a".toList, "\"confirm_factory_reset\"".toList) ::
          printMembers printing members) := by
    rw [hbody, canonicalJson, canonical]
    simp only [canonicalMembers, canonical]
    rw [hmembers, print, printMembers]
    rfl
  obtain ⟨tail, rfl⟩ := exists_encodeRequest h hline
  rw [isConfirmation, List.isPrefixOf_iff_prefix]
  exact ⟨tail, rfl⟩

/-- A line whose first member is the action is none. -/
theorem not_isConfirmation_of_action {text : Text} {members : List (Text × Text)}
    (h : encodeRequest printing requestId action fields = .ok line)
    (hbody : canonicalJson printing (requestBody requestId action fields) =
      objectText (("action".toList, text) :: members)) : isConfirmation line = false := by
  obtain ⟨tail, rfl⟩ := exists_encodeRequest h hbody
  rfl

theorem not_isConfirmation_readNodeState
    (h : encodeRequest printing requestId "read_node_state".toList [] = .ok line) :
    isConfirmation line = false :=
  not_isConfirmation_of_action h rfl

theorem not_isConfirmation_prepare {operation : ResetOperation}
    (h : encodeRequest printing requestId "prepare_factory_reset".toList (prepareFields operation) =
      .ok line) : isConfirmation line = false :=
  not_isConfirmation_of_action h rfl

end Lines

/-! ## Quiet programs -/

section Quiet

variable {printing : Printing} {action : Text} {fields : List (Text × Json)} {operation : ResetOperation}

/-- A request is quiet if its lines are no confirmations. -/
theorem onlyCalls_requestResult
    (hlines : ∀ requestId line, encodeRequest printing requestId action fields = .ok line →
      isConfirmation line = false) :
    (requestResult printing action fields).run.OnlyCalls IsQuiet := by
  have hsilent {call : Call} (h : call = .tokenHex ∨ call = .resetInputBuffer ∨ call = .flush ∨
      call = .readline) : IsQuiet call := (isSilent_of_eq h).isQuiet
  refine .bind_except (.bind_except ⟨hsilent (.inl rfl), fun _ => trivial⟩ fun requestId => ?_) ?_
  · refine .bind_except ⟨hsilent (.inr (.inl rfl)), fun _ => trivial⟩ fun _ => ?_
    cases hline : encodeRequest printing requestId action fields with
    | error e => trivial
    | ok line =>
      have hwrite : IsQuiet (.write line) :=
        ⟨fun other hother => by cases hother; exact hlines requestId line hline, by simp [StaysOpen]⟩
      refine Program.OnlyCalls.bind_except (x := Call.writeLine line) ⟨hwrite, fun _ => trivial⟩ fun _ => ?_
      refine .bind_except ⟨hsilent (.inr (.inr (.inl rfl))), fun _ => trivial⟩ fun _ => ?_
      exact (onlyCalls_readResponse 64).mono fun _ h => h.isQuiet
  · intro response
    split <;> trivial

theorem onlyCalls_readNodeState : (readNodeState printing).run.OnlyCalls IsQuiet :=
  onlyCalls_requestResult fun _ _ h => not_isConfirmation_readNodeState h

theorem onlyCalls_twice {good : Call → Prop} {block : Session Json} (h : block.run.OnlyCalls good)
    (isCaught : Raised → Bool) : (twice isCaught block).run.OnlyCalls good := by
  unfold twice
  refine .bind_except (onlyCalls_attempt h) fun first => ?_
  split
  · trivial
  · split
    · trivial
    · refine .bind_except (onlyCalls_attempt h) fun second => ?_
      split
      · trivial
      · split <;> trivial

theorem onlyCalls_getOf {good : Call → Prop} (j : Json) (key : Text) : (getOf j key).run.OnlyCalls good := by
  unfold getOf
  split <;> trivial

theorem onlyCalls_itemOf {good : Call → Prop} (j : Json) (key : Text) :
    (itemOf j key).run.OnlyCalls good := by
  unfold itemOf
  split <;> trivial

theorem onlyCalls_identify : (identify printing operation).run.OnlyCalls IsQuiet := by
  unfold identify
  refine .bind_except (onlyCalls_twice onlyCalls_readNodeState _) fun found => ?_
  dsimp only
  split
  · trivial
  · refine .bind_except (onlyCalls_getOf _ _) fun _ => ?_
    split <;> trivial

theorem onlyCalls_challenge : (challenge printing operation).run.OnlyCalls IsQuiet := by
  unfold challenge
  refine .bind_except (onlyCalls_twice
    (onlyCalls_requestResult fun _ _ h => not_isConfirmation_prepare h) _) fun found => ?_
  dsimp only
  split
  · trivial
  · refine .bind_except (onlyCalls_getOf _ _) fun _ => ?_
    split <;> trivial

/-! Opening and closing connections confirms nothing. -/

theorem onlyCalls_ports : ports.run.OnlyCalls IsHarmless :=
  .bind_except ⟨isHarmless_of_ne (by simp), fun _ => trivial⟩ fun _ => trivial

theorem onlyCalls_onlyPort (port : Text) : (onlyPort port).run.OnlyCalls IsHarmless := by
  unfold onlyPort
  refine .bind_except onlyCalls_ports fun items => ?_
  split <;> trivial

theorem onlyCalls_openClient (port : Text) : (openClient port).run.OnlyCalls IsHarmless := by
  have hnewline : IsHarmless (.write "\n".toList) := fun line hline => by cases hline; rfl
  unfold openClient
  dsimp only
  split
  · trivial
  · refine .bind_except ⟨isHarmless_of_ne (by simp), fun _ => trivial⟩ fun _ => ?_
    refine .bind_except ⟨hnewline, fun _ => trivial⟩ fun _ => ?_
    refine .bind_except ⟨isHarmless_of_ne (by simp), fun _ => trivial⟩ fun _ => ?_
    exact ⟨isHarmless_of_ne (by simp), fun _ => trivial⟩

theorem onlyCalls_withClient {α : Type} (port : Text) {block : Session α}
    (h : block.run.OnlyCalls IsHarmless) : (withClient port block).run.OnlyCalls IsHarmless := by
  unfold withClient
  refine .bind_except (onlyCalls_openClient port) fun _ => ?_
  refine .bind_except (onlyCalls_attempt h) fun result => ?_
  refine .bind_except ⟨isHarmless_of_ne (by simp), fun _ => trivial⟩ fun _ => ?_
  split <;> trivial

theorem onlyCalls_inspect (port : Text) : (inspect printing port).run.OnlyCalls IsHarmless := by
  unfold inspect
  refine .bind_except (onlyCalls_onlyPort port) fun item => ?_
  refine .bind_except (onlyCalls_twice (onlyCalls_withClient port
    (onlyCalls_readNodeState.mono fun _ h => h.1)) _) fun found => ?_
  dsimp only
  split
  · trivial
  · refine .bind_except (onlyCalls_getOf _ _) fun _ => ?_
    split <;> trivial

theorem onlyCalls_findSensor (hardwareId : Text) (candidates : List UsbPort) :
    (findSensor printing hardwareId candidates).run.OnlyCalls IsHarmless := by
  induction candidates with
  | nil => trivial
  | cons candidate candidates ih =>
    unfold findSensor
    refine .bind_except (onlyCalls_attempt (onlyCalls_inspect candidate.port)) fun result => ?_
    split
    · split
      · exact ih
      · trivial
    · split
      · trivial
      · exact ih

theorem onlyCalls_poll (hardwareId : Text) (deadline : ℚ) (rounds : ℕ) :
    (poll printing hardwareId deadline rounds).run.OnlyCalls IsHarmless := by
  have hnow : Call.now.run.OnlyCalls IsHarmless := ⟨isHarmless_of_ne (by simp), fun _ => trivial⟩
  induction rounds with
  | zero => trivial
  | succ rounds ih =>
    unfold poll
    refine .bind_except hnow fun time => ?_
    split
    · refine .bind_except onlyCalls_ports fun candidates => ?_
      refine .bind_except (onlyCalls_findSensor hardwareId candidates) fun found => ?_
      split
      · exact .bind_except hnow fun _ => trivial
      · exact ih
    · trivial

theorem onlyCalls_verifySensor (rebootTimeout : ℚ) (rounds : ℕ) (before : Json) :
    (verifySensor printing rebootTimeout rounds operation before).run.OnlyCalls IsHarmless := by
  unfold verifySensor
  refine .bind_except ⟨isHarmless_of_ne (by simp), fun _ => trivial⟩ fun time => ?_
  refine .bind_except (onlyCalls_poll _ _ _) fun found => ?_
  split
  · trivial
  · trivial
  · split
    · trivial
    · split <;> trivial

end Quiet

end ResetConversations

end SeedMg24.Analysis
