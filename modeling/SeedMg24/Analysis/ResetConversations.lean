import SeedMg24.Analysis.CompletedResets

/-!
# What a factory reset over USB sends

Whatever the ports, the clock and the sensors answer, a confirmation of a reset is written once at
most, on a connection on which the sensor has told the ids of the operation and has given a challenge
for its hardware.  An operation is complete only if a sensor with this hardware id has told
afterwards that it has no identity left and the firmware it had before.
-/

set_option autoImplicit false

namespace SeedMg24.Analysis

open Foundation Foundation.Json SeedMg24.Model SeedMg24.Model.BootstrapClient SeedMg24.Model.UsbResetRun

namespace ResetConversations

/-! ## What a sensor has reported -/

section Reports

variable {printing : Printing} {action : Text} {fields : List (Text × Json)}
  {operation : ResetOperation} {events : Events}

/-- The result of a request was reported. -/
theorem reported_of_requestResult {result : Json}
    (h : (requestResult printing action fields).run.Answered events (.ok result)) :
    Reported printing events action result := by
  rcases answered_requestResult h with ⟨-, e, he⟩ |
    ⟨front, requestId, line, back, answer, rfl, -, -, -, hresponse⟩
  · cases he
  · exact ⟨front, _, [], by simp, (hresponse result rfl).2⟩

/-- Two attempts give nothing, or what the last of them has given. -/
theorem answered_twice {isCaught : Raised → Bool} {block : Session Json} {value : Json}
    {last : Option Raised} (h : (twice isCaught block).run.Answered events (.ok (value, last))) :
    value = .null ∨ ∃ front back, events = front ++ back ∧ block.run.Answered back (.ok value) := by
  unfold twice at h
  rcases Program.answered_bind_except h with ⟨e, he, -⟩ | ⟨first, front, rest, rfl, hfirst, hafter⟩
  · cases he
  obtain ⟨result, hresult, hblock⟩ := answered_attempt hfirst
  obtain rfl := Except.ok.inj hresult
  cases first with
  | ok v =>
    obtain ⟨rfl, hvalue⟩ := Program.answered_pure_except hafter
    cases hvalue
    exact .inr ⟨[], front, by simp, hblock⟩
  | error e =>
    dsimp only at hafter
    split at hafter
    · exact absurd (Program.answered_throw hafter).2 (by simp)
    · rcases Program.answered_bind_except hafter with ⟨e, he, -⟩ | ⟨second, middle, rest, rfl, hsecond, hend⟩
      · cases he
      obtain ⟨result, hresult, hagain⟩ := answered_attempt hsecond
      obtain rfl := Except.ok.inj hresult
      cases second with
      | ok v =>
        obtain ⟨rfl, hvalue⟩ := Program.answered_pure_except hend
        cases hvalue
        exact .inr ⟨front, middle, by simp, hagain⟩
      | error e =>
        dsimp only at hend
        split at hend
        · exact absurd (Program.answered_throw hend).2 (by simp)
        · have hvalue := (Program.answered_pure_except hend).2
          cases hvalue
          exact .inl rfl

theorem answered_getOf {j value : Json} {key : Text} (h : (getOf j key).run.Answered events (.ok value)) :
    events = [] ∧ value = j.get key := by
  unfold getOf at h
  split at h
  · obtain ⟨rfl, hvalue⟩ := Program.answered_pure_except h
    exact ⟨rfl, Except.ok.inj hvalue⟩
  · exact absurd (Program.answered_throw h).2 (by simp)

theorem eq_str_of_isStr {j : Json} {s : Text} (h : isStr (some j) s = true) : j = .str s := by
  unfold isStr at h
  cases j with
  | str t => rw [of_decide_eq_true h]
  | _ => cases h

/-- What two attempts at a request have given was reported. -/
theorem reported_of_twice {isCaught : Raised → Bool} {value : Json} {last : Option Raised}
    (h : (twice isCaught (requestResult printing action fields)).run.Answered events (.ok (value, last)))
    (hvalue : ¬ isNull value = true) : Reported printing events action value := by
  rcases answered_twice h with rfl | ⟨front, back, rfl, hblock⟩
  · exact absurd rfl hvalue
  · exact (reported_of_requestResult hblock).append_left front

/-- The state that identifies a sensor was reported with the ids of the operation. -/
theorem answered_identify {before : Json}
    (h : (identify printing operation).run.Answered events (.ok before)) :
    Reported printing events "read_node_state".toList before ∧
      before.get "hardware_id".toList = .str operation.hardwareId ∧
      before.get "node_id".toList = .str operation.deviceId := by
  unfold identify at h
  rcases Program.answered_bind_except h with ⟨e, he, -⟩ | ⟨⟨state, last⟩, front, rest, rfl, htwice, hafter⟩
  · cases he
  dsimp only at hafter
  split at hafter
  · exact absurd (Program.answered_throw hafter).2 (by simp)
  rename_i hnull
  rcases Program.answered_bind_except hafter with ⟨e, he, -⟩ | ⟨value, none', rest, rfl, hget, hend⟩
  · cases he
  obtain ⟨rfl, rfl⟩ := answered_getOf hget
  split at hend
  · exact absurd (Program.answered_throw hend).2 (by simp)
  rename_i hids
  obtain ⟨rfl, hbefore⟩ := Program.answered_pure_except hend
  obtain rfl := Except.ok.inj hbefore
  simp only [Bool.or_eq_true, Bool.not_eq_true', not_or, Bool.not_eq_false] at hids
  refine ⟨?_, eq_str_of_isStr hids.1, eq_str_of_isStr hids.2⟩
  simpa using reported_of_twice htwice hnull

/-- The challenge was reported with the hardware id of the operation. -/
theorem answered_challenge {prepared : Json}
    (h : (challenge printing operation).run.Answered events (.ok prepared)) :
    Reported printing events "prepare_factory_reset".toList prepared ∧
      prepared.get "hardware_id".toList = .str operation.hardwareId := by
  unfold challenge at h
  rcases Program.answered_bind_except h with ⟨e, he, -⟩ | ⟨⟨state, last⟩, front, rest, rfl, htwice, hafter⟩
  · cases he
  dsimp only at hafter
  split at hafter
  · exact absurd (Program.answered_throw hafter).2 (by simp)
  rename_i hnull
  rcases Program.answered_bind_except hafter with ⟨e, he, -⟩ | ⟨value, none', rest, rfl, hget, hend⟩
  · cases he
  obtain ⟨rfl, rfl⟩ := answered_getOf hget
  split at hend
  · exact absurd (Program.answered_throw hend).2 (by simp)
  rename_i hids
  obtain ⟨rfl, hprepared⟩ := Program.answered_pure_except hend
  obtain rfl := Except.ok.inj hprepared
  simp only [Bool.not_eq_true', Bool.not_eq_false] at hids
  refine ⟨?_, eq_str_of_isStr hids⟩
  simpa using reported_of_twice htwice hnull

end Reports

/-! ## The confirmation -/

/-- Before a confirmation the sensor at the operation's port has told, on the connection there is,
the ids of the operation and then a challenge for its hardware. -/
structure IsIdentified (printing : Printing) (operation : ResetOperation) (before : Events)
    (state : Json) : Prop where
  connection : ∃ earlier first second prepared,
    before = earlier ++ opened operation.port :: (first ++ second) ∧
    (∀ e ∈ first ++ second, StaysOpen e.1) ∧
    Reported printing first "read_node_state".toList state ∧
    Reported printing second "prepare_factory_reset".toList prepared ∧
    prepared.get "hardware_id".toList = .str operation.hardwareId
  hardwareId : state.get "hardware_id".toList = .str operation.hardwareId
  deviceId : state.get "node_id".toList = .str operation.deviceId

section Confirmation

variable {printing : Printing} {operation : ResetOperation} {events : Events}

/-- A connection that is there was opened first. -/
theorem answered_openClient {port : Text} (h : (openClient port).run.Answered events (.ok ())) :
    ∃ rest, events = opened port :: rest ∧ ∀ e ∈ rest, IsQuiet e.1 := by
  have hnewline : IsQuiet (.write "\n".toList) :=
    ⟨fun line hline => by cases hline; rfl, by simp [StaysOpen]⟩
  have hsilent {call : Call} (h : call = .tokenHex ∨ call = .resetInputBuffer ∨ call = .flush ∨
      call = .readline) : IsQuiet call := (isSilent_of_eq h).isQuiet
  unfold openClient at h
  dsimp only at h
  split at h
  · rcases Program.answered_bind_except h with ⟨e, he, -⟩ | ⟨_, front, rest, rfl, hthrow, -⟩
    · cases he
    · exact absurd (Program.answered_throw hthrow).2 (by simp)
  · rcases Program.answered_bind_except h with ⟨e, he, -⟩ | ⟨_, front, rest, rfl, hopen, hafter⟩
    · cases he
    obtain rfl := answered_openSerial hopen
    refine ⟨rest, rfl, Program.OnlyCalls.forall_events ?_ hafter⟩
    refine .bind_except ⟨hnewline, fun _ => trivial⟩ fun _ => ?_
    refine .bind_except ⟨hsilent (.inr (.inr (.inl rfl))), fun _ => trivial⟩ fun _ => ?_
    exact ⟨hsilent (.inr (.inl rfl)), fun _ => trivial⟩

/-- The conversation of a block on a connection. -/
theorem answered_withClient {α : Type} {port : Text} {block : Session α} {r : Except Raised α}
    (h : (withClient port block).run.Answered events r) :
    ((∀ e ∈ events, IsHarmless e.1) ∧ ∃ e, r = .error e) ∨
    ∃ start middle result, ∃ closed : Except Raised Unit,
      events = opened port :: start ++ middle ++ [⟨.close, closed⟩] ∧ (∀ e ∈ start, IsQuiet e.1) ∧
      block.run.Answered middle result ∧ ∀ value, r = .ok value → result = .ok value := by
  unfold withClient at h
  rcases Program.answered_bind_except h with ⟨e, rfl, hraised⟩ | ⟨_, front, rest, rfl, hopen, hafter⟩
  · exact .inl ⟨(onlyCalls_openClient port).forall_events hraised, e, rfl⟩
  obtain ⟨start, rfl, hstart⟩ := answered_openClient hopen
  rcases Program.answered_bind_except hafter with
    ⟨e, rfl, hraised⟩ | ⟨result, middle, rest, rfl, hblock, hclose⟩
  · obtain ⟨result, hresult, -⟩ := answered_attempt hraised
    cases hresult
  obtain ⟨outcome, houtcome, hblock⟩ := answered_attempt hblock
  obtain rfl := Except.ok.inj houtcome
  rcases Program.answered_bind_except hclose with ⟨e, rfl, hraised⟩ | ⟨_, last, rest, rfl, hlast, hend⟩
  · obtain rfl : rest = [⟨.close, (.error e : Except Raised Unit)⟩] := Program.answered_perform hraised
    refine .inr ⟨start, middle, result, .error e, by simp, hstart, hblock, ?_⟩
    intro value hvalue
    cases hvalue
  · obtain rfl : last = [⟨.close, (.ok () : Except Raised Unit)⟩] := Program.answered_perform hlast
    refine .inr ⟨start, middle, result, .ok (), ?_, hstart, hblock, ?_⟩
    · cases result with
      | error e =>
        rw [(Program.answered_throw hend).1]
        simp
      | ok value =>
        rw [(Program.answered_pure_except hend).1]
        simp
    · rintro value rfl
      cases result with
      | error e => exact absurd (Program.answered_throw hend).2 (by simp)
      | ok other => rw [Except.ok.inj (Program.answered_pure_except hend).2]

theorem answered_itemOf {j : Json} {key : Text} {r : Except Raised Json}
    (h : (itemOf j key).run.Answered events r) : events = [] := by
  unfold itemOf at h
  split at h
  · exact (Program.answered_pure_except h).1
  · exact (Program.answered_throw h).1

/-- A confirmation is written once at most, and nothing else is. -/
theorem answered_confirm {prepared : Json} {r : Except Raised Json}
    (h : (confirm printing operation prepared).run.Answered events r) :
    ((∀ e ∈ events, IsSilent e.1) ∧ ∃ e, r = .error e) ∨
    ∃ front line back, ∃ answer : Except Raised Unit, events = front ++ ⟨.write line, answer⟩ :: back ∧
      (∀ e ∈ front, IsSilent e.1) ∧ (∀ e ∈ back, IsSilent e.1) ∧ isConfirmation line = true ∧
      ∀ accepted, r = .ok accepted → answer = .ok () := by
  unfold confirm at h
  rcases Program.answered_bind_except h with ⟨e, rfl, hraised⟩ | ⟨operationId, front, rest, rfl, hid, hafter⟩
  · obtain rfl := answered_itemOf hraised
    exact .inl ⟨by simp, e, rfl⟩
  obtain rfl := answered_itemOf hid
  rcases Program.answered_bind_except hafter with ⟨e, rfl, hraised⟩ | ⟨value, front, rest, rfl, hvalue, hend⟩
  · obtain rfl := answered_itemOf hraised
    exact .inl ⟨by simp, e, rfl⟩
  obtain rfl := answered_itemOf hvalue
  rcases answered_requestResult hend with hsilent |
    ⟨front, requestId, line, back, answer, rfl, hfront, hback, hline, hresult⟩
  · exact .inl hsilent
  · exact .inr ⟨front, line, back, answer, rfl, hfront, hback, isConfirmation_confirm hline,
      fun accepted hr => (hresult accepted hr).1⟩

/-- On the connection the sensor is identified before anything is confirmed. -/
theorem answered_exchange {r : Except Raised (Json × Json × Json)}
    (h : (exchange printing operation).run.Answered events r) :
    ((∀ e ∈ events, IsQuiet e.1) ∧ ∃ e, r = .error e) ∨
    ∃ first second line back state prepared, ∃ answer : Except Raised Unit,
      events = first ++ second ++ ⟨.write line, answer⟩ :: back ∧
      (∀ e ∈ first ++ second, IsQuiet e.1) ∧ (∀ e ∈ back, IsQuiet e.1) ∧
      isConfirmation line = true ∧
      Reported printing first "read_node_state".toList state ∧
      state.get "hardware_id".toList = .str operation.hardwareId ∧
      state.get "node_id".toList = .str operation.deviceId ∧
      Reported printing second "prepare_factory_reset".toList prepared ∧
      prepared.get "hardware_id".toList = .str operation.hardwareId ∧
      ∀ result, r = .ok result → result.1 = state ∧ answer = .ok () := by
  unfold exchange at h
  rcases Program.answered_bind_except h with ⟨e, rfl, hraised⟩ | ⟨state, first, rest, rfl, hidentify, hafter⟩
  · exact .inl ⟨onlyCalls_identify.forall_events hraised, e, rfl⟩
  have hfirst := onlyCalls_identify.forall_events hidentify
  obtain ⟨hstate, hhardware, hnode⟩ := answered_identify hidentify
  rcases Program.answered_bind_except hafter with
    ⟨e, rfl, hraised⟩ | ⟨prepared, second, rest, rfl, hchallenge, hafter⟩
  · exact .inl ⟨List.forall_mem_append.mpr ⟨hfirst, onlyCalls_challenge.forall_events hraised⟩, e, rfl⟩
  have hsecond := onlyCalls_challenge.forall_events hchallenge
  have hquiet : ∀ e ∈ first ++ second, IsQuiet e.1 := List.forall_mem_append.mpr ⟨hfirst, hsecond⟩
  obtain ⟨hprepared, hbound⟩ := answered_challenge hchallenge
  rcases Program.answered_bind_except hafter with
    ⟨e, rfl, hraised⟩ | ⟨accepted, third, rest, rfl, hconfirm, hend⟩
  · rcases answered_confirm hraised with ⟨hsilent, e, he⟩ |
      ⟨front, line, back, answer, rfl, hfront, hback, hline, -⟩
    · refine .inl ⟨?_, _, rfl⟩
      rw [← List.append_assoc]
      exact List.forall_mem_append.mpr ⟨hquiet, fun e he => (hsilent e he).isQuiet⟩
    · refine .inr ⟨first, second ++ front, line, back, state, prepared, answer, by simp, ?_,
        fun e he => (hback e he).isQuiet, hline, hstate, hhardware, hnode, hprepared.append_right front,
        hbound, ?_⟩
      · rw [← List.append_assoc]
        exact List.forall_mem_append.mpr ⟨hquiet, fun e he => (hfront e he).isQuiet⟩
      · intro result hr
        cases hr
  · obtain ⟨rfl, hresult⟩ := Program.answered_pure_except hend
    rcases answered_confirm hconfirm with ⟨-, e, he⟩ |
      ⟨front, line, back, answer, rfl, hfront, hback, hline, haccepted⟩
    · cases he
    · refine .inr ⟨first, second ++ front, line, back, state, prepared, answer, by simp, ?_,
        fun e he => (hback e he).isQuiet, hline, hstate, hhardware, hnode, hprepared.append_right front,
        hbound, ?_⟩
      · rw [← List.append_assoc]
        exact List.forall_mem_append.mpr ⟨hquiet, fun e he => (hfront e he).isQuiet⟩
      · rintro result rfl
        rw [Except.ok.inj hresult]
        exact ⟨rfl, haccepted accepted rfl⟩

/-- So it is on a connection that is opened for this. -/
theorem answered_connection {r : Except Raised (Json × Json × Json)}
    (h : (withClient operation.port (exchange printing operation)).run.Answered events r) :
    ((∀ e ∈ events, IsHarmless e.1) ∧ ∃ e, r = .error e) ∨
    ∃ before line back state, ∃ answer : Except Raised Unit,
      events = before ++ ⟨.write line, answer⟩ :: back ∧ (∀ e ∈ before, IsHarmless e.1) ∧
      (∀ e ∈ back, IsHarmless e.1) ∧ isConfirmation line = true ∧
      IsIdentified printing operation before state ∧
      ∀ result, r = .ok result → result.1 = state ∧ answer = .ok () := by
  have hopen : IsHarmless (.openPort operation.port) := isHarmless_of_ne (by simp)
  have hclose : IsHarmless .close := isHarmless_of_ne (by simp)
  rcases answered_withClient h with hharmless | ⟨start, middle, outcome, closed, rfl, hstart, hblock, houtcome⟩
  · exact .inl hharmless
  rcases answered_exchange hblock with ⟨hquiet, e, rfl⟩ |
    ⟨first, second, line, back, state, prepared, answer, rfl, hquiet, hback, hline, hstate, hhardware,
      hnode, hprepared, hbound, hresult⟩
  · refine .inl ⟨?_, ?_⟩
    · simp only [List.forall_mem_append, List.forall_mem_cons]
      exact ⟨⟨⟨hopen, fun e he => (hstart e he).1⟩, fun e he => (hquiet e he).1⟩, hclose, by simp⟩
    · cases r with
      | error e => exact ⟨e, rfl⟩
      | ok value => cases houtcome value rfl
  · refine .inr ⟨opened operation.port :: ((start ++ first) ++ second), line,
      back ++ [⟨.close, closed⟩], state, answer, by simp, ?_, ?_, hline, ?_, ?_⟩
    · rw [List.forall_mem_cons, List.append_assoc, List.forall_mem_append]
      exact ⟨hopen, fun e he => (hstart e he).1, fun e he => (hquiet e he).1⟩
    · rw [List.forall_mem_append, List.forall_mem_singleton]
      exact ⟨fun e he => (hback e he).1, hclose⟩
    · refine ⟨⟨[], start ++ first, second, prepared, rfl, ?_, hstate.append_left start, hprepared,
        hbound⟩, hhardware, hnode⟩
      rw [List.append_assoc, List.forall_mem_append]
      exact ⟨fun e he => (hstart e he).2, fun e he => (hquiet e he).2⟩
    · intro result hr
      exact hresult result (houtcome result hr)

theorem IsIdentified.append_left {before : Events} {state : Json}
    (h : IsIdentified printing operation before state) (earlier : Events) :
    IsIdentified printing operation (earlier ++ before) state := by
  obtain ⟨⟨front, first, second, prepared, rfl, hopen⟩, hhardware, hdevice⟩ := h
  exact ⟨⟨earlier ++ front, first, second, prepared, by simp, hopen⟩, hhardware, hdevice⟩

/-- The operation up to the reboot confirms once at most, and what it returns is the state that
identified the sensor. -/
theorem answered_resetSensor {r : Except Raised Json}
    (h : (resetSensor printing operation).run.Answered events r) :
    ((∀ e ∈ events, IsHarmless e.1) ∧ ∃ e, r = .error e) ∨
    ∃ before line back state, ∃ answer : Except Raised Unit,
      events = before ++ ⟨.write line, answer⟩ :: back ∧ (∀ e ∈ before, IsHarmless e.1) ∧
      (∀ e ∈ back, IsHarmless e.1) ∧ isConfirmation line = true ∧
      IsIdentified printing operation before state ∧
      ∀ result, r = .ok result → result = state ∧ answer = .ok () := by
  unfold resetSensor at h
  rcases Program.answered_bind_except h with ⟨e, rfl, hraised⟩ | ⟨item, listing, rest, rfl, hlisting, hafter⟩
  · exact .inl ⟨(onlyCalls_onlyPort _).forall_events hraised, e, rfl⟩
  have hharmless := (onlyCalls_onlyPort _).forall_events hlisting
  rcases Program.answered_bind_except hafter with
    ⟨e, rfl, hraised⟩ | ⟨⟨before, prepared, accepted⟩, exchanged, rest, rfl, hexchange, hend⟩
  · rcases answered_connection hraised with ⟨hrest, -⟩ |
      ⟨before, line, back, state, answer, rfl, hbefore, hback, hline, hidentified, -⟩
    · exact .inl ⟨List.forall_mem_append.mpr ⟨hharmless, hrest⟩, e, rfl⟩
    · refine .inr ⟨listing ++ before, line, back, state, answer, by simp,
        List.forall_mem_append.mpr ⟨hharmless, hbefore⟩, hback, hline, hidentified.append_left listing, ?_⟩
      intro result hr
      cases hr
  · obtain ⟨rfl, hreturned⟩ : rest = [] ∧ ∀ result, r = .ok result → result = before := by
      dsimp only at hend
      rcases Program.answered_bind_except hend with ⟨e, rfl, hraised⟩ | ⟨id, front, rest, rfl, hid, hcheck⟩
      · refine ⟨?_, fun result hr => by cases hr⟩
        unfold getOf at hraised
        split at hraised
        · exact (Program.answered_pure_except hraised).1
        · exact (Program.answered_throw hraised).1
      · obtain ⟨rfl, -⟩ := answered_getOf hid
        split at hcheck
        · obtain ⟨rfl, rfl⟩ := Program.answered_throw hcheck
          exact ⟨rfl, fun result hr => by cases hr⟩
        · obtain ⟨rfl, rfl⟩ := Program.answered_pure_except hcheck
          exact ⟨rfl, fun result hr => (Except.ok.inj hr).symm⟩
    rcases answered_connection hexchange with ⟨-, e, he⟩ |
      ⟨front, line, back, state, answer, rfl, hbefore, hback, hline, hidentified, hresult⟩
    · cases he
    · refine .inr ⟨listing ++ front, line, back, state, answer, by simp,
        List.forall_mem_append.mpr ⟨hharmless, hbefore⟩, hback, hline, hidentified.append_left listing, ?_⟩
      intro result hr
      obtain ⟨hsame, hanswer⟩ := hresult _ rfl
      exact ⟨(hreturned result hr).trans hsame, hanswer⟩

end Confirmation

/-! ## The read-back -/

/-- On a connection that was opened a sensor has told its state. -/
def ReportedState (printing : Printing) (events : Events) (state : Json) : Prop :=
  ∃ earlier port middle later, events = earlier ++ opened port :: (middle ++ later) ∧
    (∀ e ∈ middle, StaysOpen e.1) ∧ Reported printing middle "read_node_state".toList state

/-- A sensor with the hardware id of the operation has told that it has no node id and no identity,
and the firmware that it had before. -/
def IsReadBack (printing : Printing) (operation : ResetOperation) (events : Events) (before : Json) :
    Prop :=
  ∃ state, ReportedState printing events state ∧
    state.get "hardware_id".toList = .str operation.hardwareId ∧
    state.get "node_id".toList = .null ∧
    state.get "identity_status".toList = .str "unprovisioned".toList ∧
    countsAsTrue (before.get "firmware_version".toList) = true ∧
    same (state.get "firmware_version".toList) (before.get "firmware_version".toList) = true

section ReadBack

variable {printing : Printing} {operation : ResetOperation} {events : Events}

theorem ReportedState.append_left {state : Json} (h : ReportedState printing events state)
    (before : Events) : ReportedState printing (before ++ events) state := by
  obtain ⟨earlier, port, middle, later, rfl, hreported⟩ := h
  exact ⟨before ++ earlier, port, middle, later, by simp, hreported⟩

theorem ReportedState.append_right {state : Json} (h : ReportedState printing events state)
    (after : Events) : ReportedState printing (events ++ after) state := by
  obtain ⟨earlier, port, middle, later, rfl, hreported⟩ := h
  exact ⟨earlier, port, middle, later ++ after, by simp, hreported⟩

/-- What is inspected was told on a connection of its own. -/
theorem answered_inspect {port : Text} {found : Json}
    (h : (inspect printing port).run.Answered events (.ok found)) :
    ∃ state item, ReportedState printing events state ∧ (∃ members, state = .obj members) ∧
      found = merged item state := by
  unfold inspect at h
  rcases Program.answered_bind_except h with ⟨e, he, -⟩ | ⟨item, listing, rest, rfl, hlisting, hafter⟩
  · cases he
  rcases Program.answered_bind_except hafter with ⟨e, he, -⟩ | ⟨⟨state, last⟩, tries, rest, rfl, htwice, hend⟩
  · cases he
  dsimp only at hend
  split at hend
  · exact absurd (Program.answered_throw hend).2 (by simp)
  rename_i hnull
  have hstate : ReportedState printing tries state := by
    rcases answered_twice htwice with rfl | ⟨front, back, rfl, hblock⟩
    · exact absurd rfl hnull
    · rcases answered_withClient hblock with ⟨-, e, he⟩ |
        ⟨start, middle, result, closed, rfl, hstart, hread, hresult⟩
      · cases he
      · obtain rfl := hresult state rfl
        refine ⟨front, port, start ++ middle, [⟨.close, closed⟩], by simp, ?_,
          (reported_of_requestResult hread).append_left start⟩
        rw [List.forall_mem_append]
        exact ⟨fun e he => (hstart e he).2, fun e he => (onlyCalls_readNodeState.forall_events hread e he).2⟩
  rcases Program.answered_bind_except hend with ⟨e, he, -⟩ | ⟨id, front, rest, rfl, hid, hcheck⟩
  · cases he
  have hmembers : ∃ members, state = .obj members := by
    unfold getOf at hid
    split at hid
    · exact ⟨_, rfl⟩
    · exact absurd (Program.answered_throw hid).2 (by simp)
  split at hcheck
  · exact absurd (Program.answered_throw hcheck).2 (by simp)
  · refine ⟨state, item, ?_, hmembers, Except.ok.inj (Program.answered_pure_except hcheck).2⟩
    exact (hstate.append_right _).append_left _

/-- What is found on one of the ports has told the hardware id. -/
theorem answered_findSensor {hardwareId : Text} {candidates : List UsbPort} {found : Json}
    (h : (findSensor printing hardwareId candidates).run.Answered events (.ok (some found))) :
    found.get "hardware_id".toList = .str hardwareId ∧
      ∃ state item, ReportedState printing events state ∧ (∃ members, state = .obj members) ∧
        found = merged item state := by
  induction candidates generalizing events with
  | nil => exact absurd (Program.answered_pure_except h).2 (by simp)
  | cons candidate candidates ih =>
    unfold findSensor at h
    rcases Program.answered_bind_except h with ⟨e, he, -⟩ | ⟨result, front, rest, rfl, htry, hafter⟩
    · cases he
    obtain ⟨outcome, houtcome, hinspect⟩ := answered_attempt htry
    obtain rfl := Except.ok.inj houtcome
    have hrest (hnext : (findSensor printing hardwareId candidates).run.Answered rest (.ok (some found))) :
        found.get "hardware_id".toList = .str hardwareId ∧
        ∃ state item, ReportedState printing (front ++ rest) state ∧ (∃ members, state = .obj members) ∧
          found = merged item state := by
      obtain ⟨hid, state, item, hstate, hfound⟩ := ih hnext
      exact ⟨hid, state, item, hstate.append_left front, hfound⟩
    split at hafter
    · split at hafter
      · exact hrest hafter
      · exact absurd (Program.answered_throw hafter).2 (by simp)
    · split at hafter
      · rename_i hid
        obtain ⟨rfl, hfound⟩ := Program.answered_pure_except hafter
        obtain rfl := Option.some.inj (Except.ok.inj hfound)
        rw [List.append_nil]
        exact ⟨eq_str_of_isStr hid, answered_inspect hinspect⟩
      · exact hrest hafter

/-- Waiting ends with a sensor that was found. -/
theorem answered_poll {hardwareId : Text} {deadline : ℚ} {rounds : ℕ} {found : Json}
    (h : (poll printing hardwareId deadline rounds).run.Answered events (.ok (some (some found)))) :
    found.get "hardware_id".toList = .str hardwareId ∧
      ∃ state item, ReportedState printing events state ∧ (∃ members, state = .obj members) ∧
        found = merged item state := by
  induction rounds generalizing events with
  | zero => exact absurd (Program.answered_pure_except h).2 (by simp)
  | succ rounds ih =>
    unfold poll at h
    rcases Program.answered_bind_except h with ⟨e, he, -⟩ | ⟨time, clock, rest, rfl, -, hafter⟩
    · cases he
    split at hafter
    · rcases Program.answered_bind_except hafter with ⟨e, he, -⟩ | ⟨items, listing, rest, rfl, -, hafter⟩
      · cases he
      rcases Program.answered_bind_except hafter with ⟨e, he, -⟩ | ⟨result, tries, rest, rfl, htries, hend⟩
      · cases he
      split at hend
      · rename_i verified
        obtain rfl : found = verified := by
          rcases Program.answered_bind_except hend with ⟨e, he, -⟩ | ⟨_, last, rest, rfl, -, hvalue⟩
          · cases he
          · exact Option.some.inj (Option.some.inj (Except.ok.inj (Program.answered_pure_except hvalue).2))
        obtain ⟨hid, state, item, hstate, hfound⟩ := answered_findSensor htries
        exact ⟨hid, state, item,
          ((hstate.append_right _).append_left _).append_left _, hfound⟩
      · obtain ⟨hid, state, item, hstate, hfound⟩ := ih hend
        exact ⟨hid, state, item,
          ((hstate.append_left _).append_left _).append_left _, hfound⟩
    · have hvalue := (Program.answered_pure_except hafter).2
      cases hvalue

/-- What is verified is a read-back. -/
theorem answered_verifySensor {rebootTimeout : ℚ} {rounds : ℕ} {before verified : Json}
    (h : (verifySensor printing rebootTimeout rounds operation before).run.Answered events
      (.ok (some verified))) : IsReadBack printing operation events before := by
  unfold verifySensor at h
  rcases Program.answered_bind_except h with ⟨e, he, -⟩ | ⟨time, clock, rest, rfl, -, hafter⟩
  · cases he
  dsimp only at hafter
  rcases Program.answered_bind_except hafter with ⟨e, he, -⟩ | ⟨result, tries, rest, rfl, hpoll, hend⟩
  · cases he
  split at hend
  · have hvalue := (Program.answered_pure_except hend).2
    cases hvalue
  · exact absurd (Program.answered_throw hend).2 (by simp)
  rename_i found
  split at hend
  · exact absurd (Program.answered_throw hend).2 (by simp)
  rename_i hidentity
  split at hend
  · exact absurd (Program.answered_throw hend).2 (by simp)
  rename_i hfirmware
  simp only [Bool.or_eq_true, Bool.not_eq_true', not_or, Bool.not_eq_false] at hidentity hfirmware
  obtain ⟨hid, state, item, hstate, hmembers, rfl⟩ := answered_poll hpoll
  have hget {key : Text} (hkey : key ∉ portKeys) : (merged item state).get key = state.get key :=
    get_merged item hmembers hkey
  rw [hget (by decide)] at hid
  rw [hget (by decide), hget (by decide)] at hidentity
  rw [hget (by decide)] at hfirmware
  refine ⟨state, (hstate.append_right _).append_left _, hid, ?_, eq_str_of_isStr hidentity.2, hfirmware⟩
  revert hidentity
  cases state.get "node_id".toList <;> simp [isNull]

end ReadBack

/-! ## Whole runs -/

section Runs

variable {printing : Printing} {rebootTimeout : ℚ} {rounds : ℕ} {operation result : ResetOperation}
  {events : Events}

theorem fails_state (operation : ResetOperation) (e : Raised) :
    (operation.fails e).state ≠ .physicalComplete := by
  simp [ResetOperation.fails]

/-- A run confirms nothing and is not complete, or it confirms once, with a sensor that was identified
before, and is complete only with a read-back after it. -/
theorem answered_run (h : (run printing rebootTimeout rounds operation).Answered events result) :
    ((∀ e ∈ events, IsHarmless e.1) ∧ result.state ≠ .physicalComplete) ∨
    ∃ before line after state, ∃ answer : Except Raised Unit,
      events = before ++ ⟨.write line, answer⟩ :: after ∧ (∀ e ∈ before, IsHarmless e.1) ∧
      (∀ e ∈ after, IsHarmless e.1) ∧ isConfirmation line = true ∧
      IsIdentified printing operation before state ∧
      (result.state = .physicalComplete → answer = .ok () ∧ IsReadBack printing operation after state) := by
  unfold run at h
  obtain ⟨reset, front, rest, rfl, hreset, hafter⟩ := Program.answered_bind h
  cases reset with
  | error e =>
    obtain ⟨rfl, rfl⟩ := hafter
    rw [List.append_nil]
    rcases answered_resetSensor hreset with ⟨hharmless, -⟩ |
      ⟨before, line, back, state, answer, rfl, hbefore, hback, hline, hidentified, -⟩
    · exact .inl ⟨hharmless, fails_state _ _⟩
    · exact .inr ⟨before, line, back, state, answer, rfl, hbefore, hback, hline, hidentified,
        fun hcomplete => absurd hcomplete (fails_state _ _)⟩
  | ok state =>
    rcases answered_resetSensor hreset with ⟨-, e, he⟩ |
      ⟨before, line, back, identified, answer, rfl, hbefore, hback, hline, hidentified, hreturned⟩
    · cases he
    obtain ⟨rfl, rfl⟩ := hreturned state rfl
    dsimp only at hafter
    obtain ⟨verified, reading, last, rfl, hreading, hend⟩ := Program.answered_bind hafter
    have hharmless := (onlyCalls_verifySensor rebootTimeout rounds state).forall_events hreading
    have hlast : last = [] ∧ (result.state = .physicalComplete →
        ∃ found, verified = .ok (some found)) := by
      cases verified with
      | error e =>
        obtain ⟨rfl, rfl⟩ := hend
        exact ⟨rfl, fun hcomplete => absurd hcomplete (fails_state _ _)⟩
      | ok found =>
        cases found with
        | none =>
          obtain ⟨rfl, rfl⟩ := hend
          exact ⟨rfl, fun hcomplete => by cases hcomplete⟩
        | some found =>
          obtain ⟨rfl, rfl⟩ := hend
          exact ⟨rfl, fun _ => ⟨found, rfl⟩⟩
    obtain ⟨rfl, hcomplete⟩ := hlast
    refine .inr ⟨before, line, back ++ reading, state, .ok (), by simp, hbefore,
      List.forall_mem_append.mpr ⟨hback, hharmless⟩, hline, hidentified, fun hstate => ⟨rfl, ?_⟩⟩
    obtain ⟨found, rfl⟩ := hcomplete hstate
    obtain ⟨read, hread, hchecks⟩ := answered_verifySensor hreading
    exact ⟨read, hread.append_left back, hchecks⟩

/-- Where all other calls are harmless there is only one place for a confirmation. -/
theorem eq_of_harmless {before after front back : Events} {line other : Text}
    {answer outcome : Except Raised Unit}
    (h : before ++ ⟨.write line, answer⟩ :: after = front ++ ⟨.write other, outcome⟩ :: back)
    (hbefore : ∀ e ∈ before, IsHarmless e.1) (hafter : ∀ e ∈ after, IsHarmless e.1)
    (hother : isConfirmation other = true) : front = before := by
  have hnot : ¬ IsHarmless (.write other) := fun hharmless => by
    rw [hharmless other rfl] at hother
    cases hother
  rcases List.append_eq_append_iff.mp h with ⟨gap, hfront, hrest⟩ | ⟨gap, hfront, hrest⟩
  · cases gap with
    | nil => rw [hfront, List.append_nil]
    | cons e gap =>
      rw [List.cons_append, List.cons.injEq] at hrest
      refine absurd (hafter ⟨.write other, outcome⟩ ?_) hnot
      rw [hrest.2]
      simp
  · cases gap with
    | nil => rw [hfront, List.append_nil]
    | cons e gap =>
      rw [List.cons_append, List.cons.injEq] at hrest
      refine absurd (hbefore ⟨.write other, outcome⟩ ?_) hnot
      rw [hfront, hrest.1]
      simp

/-- **A factory reset is sent once at most, and only to the right sensor**: in every conversation of
an operation, however the ports and the sensors answer, there is one confirmation at most; before it
the sensor was identified on the connection it is written on; and the operation is complete only if a
sensor with the same hardware id was read back after it without an identity, with the firmware it had
before. -/
theorem reset_sent_once (printing : Printing) (rebootTimeout : ℚ) (rounds : ℕ)
    (operation result : ResetOperation) (events : Events)
    (h : (run printing rebootTimeout rounds operation).Answered events result) :
    (confirmations events).length ≤ 1 ∧
    (∀ before line after, ∀ answer : Except Raised Unit,
      events = before ++ ⟨.write line, answer⟩ :: after → isConfirmation line = true →
      ∃ state, IsIdentified printing operation before state) ∧
    (result.state = .physicalComplete → ∃ before line after state,
      events = before ++ sent line :: after ∧ isConfirmation line = true ∧
      IsIdentified printing operation before state ∧ IsReadBack printing operation after state) := by
  rcases answered_run h with ⟨hharmless, hstate⟩ |
    ⟨before, line, after, state, answer, rfl, hbefore, hafter, hline, hidentified, hcomplete⟩
  · refine ⟨by rw [confirmations_eq_nil hharmless]; exact Nat.zero_le 1, ?_, fun h => absurd h hstate⟩
    rintro before line after answer rfl hline
    have hwrite := hharmless ⟨.write line, answer⟩ (by simp) line rfl
    rw [hwrite] at hline
    cases hline
  · refine ⟨?_, ?_, fun h => ?_⟩
    · have hone : confirmations (⟨.write line, answer⟩ :: after) = line :: confirmations after := by
        show (line :: after.filterMap lineOf).filter isConfirmation = _
        exact List.filter_cons_of_pos hline
      rw [confirmations_append, hone, confirmations_eq_nil hbefore, confirmations_eq_nil hafter]
      exact le_rfl
    · intro front other back outcome hsplit hother
      rw [eq_of_harmless hsplit hbefore hafter hother]
      exact ⟨state, hidentified⟩
    · obtain ⟨rfl, hread⟩ := hcomplete h
      exact ⟨before, line, after, state, rfl, hline, hidentified, hread⟩

theorem reset_sent_once_board : (confirmations (boardExchanges.events boardReset.port)).length ≤ 1 ∧
    ∃ before line after state, boardExchanges.events boardReset.port = before ++ sent line :: after ∧
      isConfirmation line = true ∧ IsIdentified noPrinting boardReset before state ∧
      IsReadBack noPrinting boardReset after state := by
  obtain ⟨hone, -, hcomplete⟩ := reset_sent_once noPrinting 90 1 boardReset _
    (boardExchanges.events boardReset.port) (reset_completes succeeds_board 0)
  exact ⟨hone, hcomplete rfl⟩

end Runs

end ResetConversations

end SeedMg24.Analysis
