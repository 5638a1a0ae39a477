import SeedMg24.Foundation.Runs
import SeedMg24.Foundation.Text

/-!
# The commands of a device connection

`send_command`, `_drain_commands` and what surrounds them in `DeviceConnection` of
`ble/connection.py`.  Callers and the task of the connection run in turn, each up to the next point
where it waits; one event is what happens from one such point to the next.  A command is known by
its number in the order in which commands were queued.
-/

set_option autoImplicit false

namespace SeedMg24.Model.DeviceCommands

open Foundation

/-- The future of a command. -/
inductive FutureState where
  | pending
  | result
  | exception
  | cancelled
deriving DecidableEq, Repr

/-- Why `_connected_loop` comes to its `finally`. -/
inductive ClosingCause where
  /-- the test of the loop failed -/
  | loopLeft
  | raised
  | cancelled
deriving DecidableEq, Repr

/-- What the task of the connection waits for. -/
inductive TaskPoint where
  /-- there is no task, or it is done -/
  | ended
  /-- its first step, or the delay before the next attempt -/
  | waiting
  | connecting
  /-- connected, between two calls of `_drain_commands` -/
  | polling
  /-- the end of a write -/
  | writing (id : ℕ)
  /-- the `finally`, and the status callbacks behind it -/
  | closing (cause : ClosingCause)
deriving DecidableEq, Repr

/-- What happens to a command, as the device and the caller see it. -/
inductive Entry where
  /-- `write_gatt_char` is called with the command -/
  | wrote (id : ℕ)
  /-- `send_command` returns -/
  | returned (id : ℕ)
  /-- `send_command` raises -/
  | raised (id : ℕ)
deriving DecidableEq, Repr

/-- SOURCE: connection.py:50-61 -/
structure CommandQueue where
  /-- `state == "connected"` -/
  connected : Bool := false
  stop : Bool := false
  forceDisconnect : Bool := false
  /-- the event of the connection itself -/
  disconnected : Bool := false
  /-- how many tasks were started, which is the number of the last -/
  task : ℕ := 0
  point : TaskPoint := .ended
  /-- the task was cancelled and has not gone on since -/
  cancelling : Bool := false
  /-- the tasks that the running calls of `stop` wait for -/
  stops : List ℕ := []
  /-- the futures of all commands that were queued -/
  futures : List FutureState := []
  /-- the commands whose callers wait for their futures -/
  awaiting : List ℕ := []
  commands : List (ℕ × Text) := []
  /-- all writes and answers, oldest first -/
  log : List Entry := []
deriving DecidableEq, Repr

inductive Event where
  | start
  | sendCommand (command : Text)
  /-- the timeout of a caller, or its cancellation -/
  | expires (id : ℕ)
  /-- a caller goes on; `late` if its timeout came after the future was done -/
  | resumes (id : ℕ) (late : Bool)
  /-- the test of the loop in `run` -/
  | runs
  | connects
  /-- whatever else raises in `_connected_loop` or in `run` -/
  | fails
  /-- the callback of the client -/
  | onDisconnect
  | disconnect
  /-- the test of the loop in `_connected_loop`, and its body -/
  | polls
  | writeEnds (succeeds : Bool)
  | closes
  /-- the task notices that it was cancelled -/
  | cancelled
  | stopBegins
  /-- a call of `stop` goes on behind the end of the task -/
  | stopEnds (index : ℕ)
deriving DecidableEq, Repr

namespace CommandQueue

/-- SOURCE: connection.py:55 -/
def maxsize : ℕ := 32

/-- Whether `encode("ascii")` does not raise. -/
def isAscii (command : Text) : Bool := command.all fun c => c.toNat < 128

/-- `if not future.done()`: a future gets a result, an exception or is cancelled. -/
def settle (s : CommandQueue) (id : ℕ) (outcome : FutureState) : CommandQueue :=
  { s with futures := s.futures.modify id fun future =>
      if future = .pending then outcome else future }

/-- The loop of `_drain_commands` up to the next write, or its end.
SOURCE: connection.py:238-252 -/
def drainCommands (s : CommandQueue) : CommandQueue :=
  match s.commands with
  | [] => { s with point := .polling }
  | (id, command) :: rest =>
    if isAscii command then
      { s with commands := rest, point := .writing id, log := s.log ++ [.wrote id] }
    else { s.settle id .exception with commands := rest, point := .closing .raised }

/-- The test of the loop in `_connected_loop`.
SOURCE: connection.py:166 -/
def polling (s : CommandQueue) : Bool :=
  !s.stop && !s.forceDisconnect && !s.disconnected

/-- The exception of the commands that are left.
SOURCE: connection.py:80-83 -/
def flush (s : CommandQueue) : CommandQueue :=
  { s.commands.foldl (fun s command => s.settle command.1 .exception) s with
    commands := [], connected := false }

/-- A caller leaves `send_command`. -/
def answer (s : CommandQueue) (id : ℕ) (entry : Entry) : CommandQueue :=
  { s with awaiting := s.awaiting.erase id, log := s.log ++ [entry] }

/-- SOURCE: connection.py:92-97 -/
def sendCommand (s : CommandQueue) (command : Text) : CommandQueue :=
  if s.connected && s.commands.length < maxsize then { s with
    futures := s.futures ++ [.pending]
    awaiting := s.awaiting ++ [s.futures.length]
    commands := s.commands ++ [(s.futures.length, command)] }
  else s

/-- The end of `send_command`.
SOURCE: connection.py:97 -/
def resume (s : CommandQueue) (id : ℕ) (late : Bool) : CommandQueue :=
  if id ∈ s.awaiting then
    match s.futures[id]? with
    | some .result => s.answer id (if late then .raised id else .returned id)
    | some .exception => s.answer id (.raised id)
    | some .cancelled => s.answer id (.raised id)
    | _ => s
  else s

/-- A step of the task of the connection, that is not cancelled.
SOURCE: connection.py:99-185, 238-252 -/
def taskStep (s : CommandQueue) : Event → CommandQueue
  | .runs => match s.point with
    | .waiting =>
      if s.stop then { s with point := .ended }
      else { s with
        forceDisconnect := false
        connected := false
        disconnected := false
        point := .connecting }
    | _ => s
  | .connects => match s.point with
    | .connecting => { s with connected := true, point := .polling }
    | _ => s
  | .fails => match s.point with
    | .waiting => { s with point := .ended }
    | .connecting => { s with point := .closing .raised }
    | .polling => { s with point := .closing .raised }
    | .closing _ => { s with point := .closing .raised }
    | _ => s
  | .polls => match s.point with
    | .polling => if s.polling then s.drainCommands else { s with point := .closing .loopLeft }
    | _ => s
  | .writeEnds succeeds => match s.point with
    | .writing id =>
      if succeeds then (s.settle id .result).drainCommands
      else { s.settle id .exception with point := .closing .raised }
    | _ => s
  | .closes => match s.point with
    | .closing .loopLeft =>
      -- with one of the flags set `run` breaks and leaves the state as it is
      if s.stop || s.forceDisconnect then { s with point := .ended }
      else { s with connected := false, point := .waiting }
    | .closing .raised => { s with connected := false, point := .waiting }
    | .closing .cancelled => { s with point := .ended }
    | _ => s
  | _ => s

/-- The task notices that it was cancelled.
SOURCE: connection.py:109-110, 178-182, 245-248 -/
def notice (s : CommandQueue) : CommandQueue :=
  match s.point with
  | .writing id => { s.settle id .exception with
    point := .closing .cancelled, cancelling := false }
  | .ended => { s with cancelling := false }
  | .waiting => { s with point := .ended, cancelling := false }
  | _ => { s with point := .closing .cancelled, cancelling := false }

/-- What an event does; what nobody waits for does nothing. -/
def next (s : CommandQueue) : Event → CommandQueue
  | .start =>
    if s.point = .ended then { s with
      stop := false
      forceDisconnect := false
      task := s.task + 1
      point := .waiting
      cancelling := false }
    else s
  | .sendCommand command => s.sendCommand command
  | .expires id => if id ∈ s.awaiting then s.settle id .cancelled else s
  | .resumes id late => s.resume id late
  | .onDisconnect => { s with disconnected := true }
  | .disconnect => { s with forceDisconnect := true }
  | .cancelled => if s.cancelling then s.notice else s
  | .stopBegins =>
    if s.task = 0 then { s.flush with stop := true, forceDisconnect := true }
    else { s with
      stop := true
      forceDisconnect := true
      cancelling := s.cancelling || s.point ≠ .ended
      stops := s.stops ++ [s.task] }
  | .stopEnds index => match s.stops[index]? with
    | some task =>
      if task < s.task ∨ s.point = .ended then
        { s.flush with stops := s.stops.eraseIdx index }
      else s
    | none => s
  | event => if s.cancelling then s else s.taskStep event

end CommandQueue

end SeedMg24.Model.DeviceCommands
