import SeedMg24.Foundation.BinaryFloat
import SeedMg24.Foundation.Runs

/-!
# The reconnect loop of a device connection

`reconnect_delay` and `DeviceConnection.run` of `ble/connection.py`.  The loop is a machine that
moves on when what it awaits returns, fails or is cancelled.  The status callback does not raise;
the jitter added to a delay, the commands and the telemetry of a connection are left out.
-/

set_option autoImplicit false

namespace SeedMg24.Model

open Foundation

/-- The exceptions the computation of a delay can raise. -/
inductive PythonError where
  /-- an integer too large for a float -/
  | overflowError
deriving DecidableEq, Repr

/-- `x * 2 ** n` for a float `x`: the integer is converted first, and from `2 ** 1024` on it has no
float. -/
def timesPowerOfTwo (x : PositiveFloat) (n : ℕ) : Except PythonError PositiveFloat :=
  if n ≥ 1024 then .error .overflowError else .ok (x.scale n)

/-- SOURCE: connection.py:19-20 -/
def reconnectDelay (initial maximum : PositiveFloat) (failureCount : ℤ) :
    Except PythonError PositiveFloat := do
  let grown ← timesPowerOfTwo initial (max 0 failureCount).toNat
  return PositiveFloat.minimum grown maximum

/-- SOURCE: connection.py:33-36 -/
structure ConnectionSettings where
  initialBackoff : PositiveFloat
  maxBackoff : PositiveFloat
  stableSeconds : ℚ
  ordered : initialBackoff ≤ maxBackoff

/-- Why the loop was left. -/
inductive LoopEnd where
  /-- the loop test saw `_stop` set -/
  | stopped
  /-- the connection was left with `_stop` or `_force_disconnect` set -/
  | brokeOff
  | cancelled
  | raised (error : PythonError)
deriving DecidableEq, Repr

/-- What the loop awaits. -/
inductive LoopPoint where
  /-- the status callback for `connecting` -/
  | connecting
  /-- `_connected_loop` -/
  | connected
  /-- the status callback for `error`, after a connection of the given duration -/
  | reportingError (connectedDuration : ℚ)
  /-- the status callback for `backoff` -/
  | backingOff (delay : PositiveFloat)
  /-- `_stop`, for the delay -/
  | waiting (delay : PositiveFloat)
  | ended (reason : LoopEnd)

/-- SOURCE: connection.py:56-57, 99-100 -/
structure ReconnectLoop where
  stop : Bool
  forceDisconnect : Bool
  failureCount : ℤ
  point : LoopPoint

/-- What happens to the loop. -/
inductive LoopEvent where
  /-- `stop` sets both flags -/
  | stopSet
  /-- `disconnect` sets one -/
  | forceDisconnectSet
  /-- the loop's task is cancelled -/
  | cancelled
  /-- the status callback returns -/
  | callbackReturns
  /-- `_connected_loop` comes to its end, so long after the connection -/
  | connectionCloses (connectedFor : ℚ)
  /-- `_connected_loop` raises, so long after the connection, if there was one -/
  | connectionFails (connectedFor : Option ℚ)
  /-- the delay is over, or `_stop` is set -/
  | waitEnds

namespace ReconnectLoop

/-- The test of the loop and the beginning of its body.
SOURCE: connection.py:101-105 -/
def loopTest (s : ReconnectLoop) : ReconnectLoop :=
  if s.stop then { s with point := .ended .stopped }
  else { s with forceDisconnect := false, point := .connecting }

/-- The loop when its task starts.
SOURCE: connection.py:99-101 -/
def start (stop : Bool) : ReconnectLoop :=
  loopTest ⟨stop, false, 0, .connecting⟩

/-- The part of the body after a failed connection was reported.
SOURCE: connection.py:116-121 -/
def backOff (settings : ConnectionSettings) (s : ReconnectLoop) (connectedDuration : ℚ) :
    ReconnectLoop :=
  let failureCount := if connectedDuration ≥ settings.stableSeconds then 0 else s.failureCount
  match reconnectDelay settings.initialBackoff settings.maxBackoff failureCount with
  | .error e => { s with failureCount := failureCount, point := .ended (.raised e) }
  | .ok delay => { s with failureCount := failureCount, point := .backingOff delay }

/-- What an event does to the loop; what the loop does not await does nothing.
SOURCE: connection.py:75-77, 88-89, 99-127, 178-180 -/
def next (settings : ConnectionSettings) (s : ReconnectLoop) : LoopEvent → ReconnectLoop
  | .stopSet => { s with stop := true, forceDisconnect := true }
  | .forceDisconnectSet => { s with forceDisconnect := true }
  | .cancelled =>
    match s.point with
    | .ended _ => s
    | _ => { s with point := .ended .cancelled }
  | .callbackReturns =>
    match s.point with
    | .connecting => { s with point := .connected }
    | .reportingError connectedDuration => s.backOff settings connectedDuration
    | .backingOff delay => { s with point := .waiting delay }
    | _ => s
  | .connectionCloses connectedFor =>
    match s.point with
    | .connected =>
      -- without a flag `_connected_loop` raises a `ConnectionError` of its own
      if s.stop ∨ s.forceDisconnect then { s with point := .ended .brokeOff }
      else { s with point := .reportingError connectedFor }
    | _ => s
  | .connectionFails connectedFor =>
    match s.point with
    | .connected => { s with point := .reportingError (connectedFor.getD 0) }
    | _ => s
  | .waitEnds =>
    match s.point with
    | .waiting _ => loopTest { s with failureCount := s.failureCount + 1 }
    | _ => s

end ReconnectLoop

end SeedMg24.Model
