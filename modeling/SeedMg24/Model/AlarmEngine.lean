import SeedMg24.Foundation.SingleArithmetic
import SeedMg24.Model.TelemetryEncoder
import SeedMg24.Model.NodeTelemetry

/-!
# The alarm engine

`alarm_engine.cpp`: the state a processed value puts a channel in, with hysteresis, persistence and
a latch.  An engine without a configuration that is asked for anything but the normal state reads
through a null pointer.
-/

set_option autoImplicit false

namespace SeedMg24.Model

open Foundation

open TelemetryEncoder (MeasurementQuality MonitoringState)

/-- SOURCE: sensor_types.h:13-16 -/
structure OptionalFloat where
  configured : Bool
  value : Single
deriving DecidableEq

/-- The part of a `ChannelConfig` that the engine reads.
SOURCE: sensor_types.h:35-43 -/
structure AlarmConfig where
  warningLow : OptionalFloat
  warningHigh : OptionalFloat
  alarmLow : OptionalFloat
  alarmHigh : OptionalFloat
  activationPersistenceMs : UInt32
  clearingPersistenceMs : UInt32
  hysteresis : Single
  latchingEnabled : Bool
deriving DecidableEq

/-- How long a state has to be wanted.
SOURCE: alarm_engine.cpp:26 -/
def AlarmConfig.persistence (c : AlarmConfig) (desired : MonitoringState) : UInt32 :=
  if desired = .normal then c.clearingPersistenceMs else c.activationPersistenceMs

/-- SOURCE: alarm_engine.h:5-11 -/
structure AlarmTransition where
  changed : Bool
  previous : MonitoringState
  current : MonitoringState
  timestampMs : UInt32
  value : Single
deriving DecidableEq

/-- SOURCE: alarm_engine.h:24-28 -/
structure AlarmEngine where
  config : Option AlarmConfig := none
  state : MonitoringState := .normal
  pending : MonitoringState := .normal
  pendingSince : UInt32 := 0
  pendingActive : Bool := false
deriving DecidableEq

namespace AlarmEngine

/-- SOURCE: alarm_engine.cpp:5 -/
def reset (e : AlarmEngine) : AlarmEngine :=
  { e with state := .normal, pending := .normal, pendingSince := 0, pendingActive := false }

/-- SOURCE: alarm_engine.cpp:4 -/
def configure (e : AlarmEngine) (config : Option AlarmConfig) : AlarmEngine :=
  { e with config := config }.reset

/-- SOURCE: alarm_engine.cpp:6 -/
def clearLatch (e : AlarmEngine) : AlarmEngine :=
  match e.config with
  | some c => if c.latchingEnabled then e.reset else e
  | none => e

/-- The hysteresis of a threshold, in the state it leads to. -/
def hysteresisIn (e : AlarmEngine) (c : AlarmConfig) (state : MonitoringState) : Single :=
  if e.state = state then c.hysteresis else .zero

/-- SOURCE: alarm_engine.cpp:8-18 -/
def desiredState (e : AlarmEngine) (value : Single) (quality : MeasurementQuality) :
    MonitoringState :=
  if quality = .sensorFault then .sensorFault
  else if quality = .invalid then .invalid
  else match e.config with
    | none => .normal
    | some c =>
      if c.alarmLow.configured && value.le (c.alarmLow.value.add (e.hysteresisIn c .alarmLow)) then
        .alarmLow
      else if c.alarmHigh.configured &&
          (c.alarmHigh.value.sub (e.hysteresisIn c .alarmHigh)).le value then .alarmHigh
      else if c.warningLow.configured &&
          value.le (c.warningLow.value.add (e.hysteresisIn c .warningLow)) then .warningLow
      else if c.warningHigh.configured &&
          (c.warningHigh.value.sub (e.hysteresisIn c .warningHigh)).le value then .warningHigh
      else .normal

/-- The desired state, after the latch.
SOURCE: alarm_engine.cpp:21-23 -/
def latchedState (e : AlarmEngine) (value : Single) (quality : MeasurementQuality) :
    MonitoringState :=
  let desired := e.desiredState value quality
  match e.config with
  | some c =>
    if c.latchingEnabled ∧ (e.state = .alarmLow ∨ e.state = .alarmHigh) ∧ desired = .normal then
      e.state
    else desired
  | none => desired

/-- SOURCE: alarm_engine.cpp:25 -/
def await (e : AlarmEngine) (desired : MonitoringState) (now : UInt32) : AlarmEngine :=
  if !e.pendingActive ∨ e.pending ≠ desired then
    { e with pending := desired, pendingSince := now, pendingActive := true }
  else e

/-- SOURCE: alarm_engine.cpp:20-30 -/
def evaluate (e : AlarmEngine) (value : Single) (quality : MeasurementQuality) (now : UInt32) :
    Option (AlarmTransition × AlarmEngine) :=
  let desired := e.latchedState value quality
  if desired = e.state then
    some (⟨false, e.state, e.state, now, value⟩, { e with pendingActive := false })
  else
    let e := e.await desired now
    match e.config with
    | none => none
    | some c =>
      if !NodeTelemetry.elapsedSince now e.pendingSince (c.persistence desired) then
        some (⟨false, e.state, e.state, now, value⟩, e)
      else
        some (⟨true, e.state, desired, now, value⟩,
          { e with state := desired, pendingActive := false })

end AlarmEngine

end SeedMg24.Model
