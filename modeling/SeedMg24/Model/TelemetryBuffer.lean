import SeedMg24.Foundation.BoundedBuffer
import SeedMg24.Model.NodeTelemetry
import SeedMg24.Model.TelemetryEncoder

/-!
# The offline buffer

`telemetry_buffer.cpp`: whole records in the first cells of an array, a counter of those that were
dropped, and what was pushed into the buffer and popped off it so far.
-/

set_option autoImplicit false

namespace SeedMg24.Model.OfflineBuffer

open Foundation
open TelemetryEncoder (RecordPriority)

/-- A record, with everything in it. -/
abbrev Record := TelemetryEncoder.TelemetryRecord

/-- The number of a priority.
SOURCE: sensor_types.h:11 -/
def rank : RecordPriority → ℕ
  | .routine => 0
  | .heartbeat => 1
  | .configuration => 2
  | .recovery => 3
  | .sensorFault => 4
  | .alarm => 5

/-- The buffer; of its cells the first `TELEMETRY_BUFFER_CAPACITY` are the array.
SOURCE: telemetry_buffer.h:16-18 -/
structure TelemetryBuffer where
  records : ℕ → Record
  count : ℕ := 0
  droppedCount : UInt32 := 0
  count_le : count ≤ TELEMETRY_BUFFER_CAPACITY := by decide

namespace TelemetryBuffer

/-- The records in the buffer, the oldest first. -/
def held (b : TelemetryBuffer) : List Record := BoundedBuffer.entries b.records b.count

/-- The first record of the lowest priority.
SOURCE: telemetry_buffer.cpp:6-7 -/
def lowest (b : TelemetryBuffer) : ℕ :=
  BoundedBuffer.lowest (fun record : Record => rank record.priority) b.records b.count

/-- The records behind a cell move down by one.
SOURCE: telemetry_buffer.cpp:9, 15 -/
def movedDown (b : TelemetryBuffer) (i : ℕ) : ℕ → Record :=
  BoundedBuffer.moveDown b.records i (b.count - 1 - i)

/-- SOURCE: telemetry_buffer.cpp:4-11 -/
def push (b : TelemetryBuffer) (record : Record) : Bool × TelemetryBuffer :=
  if h : b.count < TELEMETRY_BUFFER_CAPACITY then
    (true, { b with
      records := Function.update b.records b.count record
      count := b.count + 1
      count_le := h })
  else if rank record.priority ≤ rank (b.records b.lowest).priority then
    (false, { b with droppedCount := b.droppedCount + 1 })
  else
    (true, { b with
      records := Function.update (b.movedDown b.lowest) (b.count - 1) record
      droppedCount := b.droppedCount + 1 })

/-- SOURCE: telemetry_buffer.cpp:12-17 -/
def pop (b : TelemetryBuffer) : Option Record × TelemetryBuffer :=
  if b.count = 0 then (none, b)
  else
    (some { b.records 0 with delayed := true }, { b with
      records := b.movedDown 0
      count := b.count - 1
      count_le := by have := b.count_le; omega })

/-- SOURCE: telemetry_buffer.h:10 -/
def clear (b : TelemetryBuffer) : TelemetryBuffer :=
  { b with count := 0, droppedCount := 0, count_le := by decide }

end TelemetryBuffer

/-- A call of the buffer. -/
inductive BufferCall where
  | push (record : Record)
  | pop

/-- The buffer, with what was pushed into it and popped off it. -/
structure BufferRun where
  buffer : TelemetryBuffer
  pushed : List Record := []
  popped : List Record := []

/-- One call. -/
def BufferRun.next (r : BufferRun) : BufferCall → BufferRun
  | .push record => { r with buffer := (r.buffer.push record).2, pushed := r.pushed ++ [record] }
  | .pop => { r with buffer := r.buffer.pop.2, popped := r.popped ++ r.buffer.pop.1.toList }

end SeedMg24.Model.OfflineBuffer
