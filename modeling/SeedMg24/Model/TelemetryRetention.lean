import SeedMg24.Foundation.Rows

/-!
# Retention of telemetry

`TelemetryRetentionService` of `services/telemetry_retention.py` and the loop of `main.py` that
calls it.  Of the rows of the two tables only what the service selects by is kept: the id and the
time.  Times are in microseconds.
-/

set_option autoImplicit false

namespace SeedMg24.Model

open Foundation

/-- The `observed_at` of a vibration window, or the `received_at` of a reading.
SOURCE: models.py:185-239 -/
structure StampedRow where
  id : ℕ
  stamp : ℤ
deriving DecidableEq, Repr

/-- The tables `vibration_windows` and `readings`. -/
structure TelemetryTables where
  windows : Rows StampedRow StampedRow.id
  readings : Rows StampedRow StampedRow.id

/-- SOURCE: telemetry_retention.py:12-16 -/
structure TelemetryRetention where
  retentionDays : Option ℕ
  batchSize : ℕ
deriving DecidableEq, Repr

namespace TelemetryRetention

/-- A day in microseconds. -/
def day : ℤ := 24 * 60 * 60 * 1000000

/-- The moment from which on rows are kept.
SOURCE: telemetry_retention.py:21 -/
def cutoff (now : ℤ) (days : ℕ) : ℤ := now - days * day

/-- Whether a row is older than a moment. -/
def isOlder (moment : ℤ) (row : StampedRow) : Bool := row.stamp < moment

/-- One call: how many rows it has deleted, and the tables after it.
SOURCE: telemetry_retention.py:18-36 -/
def cleanupBatch (service : TelemetryRetention) (now : ℤ) (tables : TelemetryTables) :
    ℕ × TelemetryTables :=
  match service.retentionDays with
  | none => (0, tables)
  | some days =>
    let old := isOlder (cutoff now days)
    let vibrationIds := tables.windows.select old service.batchSize
    if vibrationIds ≠ [] then
      (vibrationIds.length, { tables with windows := tables.windows.delete vibrationIds })
    else
      let ids := tables.readings.select old service.batchSize
      if ids = [] then (0, tables)
      else (ids.length, { tables with readings := tables.readings.delete ids })

/-- How long the loop sleeps after a call, in seconds.
SOURCE: main.py:136 -/
def sleepSeconds (service : TelemetryRetention) (deleted : ℕ) : ℕ :=
  if deleted = service.batchSize then 5 else 21600

/-- Whether the loop takes its long sleep. -/
def sleepsLong (service : TelemetryRetention) (deleted : ℕ) : Prop :=
  service.sleepSeconds deleted = 21600

end TelemetryRetention

/-- What happens to the tables: a call of the loop, or a change by another part of the gateway,
which leaves the given tables. -/
inductive RetentionEvent where
  | cleanup (now : ℤ)
  | elsewhere (tables : TelemetryTables)

/-- One event. -/
def TelemetryRetention.next (service : TelemetryRetention) (tables : TelemetryTables) :
    RetentionEvent → TelemetryTables
  | .cleanup now => (service.cleanupBatch now tables).2
  | .elsewhere tables => tables

end SeedMg24.Model
