import Mathlib.Data.Char
import Mathlib.Data.List.Lex
import SeedMg24.Foundation.Base64
import SeedMg24.Foundation.FirstOccurrences
import SeedMg24.Foundation.IsoTimes
import SeedMg24.Foundation.Rows

/-!
# The history of readings

`latest` and `history` of `repositories/reading_repository.py`, and the endpoint of the history in
`api/telemetry.py`.  Moments are in microseconds, of UTC.  A row comes back with a
`received_at` that the database makes of its moment, so what it returns is a parameter.  Of the texts
of a cursor only those with ASCII digits and the time in the extended format are read.
-/

set_option autoImplicit false

namespace SeedMg24.Model

open Foundation

namespace ReadingHistory

/-! ## The table -/

/-- The first moment behind the year 9999. -/
def endOfTime : ℤ := 3652059 * dayMicroseconds

/-- Whether a moment is a `datetime` in UTC. -/
def isMoment (z : ℤ) : Prop := 0 ≤ z ∧ z < endOfTime

instance (z : ℤ) : Decidable (isMoment z) := inferInstanceAs (Decidable (_ ∧ _))

theorem isMoment_zero : isMoment 0 := by decide

/-- A row of `readings`: the columns the queries select by.
SOURCE: models.py:182-222 -/
structure Reading where
  id : ℕ
  registeredDeviceId : ℕ
  receivedAt : ℤ
  channel : Text
  installationId : Option Text
  interfaceId : Option Text
  id_lt : id < 2 ^ 63
  isMoment_receivedAt : isMoment receivedAt
deriving DecidableEq

/-- The table `readings`. -/
abbrev Readings := Rows Reading Reading.id

/-- A row of `registered_devices`.
SOURCE: models.py:17-24 -/
structure RegisteredDevice where
  id : ℕ
  deviceId : Text
  archived : Bool
deriving DecidableEq, Repr

/-! ## The repository -/

/-- `order_by(desc(received_at))`.
SOURCE: reading_repository.py:25 -/
def notOlder (a b : Reading) : Prop := b.receivedAt ≤ a.receivedAt

/-- The readings of a device. -/
def deviceReadings (readings : Readings) (registeredDeviceId : ℕ) : List Reading :=
  readings.rows.filter fun r => r.registeredDeviceId = registeredDeviceId

/-- What the query for the latest may read: readings of one moment come in any order.
SOURCE: reading_repository.py:22-27 -/
def IsTail (readings : Readings) (registeredDeviceId : ℕ) (recent : List Reading) : Prop :=
  ∃ ordered : List Reading, ordered.Perm (deviceReadings readings registeredDeviceId) ∧
    ordered.Pairwise notOlder ∧ recent = ordered.take 512

/-- What `latest` makes of the rows it has read: the first of each channel, by their channels.
SOURCE: reading_repository.py:28-31 -/
def latest (recent : List Reading) : List Reading :=
  (firstOccurrences Reading.channel recent).insertionSort fun a b => a.channel ≤ b.channel

/-- The parameters of `history`; a moment with an id is where the page before has ended.
SOURCE: reading_repository.py:33-46 -/
structure HistoryFilters where
  startAt : Option ℤ
  endAt : Option ℤ
  channel : Option Text
  installationId : Option Text
  interfaceId : Option Text
deriving DecidableEq, Repr

/-- The filters of a query, without the one for the cursor.
SOURCE: reading_repository.py:47-57 -/
def HistoryFilters.selects (filters : HistoryFilters) (registeredDeviceId : ℕ) (r : Reading) : Bool :=
  r.registeredDeviceId = registeredDeviceId &&
  filters.startAt.all (· ≤ r.receivedAt) && filters.endAt.all (r.receivedAt ≤ ·) &&
  filters.channel.all (r.channel = ·) && filters.installationId.all (r.installationId = some ·) &&
  filters.interfaceId.all (r.interfaceId = some ·)

/-- Whether a reading comes behind a moment with an id.
SOURCE: reading_repository.py:60 -/
def isBehind (before : ℤ × ℤ) (r : Reading) : Bool :=
  r.receivedAt < before.1 || (r.receivedAt = before.1 && (r.id : ℤ) < before.2)

/-- `order_by(desc(received_at), desc(id))`.
SOURCE: reading_repository.py:63 -/
def newestFirst (a b : Reading) : Prop :=
  b.receivedAt < a.receivedAt ∨ (b.receivedAt = a.receivedAt ∧ b.id ≤ a.id)

instance : DecidableRel newestFirst := fun _ _ => inferInstanceAs (Decidable (_ ∨ _))

/-- SOURCE: reading_repository.py:33-64 -/
def queryHistory (readings : Readings) (registeredDeviceId offset limit : ℕ)
    (filters : HistoryFilters) (before : Option (ℤ × ℤ)) (includeTotal : Bool) :
    List Reading × Option ℕ :=
  let rows := readings.rows.filter fun r =>
    filters.selects registeredDeviceId r && before.all fun before => isBehind before r
  let total := if includeTotal then some rows.length else none
  (((rows.insertionSort newestFirst).drop offset).take limit, total)

/-! ## Cursors -/

/-- How a request fails: a parameter is out of its bounds, an `HTTPException`, or an exception that
nobody catches. -/
inductive Failure where
  | invalidParameter
  | http (status : ℕ) (detail : Text)
  | overflowError
deriving DecidableEq, Repr

/-- The moment of a time in UTC: a time without an offset is taken as UTC, and `astimezone` raises
where the result is no `datetime`.
SOURCE: api/telemetry.py:51-52, 63 -/
def utc (d : DateTime) : Except Failure ℤ :=
  if isMoment d.instant then .ok d.instant else .error .overflowError

/-- `rsplit` at the last occurrence of a character: the two parts, if it occurs. -/
def rsplitOnce (c : Char) (s : Text) : Option (Text × Text) :=
  if c ∈ s then some ((s.rdropWhile (· ≠ c)).dropLast, s.rtakeWhile (· ≠ c)) else none

/-- The digits of a number in Python: an underscore may stand between two of them. -/
def groupedDigits (s : Text) : Option ℕ :=
  if (s.splitOn '_').all fun part => !part.isEmpty && part.all Char.isDigit then
    some (Text.digitsValue (s.filter (· ≠ '_')))
  else none

/-- Python's `int` of a text. -/
def int (s : Text) : Option ℤ :=
  match s.strip with
  | [] => none
  | c :: digits =>
    if c = '-' then (groupedDigits digits).map fun n => -(n : ℤ)
    else if c = '+' then (groupedDigits digits).map fun n => (n : ℤ)
    else (groupedDigits (c :: digits)).map fun n => (n : ℤ)

/-- The moment and the id of a cursor.
SOURCE: api/telemetry.py:58-65 -/
def parseCursor (cursor : Text) : Except Failure (ℤ × ℤ) :=
  let invalid := Except.error (Failure.http 422 "cursor is invalid".toList)
  match (Base64.decode cursor).bind Text.decodeUtf8 with
  | none => invalid
  | some decoded =>
    match rsplitOnce '|' decoded with
    | none => invalid
    | some (cursorTime, cursorId) =>
      match fromisoformat cursorTime with
      | none => invalid
      | some beforeAt =>
        match utc beforeAt with
        | .error failure => .error failure
        | .ok moment =>
          match int cursorId with
          | none => invalid
          | some id => .ok (moment, id)

/-- The cursor behind a reading that came with a time.
SOURCE: api/telemetry.py:81-82 -/
def cursorOf (receivedAt : DateTime) (id : ℕ) : Text :=
  Base64.encode (Text.toBytes (receivedAt.fields.isoformat ++ '|' :: Text.decimal id))

/-! ## The endpoints -/

/-- SOURCE: schemas.py:198-203 -/
structure ReadingPage where
  items : List Reading
  total : Option ℕ
  offset : ℕ
  limit : ℕ
  nextCursor : Option Text
deriving DecidableEq

/-- The database of the gateway, and what its readings come back with. -/
structure Database where
  devices : List RegisteredDevice
  readings : Readings
  receivedAt : Reading → DateTime

/-- SOURCE: api/telemetry.py:17-21 -/
def device (devices : List RegisteredDevice) (deviceId : Text) : Except Failure RegisteredDevice :=
  match devices.find? (·.deviceId = deviceId) with
  | none => .error (.http 404 "device not found".toList)
  | some device => if device.archived then .error (.http 404 "device not found".toList) else .ok device

/-- The endpoint of the history from the cursor on, for a range that was checked.
SOURCE: api/telemetry.py:57-83 -/
def historyPage (db : Database) (deviceId : Text) (offset limit : ℕ) (filters : HistoryFilters)
    (cursor : Option Text) (includeTotal : Bool) : Except Failure ReadingPage := do
  let before ← match cursor with
    | none => pure none
    | some [] => pure none
    | some cursor => some <$> parseCursor cursor
  let device ← device db.devices deviceId
  let (items, total) := queryHistory db.readings device.id offset limit filters before includeTotal
  let nextCursor :=
    if items.length = limit then items.getLast?.map fun last => cursorOf (db.receivedAt last) last.id
    else none
  return ⟨items, total, offset, limit, nextCursor⟩

/-- SOURCE: config.py:28-29 -/
structure HistorySettings where
  historyPageSizeMax : ℕ
  historyMaxDays : ℕ
deriving DecidableEq, Repr

/-- The parameters of a request; the two times are as they were sent.
SOURCE: api/telemetry.py:30-43 -/
structure HistoryRequest where
  deviceId : Text
  offset : ℕ
  limit : ℕ
  startAt : Option DateTime
  endAt : Option DateTime
  channel : Option Text
  installationId : Option Text
  interfaceId : Option Text
  cursor : Option Text
  includeTotal : Bool

/-- What is checked before the endpoint is called.
SOURCE: api/telemetry.py:35-42 -/
def HistoryRequest.isValid (request : HistoryRequest) : Bool :=
  1 ≤ request.limit && request.channel.all (·.length ≤ 96) &&
  request.installationId.all (·.length ≤ 64) && request.interfaceId.all (·.length ≤ 64) &&
  request.cursor.all (·.length ≤ 256)

/-- `end - timedelta(days=1)` in UTC: the time at its own offset has to stay in the calendar.
SOURCE: api/telemetry.py:50 -/
def dayBefore (d : DateTime) : Except Failure ℤ :=
  if d.instant + d.fields.offset.getD 0 < dayMicroseconds then .error .overflowError
  else if isMoment (d.instant - dayMicroseconds) then .ok (d.instant - dayMicroseconds)
  else .error .overflowError

/-- The range of a request.
SOURCE: api/telemetry.py:48-56 -/
def historyRange (settings : HistorySettings) (now : DateTime) (startAt endAt : Option DateTime) :
    Except Failure (ℤ × ℤ) := do
  let last := endAt.getD now
  let first ← match startAt with
    | some startAt => utc startAt
    | none => dayBefore last
  let last ← utc last
  if last < first then throw (.http 422 "end must not precede start".toList)
  if settings.historyMaxDays * dayMicroseconds < last - first then
    throw (.http 422 "requested history range is too large".toList)
  return (first, last)

/-- The endpoint of the history.
SOURCE: api/telemetry.py:30-83 -/
def history (settings : HistorySettings) (db : Database) (now : DateTime) (request : HistoryRequest) :
    Except Failure ReadingPage := do
  if !request.isValid then throw .invalidParameter
  if settings.historyPageSizeMax < request.limit then
    throw (.http 422 ("limit must not exceed ".toList ++ Text.decimal settings.historyPageSizeMax))
  let (first, last) ← historyRange settings now request.startAt request.endAt
  historyPage db request.deviceId request.offset request.limit
    ⟨some first, some last, request.channel, request.installationId, request.interfaceId⟩
    request.cursor request.includeTotal

end ReadingHistory

end SeedMg24.Model
