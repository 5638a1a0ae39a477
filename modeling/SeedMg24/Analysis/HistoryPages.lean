import SeedMg24.Foundation.KeysetPages
import SeedMg24.Model.ReadingHistory

/-!
# Following the pages of the history

The cursor behind a reading is read as the moment and the id of that reading, whatever offset the
database returned its time with.  So a page is made of the readings behind the last one of the page
before, and following the cursors fetches every reading that matches once.
-/

set_option autoImplicit false

namespace SeedMg24.Analysis

open Foundation SeedMg24.Model.ReadingHistory

namespace HistoryPages

/-! ## Cursors -/

theorem isAscii_of_isDigit {c : Char} (h : c.isDigit = true) : c.toNat < 128 := by
  have hplain := Text.isPlain_of_isDigit h
  simp only [Text.isPlain, decide_eq_true_eq] at hplain
  omega

theorem isAscii_padded {width n : ℕ} : ∀ c ∈ padded width n, c.toNat < 128 :=
  fun _ hc => isAscii_of_isDigit (isDigit_of_mem_padded hc)

theorem isAscii_fractionText (microsecond : ℕ) : ∀ c ∈ fractionText microsecond, c.toNat < 128 := by
  unfold fractionText
  split
  · rw [List.forall_mem_cons]
    exact ⟨by decide, isAscii_padded⟩
  · simp

theorem isAscii_offsetText (offset : ℤ) : ∀ c ∈ offsetText offset, c.toNat < 128 := by
  unfold offsetText
  dsimp only
  rw [List.forall_mem_cons, List.forall_mem_append, List.forall_mem_cons, List.forall_mem_append]
  refine ⟨by split <;> decide, isAscii_padded, by decide, isAscii_padded, ?_⟩
  split
  · rw [List.forall_mem_cons, List.forall_mem_append]
    exact ⟨by decide, isAscii_padded, isAscii_fractionText _⟩
  · simp

/-- The text of a time is ASCII. -/
theorem isAscii_isoformat (d : DateFields) : ∀ c ∈ d.isoformat, c.toNat < 128 := by
  have hoffset : ∀ c ∈ (d.offset.map offsetText).getD [], c.toNat < 128 := by
    cases d.offset with
    | none => simp
    | some offset => exact isAscii_offsetText offset
  unfold DateFields.isoformat
  simp only [List.forall_mem_append, List.forall_mem_cons]
  exact ⟨isAscii_padded, by decide, isAscii_padded, by decide, isAscii_padded, by decide,
    isAscii_padded, by decide, isAscii_padded, by decide, isAscii_padded, isAscii_fractionText _, hoffset⟩

/-- A text is split where the character occurs for the last time. -/
theorem rsplitOnce_append {c : Char} {left right : Text} (h : c ∉ right) :
    rsplitOnce c (left ++ c :: right) = some (left, right) := by
  have hmem : c ∈ left ++ c :: right := by simp
  have hright : ∀ d ∈ right.reverse, decide (d ≠ c) = true := by
    intro d hd
    rw [decide_eq_true_iff]
    rintro rfl
    exact h (List.mem_reverse.mp hd)
  have hstop : (c :: left.reverse).takeWhile (· ≠ c) = [] ∧
      (c :: left.reverse).dropWhile (· ≠ c) = c :: left.reverse :=
    ⟨List.takeWhile_cons_of_neg (by simp), List.dropWhile_cons_of_neg (by simp)⟩
  have hreverse : (left ++ c :: right).reverse = right.reverse ++ c :: left.reverse := by simp
  have htake : (left ++ c :: right).rtakeWhile (· ≠ c) = right := by
    rw [List.rtakeWhile, hreverse, List.takeWhile_append_of_pos hright, hstop.1,
      List.append_nil, List.reverse_reverse]
  have hdrop : (left ++ c :: right).rdropWhile (· ≠ c) = left ++ [c] := by
    rw [List.rdropWhile, hreverse, List.dropWhile_append_of_pos hright, hstop.2,
      List.reverse_cons, List.reverse_reverse]
  rw [rsplitOnce, if_pos hmem, htake, hdrop, List.dropLast_concat]

theorem isSpaceUnicode_of_isPlain {c : Char} (h : Text.isPlain c = true) :
    Text.isSpaceUnicode c = false := by
  simp only [Text.isPlain, decide_eq_true_eq] at h
  simp [Text.isSpaceUnicode]
  omega

/-- Digits have no space around them. -/
theorem strip_digits {s : Text} (h : ∀ c ∈ s, c.isDigit = true) : s.strip = s := by
  have hspace : ∀ c ∈ s, ¬ Text.isSpaceUnicode c = true := fun c hc => by
    simp [isSpaceUnicode_of_isPlain (Text.isPlain_of_isDigit (h c hc))]
  have hfirst : s.dropWhile Text.isSpaceUnicode = s :=
    List.dropWhile_eq_self_iff.mpr fun hl => hspace _ (List.getElem_mem hl)
  rw [Text.strip, hfirst, List.rdropWhile_eq_self_iff]
  exact fun hne => hspace _ (List.getLast_mem hne)

/-- The text of a number is read as it. -/
theorem int_decimal (n : ℕ) : int (Text.decimal n) = some (n : ℤ) := by
  have hdigit : ∀ c ∈ Text.decimal n, c.isDigit = true := fun c hc => Text.isDigit_of_mem_decimal hc
  have hne (c : Char) (hc : c.isDigit = false) : ∀ d ∈ Text.decimal n, d ≠ c := by
    rintro d hd rfl
    rw [hdigit d hd] at hc
    cases hc
  have hparts : (Text.decimal n).splitOn '_' = [Text.decimal n] :=
    List.splitOnP_eq_singleton fun c hc => beq_eq_false_iff_ne.mpr (hne '_' (by decide) c hc)
  have hfilter : (Text.decimal n).filter (· ≠ '_') = Text.decimal n :=
    List.filter_eq_self.mpr fun c hc => decide_eq_true (hne '_' (by decide) c hc)
  have hdigits : groupedDigits (Text.decimal n) = some n := by
    rw [groupedDigits, hparts, hfilter, Text.digitsValue_decimal, if_pos]
    simpa using ⟨Text.decimal_ne_nil n, hdigit⟩
  rw [int, strip_digits hdigit]
  cases htext : Text.decimal n with
  | nil => exact absurd htext (Text.decimal_ne_nil n)
  | cons c s =>
    have hmem : c ∈ Text.decimal n := htext ▸ List.mem_cons_self
    dsimp only
    rw [if_neg (hne '-' (by decide) c hmem), if_neg (hne '+' (by decide) c hmem), ← htext, hdigits]
    rfl

/-- **A cursor is read as the moment and the id it was written for.** -/
theorem parseCursor_cursorOf {d : DateTime} (h : isMoment d.instant) (id : ℕ) :
    parseCursor (cursorOf d id) = .ok (d.instant, id) := by
  have hascii : ∀ c ∈ d.fields.isoformat ++ '|' :: Text.decimal id, c.toNat < 128 := by
    rw [List.forall_mem_append, List.forall_mem_cons]
    exact ⟨isAscii_isoformat _, by decide, fun c hc => isAscii_of_isDigit (Text.isDigit_of_mem_decimal hc)⟩
  have hdecoded : (Base64.decode (cursorOf d id)).bind Text.decodeUtf8 =
      some (d.fields.isoformat ++ '|' :: Text.decimal id) := by
    rw [cursorOf, Base64.decode_encode, Option.bind_some, Text.decodeUtf8_toBytes hascii]
  have hbar : '|' ∉ Text.decimal id := fun hbar => by
    have := Text.isDigit_of_mem_decimal hbar
    revert this
    decide
  unfold parseCursor
  dsimp only
  rw [hdecoded]
  dsimp only
  rw [rsplitOnce_append hbar]
  dsimp only
  rw [fromisoformat_isoformat]
  dsimp only
  rw [utc, if_pos h]
  dsimp only
  rw [int_decimal]

/-- A cursor is no longer than a request may send. -/
theorem length_cursorOf_le (d : DateTime) {id : ℕ} (h : id < 2 ^ 63) :
    (cursorOf d id).length ≤ 256 := by
  have hid := Text.length_decimal_le (k := 19) (by decide) (n := id) (by omega)
  have htime := length_isoformat_le d.fields
  rw [cursorOf, Base64.length_encode, Text.length_toBytes, List.length_append, List.length_cons]
  omega

theorem cursorOf_ne_nil (d : DateTime) (id : ℕ) : cursorOf d id ≠ [] := by
  intro h
  have hlength := congrArg List.length h
  rw [cursorOf, Base64.length_encode, Text.length_toBytes, List.length_append, List.length_cons,
    List.length_nil] at hlength
  omega

/-! ## The order of the readings -/

instance : Std.Total newestFirst where
  total a b := by
    unfold newestFirst
    omega

instance : IsTrans Reading newestFirst where
  trans a b c := by
    unfold newestFirst
    omega

/-- A reading stands before another one: it is newer, or of the same moment with a larger id. -/
def isBefore (a b : Reading) : Prop :=
  b.receivedAt < a.receivedAt ∨ (b.receivedAt = a.receivedAt ∧ b.id < a.id)

instance : DecidableRel isBefore := fun _ _ => inferInstanceAs (Decidable (_ ∨ _))

/-- The readings that match, the newest first. -/
def matching (readings : Readings) (registeredDeviceId : ℕ) (filters : HistoryFilters) : List Reading :=
  (readings.rows.filter (filters.selects registeredDeviceId)).insertionSort newestFirst

section Readings

variable (readings : Readings) (registeredDeviceId : ℕ) (filters : HistoryFilters)

theorem mem_matching {r : Reading} : r ∈ matching readings registeredDeviceId filters ↔
    r ∈ readings.rows ∧ filters.selects registeredDeviceId r = true := by
  rw [matching, List.mem_insertionSort, List.mem_filter]

/-- No two readings that match stand in the order both ways. -/
theorem pairwise_matching : (matching readings registeredDeviceId filters).Pairwise isBefore := by
  have hsorted := List.pairwise_insertionSort newestFirst
    (readings.rows.filter (filters.selects registeredDeviceId))
  have hdistinct : (matching readings registeredDeviceId filters).Pairwise fun a b => a.id ≠ b.id := by
    have hrows : readings.rows.Pairwise fun a b => a.id ≠ b.id := List.pairwise_map.mp readings.distinct
    exact (hrows.sublist List.filter_sublist).perm (List.perm_insertionSort _ _).symm fun h => Ne.symm h
  refine (hsorted.and hdistinct).imp ?_
  rintro a b ⟨hle, hne⟩
  unfold newestFirst at hle
  unfold isBefore
  omega

theorem newestFirst_antisymm : ∀ a ∈ readings.rows, ∀ b ∈ readings.rows, newestFirst a b →
    newestFirst b a → a = b := by
  intro a ha b hb hab hba
  unfold newestFirst at hab hba
  exact readings.eq_of_key_eq ha hb (by omega)

/-- What the query reads behind a reading, or from the beginning. -/
theorem queryHistory_items (limit : ℕ) (before : Option (ℤ × ℤ)) (includeTotal : Bool) :
    (queryHistory readings registeredDeviceId 0 limit filters before includeTotal).1 =
      ((matching readings registeredDeviceId filters).filter fun r =>
        before.all fun before => isBehind before r).take limit := by
  have hfilter : (readings.rows.filter fun r =>
      filters.selects registeredDeviceId r && before.all fun before => isBehind before r) =
      (readings.rows.filter (filters.selects registeredDeviceId)).filter fun r =>
        before.all fun before => isBehind before r := by
    rw [List.filter_filter]
    simp only [Bool.and_comm]
  have hanti := newestFirst_antisymm readings
  rw [queryHistory, List.drop_zero, hfilter, matching, Keyset.filter_insertionSort]
  intro a ha b hb
  exact hanti a (List.mem_filter.mp ha).1 b (List.mem_filter.mp hb).1

/-- Behind a reading that matches come the ones after it. -/
theorem filter_isBehind {front left : List Reading} {a : Reading}
    (h : matching readings registeredDeviceId filters = front ++ [a] ++ left) :
    (matching readings registeredDeviceId filters).filter (isBehind (a.receivedAt, a.id)) = left := by
  have hpairwise := pairwise_matching readings registeredDeviceId filters
  have hbehind : isBehind (a.receivedAt, a.id) = fun b => decide (isBefore a b) := by
    funext b
    rw [Bool.eq_iff_iff, decide_eq_true_iff]
    simp [isBehind, isBefore]
  rw [h] at hpairwise
  rw [hbehind, h]
  refine Keyset.filter_behind ?_ ?_ hpairwise
  · unfold isBefore
    omega
  · unfold isBefore
    omega

end Readings

/-! ## Pages -/

/-- The readings of an answer and its next cursor. -/
def answer (page : Except Failure ReadingPage) : Except Failure (List Reading × Option Text) :=
  page.map fun page => (page.items, page.nextCursor)

/-- A cursor was written for a reading, with a time of its moment. -/
def IsCursorOf (r : Reading) (cursor : Text) : Prop :=
  ∃ d : DateTime, d.instant = r.receivedAt ∧ cursor = cursorOf d r.id

/-- Readings are those that match, each once, and the newest first. -/
structure IsComplete (readings : Readings) (registeredDeviceId : ℕ) (filters : HistoryFilters)
    (items : List Reading) : Prop where
  ordered : items.Pairwise isBefore
  once : items.Nodup
  mem_iff : ∀ r, r ∈ items ↔ r ∈ readings.rows ∧ filters.selects registeredDeviceId r = true

theorem isComplete_matching (readings : Readings) (registeredDeviceId : ℕ) (filters : HistoryFilters) :
    IsComplete readings registeredDeviceId filters (matching readings registeredDeviceId filters) where
  ordered := pairwise_matching readings registeredDeviceId filters
  once := (pairwise_matching readings registeredDeviceId filters).imp fun {a b} h hab => by
    subst hab
    unfold isBefore at h
    omega
  mem_iff _ := mem_matching readings registeredDeviceId filters

/-- Following the cursors comes to an end, in one way, and has fetched every reading that matches. -/
def FetchesAll (readings : Readings) (registeredDeviceId : ℕ) (filters : HistoryFilters)
    (fetch : ℕ → Option Text → Except Failure (List Reading × Option Text)) : Prop :=
  ∃ pages, Keyset.Walk fetch 0 none pages ∧
    (∀ others, Keyset.Walk fetch 0 none others → others = pages) ∧
    IsComplete readings registeredDeviceId filters pages.flatten

theorem fetchesAll_of_fetches {readings : Readings} {registeredDeviceId : ℕ}
    {filters : HistoryFilters} {limit : ℕ} (hlimit : 1 ≤ limit)
    {fetch : ℕ → Option Text → Except Failure (List Reading × Option Text)}
    (h : Keyset.Fetches IsCursorOf limit (matching readings registeredDeviceId filters) fetch) :
    FetchesAll readings registeredDeviceId filters fetch := by
  obtain ⟨pages, hwalk, hpages⟩ := Keyset.exists_walk_start hlimit h 0
  refine ⟨pages, hwalk, fun others hothers => hothers.unique hwalk, ?_⟩
  rw [hpages]
  exact isComplete_matching readings registeredDeviceId filters

section Fetching

variable {devices : List RegisteredDevice} {readings : Readings} {receivedAt : ℕ → Reading → DateTime}
  {deviceId : Text} {registered : RegisteredDevice}

/-- The page behind a moment with an id. -/
theorem historyPage_of_parses (db : Database) (hdevice : device db.devices deviceId = .ok registered)
    (limit : ℕ) (filters : HistoryFilters) (includeTotal : Bool) {cursor : Option Text}
    {before : Option (ℤ × ℤ)} (hcursor : (cursor = none ∧ before = none) ∨
      ∃ c b, cursor = some c ∧ c ≠ [] ∧ before = some b ∧ parseCursor c = .ok b) :
    let items := (queryHistory db.readings registered.id 0 limit filters before includeTotal).1
    answer (historyPage db deviceId 0 limit filters cursor includeTotal) = .ok (items,
      if items.length = limit then items.getLast?.map fun last => cursorOf (db.receivedAt last) last.id
      else none) := by
  intro items
  rcases hcursor with ⟨rfl, rfl⟩ | ⟨c, b, rfl, hne, rfl, hparse⟩
  · unfold historyPage
    rw [hdevice]
    rfl
  · unfold historyPage
    cases c with
    | nil => exact absurd rfl hne
    | cons head c =>
      dsimp only
      rw [hparse, hdevice]
      rfl

/-- Every request behind some readings that match is answered with the next ones. -/
theorem fetches_historyPage
    (hreceived : ∀ n, ∀ r ∈ readings.rows, (receivedAt n r).instant = r.receivedAt)
    (hdevice : device devices deviceId = .ok registered) (filters : HistoryFilters) (limit : ℕ)
    (includeTotal : Bool) :
    Keyset.Fetches IsCursorOf limit (matching readings registered.id filters) fun n cursor =>
      answer (historyPage ⟨devices, readings, receivedAt n⟩ deviceId 0 limit filters cursor
        includeTotal) := by
  intro n cursor fetched left hsplit hmarks
  have hitems : ∃ before : Option (ℤ × ℤ), ((cursor = none ∧ before = none) ∨
      ∃ c b, cursor = some c ∧ c ≠ [] ∧ before = some b ∧ parseCursor c = .ok b) ∧
      (queryHistory readings registered.id 0 limit filters before includeTotal).1 =
        left.take limit := by
    cases hmarks with
    | start =>
      refine ⟨none, .inl ⟨rfl, rfl⟩, ?_⟩
      rw [queryHistory_items, hsplit]
      simp
    | @after front a c hmark =>
      obtain ⟨d, hd, rfl⟩ := hmark
      refine ⟨some (a.receivedAt, a.id), .inr ⟨_, _, rfl, cursorOf_ne_nil d a.id, rfl, ?_⟩, ?_⟩
      · rw [parseCursor_cursorOf (by rw [hd]; exact a.isMoment_receivedAt), hd]
      · rw [queryHistory_items]
        simp only [Option.all_some]
        rw [filter_isBehind readings registered.id filters hsplit]
  obtain ⟨before, hcursor, hitems⟩ := hitems
  have hpage := historyPage_of_parses ⟨devices, readings, receivedAt n⟩ hdevice limit filters
    includeTotal hcursor
  dsimp only at hpage
  rw [hitems] at hpage
  refine ⟨_, hpage, ?_⟩
  by_cases hfull : (left.take limit).length = limit
  · rw [if_pos hfull, if_pos hfull]
    cases hlast : left.take limit using List.reverseRecOn with
    | nil => exact .start
    | append_singleton front a =>
      have hmem : a ∈ matching readings registered.id filters := by
        rw [hsplit]
        refine List.mem_append_right fetched (List.mem_of_mem_take (i := limit) ?_)
        rw [hlast]
        simp
      rw [List.getLast?_concat]
      exact .after ⟨receivedAt n a, hreceived n a ((mem_matching _ _ _).mp hmem).1, rfl⟩
  · rw [if_neg hfull, if_neg hfull]

/-- The filters of a request with a range. -/
def filtersOf (request : HistoryRequest) (range : ℤ × ℤ) : HistoryFilters :=
  ⟨some range.1, some range.2, request.channel, request.installationId, request.interfaceId⟩

/-- A request that passes the checks of the endpoint is answered with its page. -/
theorem history_eq_historyPage {settings : HistorySettings} (db : Database) {now : DateTime}
    {request : HistoryRequest} {range : ℤ × ℤ} (hvalid : request.isValid = true)
    (hlimit : request.limit ≤ settings.historyPageSizeMax)
    (hrange : historyRange settings now request.startAt request.endAt = .ok range)
    {cursor : Option Text} (hcursor : cursor.all (·.length ≤ 256) = true) :
    history settings db now { request with cursor := cursor } =
      historyPage db request.deviceId request.offset request.limit (filtersOf request range) cursor
        request.includeTotal := by
  have hvalid' : ({ request with cursor := cursor } : HistoryRequest).isValid = true := by
    simp only [HistoryRequest.isValid, Bool.and_eq_true] at hvalid ⊢
    exact ⟨hvalid.1, hcursor⟩
  unfold history
  rw [hvalid', hrange]
  dsimp only
  rw [if_neg (by decide), if_neg (Nat.not_lt.mpr hlimit)]
  rfl

/-- The endpoint answers as its pages do, for the cursors that it has written. -/
theorem fetches_history
    (hreceived : ∀ n, ∀ r ∈ readings.rows, (receivedAt n r).instant = r.receivedAt)
    {settings : HistorySettings} {now : ℕ → DateTime} {request : HistoryRequest} {range : ℤ × ℤ}
    (hdevice : device devices request.deviceId = .ok registered) (hvalid : request.isValid = true)
    (hoffset : request.offset = 0) (hlimit : request.limit ≤ settings.historyPageSizeMax)
    (hrange : ∀ n, historyRange settings (now n) request.startAt request.endAt = .ok range) :
    Keyset.Fetches IsCursorOf request.limit (matching readings registered.id (filtersOf request range))
      fun n cursor => answer (history settings ⟨devices, readings, receivedAt n⟩ (now n)
        { request with cursor := cursor }) := by
  intro n cursor fetched left hsplit hmarks
  have hlength : cursor.all (·.length ≤ 256) = true := by
    cases hmarks with
    | start => rfl
    | @after front a c hmark =>
      obtain ⟨d, -, rfl⟩ := hmark
      simpa using length_cursorOf_le d a.id_lt
  dsimp only
  rw [history_eq_historyPage _ hvalid hlimit (hrange n) hlength, hoffset]
  exact fetches_historyPage hreceived hdevice _ _ _ n cursor fetched left hsplit hmarks

end Fetching

/-- **The pages of the history are complete**: for a device that is registered, following the
cursors from the beginning fetches every reading that matches once and comes to an end, for the
pages of a checked range and for the requests that the endpoint accepts. -/
theorem pages_complete (devices : List RegisteredDevice) (readings : Readings)
    (receivedAt : ℕ → Reading → DateTime)
    (hreceived : ∀ n, ∀ r ∈ readings.rows, (receivedAt n r).instant = r.receivedAt)
    (deviceId : Text) (registered : RegisteredDevice) (hdevice : device devices deviceId = .ok registered) :
    (∀ (filters : HistoryFilters) (limit : ℕ) (includeTotal : Bool), 1 ≤ limit →
      FetchesAll readings registered.id filters fun n cursor =>
        answer (historyPage ⟨devices, readings, receivedAt n⟩ deviceId 0 limit filters cursor
          includeTotal)) ∧
    ∀ (settings : HistorySettings) (now : ℕ → DateTime) (request : HistoryRequest) (range : ℤ × ℤ),
      request.deviceId = deviceId → request.isValid = true → request.offset = 0 →
      request.limit ≤ settings.historyPageSizeMax →
      (∀ n, historyRange settings (now n) request.startAt request.endAt = .ok range) →
      FetchesAll readings registered.id (filtersOf request range) fun n cursor =>
        answer (history settings ⟨devices, readings, receivedAt n⟩ (now n)
          { request with cursor := cursor }) := by
  constructor
  · intro filters limit includeTotal hlimit
    exact fetchesAll_of_fetches hlimit (fetches_historyPage hreceived hdevice filters limit includeTotal)
  · intro settings now request range hid hvalid hoffset hlimit hrange
    subst hid
    have hone : 1 ≤ request.limit := by
      simp only [HistoryRequest.isValid, Bool.and_eq_true, decide_eq_true_eq] at hvalid
      exact hvalid.1.1.1.1
    exact fetchesAll_of_fetches hone
      (fetches_history hreceived hdevice hvalid hoffset hlimit hrange)

/-- Two readings of one moment, and a newer one. -/
def threeReadings : Readings where
  rows := [⟨1, 7, 0, "analog_0".toList, none, none, by decide, by decide⟩,
    ⟨2, 7, 1, "analog_0".toList, none, none, by decide, by decide⟩,
    ⟨3, 7, 0, "battery".toList, none, none, by decide, by decide⟩]
  distinct := by decide

/-- The first two microseconds of the calendar, with an offset from the second request on. -/
def firstTimes (n : ℕ) (r : Reading) : DateTime :=
  if n = 0 then
    if r.receivedAt = 0 then ⟨⟨1, 1, 1, 0, 0, 0, 0, none⟩, by decide⟩
    else ⟨⟨1, 1, 1, 0, 0, 0, 1, none⟩, by decide⟩
  else
    if r.receivedAt = 0 then ⟨⟨1, 1, 1, 1, 0, 0, 0, some 3600000000⟩, by decide⟩
    else ⟨⟨1, 1, 1, 1, 0, 0, 1, some 3600000000⟩, by decide⟩

theorem pages_complete_threeReadings :
    (FetchesAll threeReadings 7 ⟨none, none, none, none, none⟩ fun n cursor =>
      answer (historyPage ⟨[⟨7, "ARM2001-01".toList, false⟩], threeReadings, firstTimes n⟩
        "ARM2001-01".toList 0 1 ⟨none, none, none, none, none⟩ cursor true)) ∧
    FetchesAll threeReadings 7 ⟨some 0, some 1, none, none, none⟩ fun n cursor =>
      answer (history ⟨500, 31⟩ ⟨[⟨7, "ARM2001-01".toList, false⟩], threeReadings, firstTimes n⟩
        ⟨⟨2026, 7, 1, 9, 5, 0, 0, none⟩, by decide⟩
        ⟨"ARM2001-01".toList, 0, 1, some ⟨⟨1, 1, 1, 0, 0, 0, 0, none⟩, by decide⟩,
          some ⟨⟨1, 1, 1, 0, 0, 0, 1, none⟩, by decide⟩, none, none, none, cursor, true⟩) := by
  have hreceived : ∀ n, ∀ r ∈ threeReadings.rows, (firstTimes n r).instant = r.receivedAt := by
    intro n r hr
    simp only [threeReadings, List.mem_cons, List.not_mem_nil, or_false] at hr
    unfold firstTimes
    split <;> rcases hr with rfl | rfl | rfl <;> decide +kernel
  obtain ⟨hpages, hrequests⟩ := pages_complete [⟨7, "ARM2001-01".toList, false⟩] threeReadings
    firstTimes hreceived "ARM2001-01".toList ⟨7, "ARM2001-01".toList, false⟩ rfl
  refine ⟨hpages _ 1 true le_rfl, ?_⟩
  exact hrequests ⟨500, 31⟩ (fun _ => ⟨⟨2026, 7, 1, 9, 5, 0, 0, none⟩, by decide⟩)
    ⟨"ARM2001-01".toList, 0, 1, some ⟨⟨1, 1, 1, 0, 0, 0, 0, none⟩, by decide⟩,
      some ⟨⟨1, 1, 1, 0, 0, 0, 1, none⟩, by decide⟩, none, none, none, none, true⟩ (0, 1) rfl
    (by decide) rfl (by decide) fun _ => by decide +kernel

end HistoryPages

end SeedMg24.Analysis
