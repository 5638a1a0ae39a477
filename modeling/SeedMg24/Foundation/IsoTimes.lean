import SeedMg24.Foundation.Text

/-!
# Dates with times, and their ISO 8601 texts

The values of Python's `datetime` class, with an offset from UTC or without one, the text that
`isoformat` writes and the reader of such texts.  A time without an offset is taken as UTC.
-/

set_option autoImplicit false

namespace Foundation

/-! ## Values -/

/-- A year of 366 days. -/
def isLeap (year : ℕ) : Bool := year % 4 = 0 && (year % 100 ≠ 0 || year % 400 = 0)

/-- How many days a month has. -/
def daysInMonth (year month : ℕ) : ℕ :=
  if month = 2 then (if isLeap year then 29 else 28)
  else if month = 4 ∨ month = 6 ∨ month = 9 ∨ month = 11 then 30 else 31

/-- A day in microseconds. -/
def dayMicroseconds : ℕ := 24 * 60 * 60 * 1000000

/-- The fields of a date with a time; the offset is in microseconds. -/
structure DateFields where
  year : ℕ
  month : ℕ
  day : ℕ
  hour : ℕ
  minute : ℕ
  second : ℕ
  microsecond : ℕ
  offset : Option ℤ
deriving DecidableEq, Repr

/-- What the constructor of `datetime` checks. -/
def DateFields.isValid (d : DateFields) : Bool :=
  1 ≤ d.year && d.year ≤ 9999 && 1 ≤ d.month && d.month ≤ 12 && 1 ≤ d.day &&
  d.day ≤ daysInMonth d.year d.month && d.hour < 24 && d.minute < 60 && d.second < 60 &&
  d.microsecond < 1000000 && d.offset.all fun offset => offset.natAbs < dayMicroseconds

/-- A `datetime`. -/
structure DateTime where
  fields : DateFields
  valid : fields.isValid = true
deriving DecidableEq

/-- The days before a date, counted from the first of January of year 1. -/
def DateFields.daysBefore (d : DateFields) : ℕ :=
  let years := d.year - 1
  years * 365 + years / 4 - years / 100 + years / 400 +
    ((List.range (d.month - 1)).map fun month => daysInMonth d.year (month + 1)).sum + (d.day - 1)

/-- The moment a date stands for in UTC, in microseconds from the beginning of year 1. -/
def DateTime.instant (d : DateTime) : ℤ :=
  let f := d.fields
  (((f.daysBefore * 24 + f.hour) * 60 + f.minute) * 60 + f.second) * 1000000 + f.microsecond -
    f.offset.getD 0

/-! ## Texts -/

/-- A number with leading zeros. -/
def padded : ℕ → ℕ → Text
  | 0, _ => []
  | width + 1, n => padded width (n / 10) ++ [Nat.digitChar (n % 10)]

/-- Microseconds behind a point, if there are any. -/
def fractionText (microsecond : ℕ) : Text :=
  if microsecond ≠ 0 then '.' :: padded 6 microsecond else []

/-- The text of an offset: the seconds are written only if there are any. -/
def offsetText (offset : ℤ) : Text :=
  let n := offset.natAbs
  (if offset < 0 then '-' else '+') :: (padded 2 (n / 3600000000) ++ ':' ::
    (padded 2 (n / 60000000 % 60) ++
      if n / 1000000 % 60 ≠ 0 ∨ n % 1000000 ≠ 0 then
        ':' :: (padded 2 (n / 1000000 % 60) ++ fractionText (n % 1000000))
      else []))

/-- `isoformat`. -/
def DateFields.isoformat (d : DateFields) : Text :=
  padded 4 d.year ++ '-' :: (padded 2 d.month ++ '-' :: (padded 2 d.day ++ 'T' ::
    (padded 2 d.hour ++ ':' :: (padded 2 d.minute ++ ':' :: (padded 2 d.second ++
      (fractionText d.microsecond ++ (d.offset.map offsetText).getD []))))))

/-! ## The reader -/

/-- A number of so many digits, and what is left. -/
def readNumber (width : ℕ) (s : Text) : Option (ℕ × Text) :=
  let digits := s.take width
  if digits.length = width ∧ digits.all Char.isDigit then
    some (Text.digitsValue digits, s.drop width)
  else none

/-- A character that has to be there. -/
def readChar (c : Char) (s : Text) : Option Text :=
  if s.head? = some c then some s.tail else none

/-- The digits behind a point or a comma as microseconds: there is one at least, and those behind
the sixth are cut off. -/
def readFraction (s : Text) : Option (ℕ × Text) :=
  match s with
  | c :: s =>
    if c = '.' ∨ c = ',' then
      let digits := s.takeWhile Char.isDigit
      if digits = [] then none
      else some (Text.digitsValue ((digits ++ "000000".toList).take 6), s.dropWhile Char.isDigit)
    else some (0, c :: s)
  | [] => some (0, [])

/-- The time of a day: the seconds may be missing. -/
def readTime (s : Text) : Option ((ℕ × ℕ × ℕ × ℕ) × Text) := do
  let (hour, s) ← readNumber 2 s
  let s ← readChar ':' s
  let (minute, s) ← readNumber 2 s
  if s.head? = some ':' then
    let (second, s) ← readNumber 2 s.tail
    let (microsecond, s) ← readFraction s
    return ((hour, minute, second, microsecond), s)
  else return ((hour, minute, 0, 0), s)

/-- The offset of a time at the end of a text, if there is one. -/
def readOffset (s : Text) : Option (Option ℤ) :=
  match s with
  | [] => some none
  | c :: s =>
    if c = 'Z' then if s = [] then some (some 0) else none
    else if c = '+' ∨ c = '-' then
      match readTime s with
      | some ((hour, minute, second, microsecond), []) =>
        if minute < 60 ∧ second < 60 then
          let n : ℤ := ((hour * 60 + minute) * 60 + second) * 1000000 + microsecond
          some (some (if c = '-' then -n else n))
        else none
      | _ => none
    else none

/-- The fields of a text: a date, and behind one more character a time. -/
def readFields (s : Text) : Option DateFields := do
  let (year, s) ← readNumber 4 s
  let s ← readChar '-' s
  let (month, s) ← readNumber 2 s
  let s ← readChar '-' s
  let (day, s) ← readNumber 2 s
  match s with
  | [] => return ⟨year, month, day, 0, 0, 0, 0, none⟩
  | _ :: s =>
    let ((hour, minute, second, microsecond), s) ← readTime s
    let offset ← readOffset s
    return ⟨year, month, day, hour, minute, second, microsecond, offset⟩

/-- `fromisoformat` of the extended format, the one `isoformat` writes. -/
def fromisoformat (s : Text) : Option DateTime :=
  match readFields s with
  | none => none
  | some fields => if h : fields.isValid = true then some ⟨fields, h⟩ else none

/-! ## The round trip -/

theorem length_padded (width n : ℕ) : (padded width n).length = width := by
  induction width generalizing n with
  | zero => rfl
  | succ width ih => rw [padded, List.length_append, ih, List.length_singleton]

theorem digit_spec : ∀ n < 10, (Nat.digitChar n).isDigit = true ∧ (Nat.digitChar n).toNat - 48 = n := by
  decide

theorem isDigit_of_mem_padded {width n : ℕ} {c : Char} (h : c ∈ padded width n) : c.isDigit = true := by
  induction width generalizing n with
  | zero => cases h
  | succ width ih =>
    rw [padded] at h
    rcases List.mem_append.mp h with h | h
    · exact ih h
    · rw [List.mem_singleton.mp h]
      exact (digit_spec (n % 10) (Nat.mod_lt n (by decide))).1

theorem digitsValue_padded {width n : ℕ} (h : n < 10 ^ width) :
    Text.digitsValue (padded width n) = n := by
  induction width generalizing n with
  | zero =>
    rw [pow_zero] at h
    obtain rfl : n = 0 := by omega
    rfl
  | succ width ih =>
    have hlast := (digit_spec (n % 10) (Nat.mod_lt n (by decide))).2
    have htens := ih (n := n / 10) (by rw [pow_succ] at h; omega)
    rw [Text.digitsValue] at htens
    rw [padded, Text.digitsValue, List.foldl_append, htens]
    show 10 * (n / 10) + ((Nat.digitChar (n % 10)).toNat - 48) = n
    omega

/-- A number that was written is read. -/
theorem readNumber_padded {width n : ℕ} (h : n < 10 ^ width) (rest : Text) :
    readNumber width (padded width n ++ rest) = some (n, rest) := by
  have htake : (padded width n ++ rest).take width = padded width n :=
    List.take_left' (length_padded width n)
  have hdrop : (padded width n ++ rest).drop width = rest := List.drop_left' (length_padded width n)
  unfold readNumber
  dsimp only
  rw [htake, hdrop, length_padded, digitsValue_padded h, if_pos]
  exact ⟨rfl, List.all_eq_true.mpr fun c hc => isDigit_of_mem_padded hc⟩

/-- What a time does not go on with. -/
def EndsTime (rest : Text) : Prop := ∀ c ∈ rest.head?, c.isDigit = false ∧ c ≠ '.' ∧ c ≠ ',' ∧ c ≠ ':'

theorem readFraction_fractionText {microsecond : ℕ} (h : microsecond < 1000000) {rest : Text}
    (hrest : EndsTime rest) :
    readFraction (fractionText microsecond ++ rest) = some (microsecond, rest) := by
  unfold fractionText
  by_cases hzero : microsecond = 0
  · rw [if_neg (not_not.mpr hzero), List.nil_append, hzero]
    cases rest with
    | nil => rfl
    | cons c rest =>
      obtain ⟨-, hpoint, hcomma, -⟩ := hrest c rfl
      rw [readFraction, if_neg (by simp [hpoint, hcomma])]
  · rw [if_pos hzero]
    have hstop : rest.takeWhile Char.isDigit = [] ∧ rest.dropWhile Char.isDigit = rest := by
      cases rest with
      | nil => exact ⟨rfl, rfl⟩
      | cons c rest =>
        have hdigit := (hrest c rfl).1
        exact ⟨List.takeWhile_cons_of_neg (by simp [hdigit]), List.dropWhile_cons_of_neg (by simp [hdigit])⟩
    have hall : ∀ c ∈ padded 6 microsecond, c.isDigit = true := fun c hc => isDigit_of_mem_padded hc
    have htake : (padded 6 microsecond ++ rest).takeWhile Char.isDigit = padded 6 microsecond := by
      rw [List.takeWhile_append_of_pos hall, hstop.1, List.append_nil]
    have hdrop : (padded 6 microsecond ++ rest).dropWhile Char.isDigit = rest := by
      rw [List.dropWhile_append_of_pos hall, hstop.2]
    have hne : padded 6 microsecond ≠ [] := by
      intro hnil
      have hlength := length_padded 6 microsecond
      rw [hnil] at hlength
      cases hlength
    rw [List.cons_append, readFraction, if_pos (.inl rfl)]
    dsimp only
    rw [htake, hdrop, if_neg hne, List.take_left' (length_padded 6 microsecond),
      digitsValue_padded (by omega)]

theorem readTime_long {hour minute second microsecond : ℕ} (hhour : hour < 100)
    (hminute : minute < 100) (hsecond : second < 100) (hmicrosecond : microsecond < 1000000)
    {rest : Text} (hrest : EndsTime rest) :
    readTime (padded 2 hour ++ ':' :: (padded 2 minute ++ ':' :: (padded 2 second ++
      (fractionText microsecond ++ rest)))) = some ((hour, minute, second, microsecond), rest) := by
  unfold readTime
  rw [readNumber_padded (by omega)]
  show (readNumber 2 (padded 2 minute ++ _) >>= _) = _
  rw [readNumber_padded (by omega)]
  show (readNumber 2 (padded 2 second ++ _) >>= _) = _
  rw [readNumber_padded (by omega)]
  show (readFraction (fractionText microsecond ++ rest) >>= _) = _
  rw [readFraction_fractionText hmicrosecond hrest]
  rfl

theorem readTime_short {hour minute : ℕ} (hhour : hour < 100) (hminute : minute < 100) {rest : Text}
    (hrest : EndsTime rest) :
    readTime (padded 2 hour ++ ':' :: (padded 2 minute ++ rest)) =
      some ((hour, minute, 0, 0), rest) := by
  unfold readTime
  rw [readNumber_padded (by omega)]
  show (readNumber 2 (padded 2 minute ++ _) >>= _) = _
  rw [readNumber_padded (by omega)]
  have hcolon : rest.head? ≠ some ':' := fun h => (hrest ':' h).2.2.2 rfl
  show (if rest.head? = some ':' then _ else _) = _
  rw [if_neg hcolon]
  rfl

/-- The time of an offset that was written is read. -/
theorem readTime_offset {n : ℕ} (h : n < dayMicroseconds) :
    readTime (padded 2 (n / 3600000000) ++ ':' :: (padded 2 (n / 60000000 % 60) ++
      if n / 1000000 % 60 ≠ 0 ∨ n % 1000000 ≠ 0 then
        ':' :: (padded 2 (n / 1000000 % 60) ++ fractionText (n % 1000000))
      else [])) =
    some ((n / 3600000000, n / 60000000 % 60, n / 1000000 % 60, n % 1000000), []) := by
  rw [dayMicroseconds] at h
  have hend : EndsTime [] := by simp [EndsTime]
  by_cases hseconds : n / 1000000 % 60 ≠ 0 ∨ n % 1000000 ≠ 0
  · rw [if_pos hseconds]
    have hhour : n / 3600000000 < 100 := by omega
    have hminute : n / 60000000 % 60 < 100 := by omega
    have hsecond : n / 1000000 % 60 < 100 := by omega
    have hmicrosecond : n % 1000000 < 1000000 := Nat.mod_lt _ (by decide)
    have hlong := readTime_long hhour hminute hsecond hmicrosecond hend
    rwa [List.append_nil] at hlong
  · rw [if_neg hseconds]
    simp only [not_or, not_not] at hseconds
    rw [readTime_short (by omega) (by omega) hend, hseconds.1, hseconds.2]

/-- The offset of a time behind a sign. -/
theorem readOffset_of_readTime {s : Text} {hour minute second microsecond : ℕ} (hminute : minute < 60)
    (hsecond : second < 60) (h : readTime s = some ((hour, minute, second, microsecond), [])) :
    let n : ℤ := ((hour * 60 + minute) * 60 + second) * 1000000 + microsecond
    readOffset ('-' :: s) = some (some (-n)) ∧ readOffset ('+' :: s) = some (some n) := by
  intro n
  constructor
  · rw [readOffset, if_neg (by decide), if_pos (.inr rfl), h]
    dsimp only
    rw [if_pos ⟨hminute, hsecond⟩, if_pos rfl]
  · rw [readOffset, if_neg (by decide), if_pos (.inl rfl), h]
    dsimp only
    rw [if_pos ⟨hminute, hsecond⟩, if_neg (by decide)]

/-- An offset that was written is read. -/
theorem readOffset_offsetText {offset : ℤ} (h : offset.natAbs < dayMicroseconds) :
    readOffset (offsetText offset) = some (some offset) := by
  have hminute : offset.natAbs / 60000000 % 60 < 60 := Nat.mod_lt _ (by decide)
  have hsecond : offset.natAbs / 1000000 % 60 < 60 := Nat.mod_lt _ (by decide)
  obtain ⟨hminus, hplus⟩ := readOffset_of_readTime hminute hsecond (readTime_offset h)
  unfold offsetText
  dsimp only
  by_cases hneg : offset < 0
  · rw [if_pos hneg, hminus]
    congr 2
    omega
  · rw [if_neg hneg, hplus]
    congr 2
    omega

theorem endsTime_offset (offset : Option ℤ) : EndsTime ((offset.map offsetText).getD []) := by
  cases offset with
  | none => simp [EndsTime]
  | some offset =>
    intro c hc
    have hsign : c = '-' ∨ c = '+' := by
      unfold offsetText at hc
      by_cases hneg : offset < 0
      · exact .inl (by simpa [hneg] using hc.symm)
      · exact .inr (by simpa [hneg] using hc.symm)
    rcases hsign with rfl | rfl <;> decide

/-- **What `isoformat` writes is read.** -/
theorem fromisoformat_isoformat (d : DateTime) : fromisoformat d.fields.isoformat = some d := by
  obtain ⟨⟨year, month, day, hour, minute, second, microsecond, offset⟩, hvalid⟩ := d
  have hbounds := hvalid
  simp only [DateFields.isValid, Bool.and_eq_true, decide_eq_true_eq] at hbounds
  obtain ⟨⟨⟨⟨⟨⟨⟨⟨⟨⟨hyear, hyear'⟩, hmonth⟩, hmonth'⟩, hday⟩, hday'⟩, hhour⟩, hminute⟩, hsecond⟩,
    hmicrosecond⟩, hoffset⟩ := hbounds
  have hdays : daysInMonth year month ≤ 31 := by
    unfold daysInMonth
    split_ifs <;> omega
  have hread : readOffset ((offset.map offsetText).getD []) = some offset := by
    cases offset with
    | none => rfl
    | some offset => exact readOffset_offsetText (by simpa using hoffset)
  have hfields : readFields (DateFields.isoformat
      ⟨year, month, day, hour, minute, second, microsecond, offset⟩) =
      some ⟨year, month, day, hour, minute, second, microsecond, offset⟩ := by
    unfold readFields DateFields.isoformat
    dsimp only
    rw [readNumber_padded (by omega)]
    show (readNumber 2 (padded 2 month ++ _) >>= _) = _
    rw [readNumber_padded (by omega)]
    show (readNumber 2 (padded 2 day ++ _) >>= _) = _
    rw [readNumber_padded (by omega)]
    show (readTime (padded 2 hour ++ _) >>= _) = _
    rw [readTime_long (by omega) (by omega) (by omega) (by omega) (endsTime_offset offset)]
    show (readOffset ((offset.map offsetText).getD []) >>= _) = _
    rw [hread]
    rfl
  unfold fromisoformat
  rw [hfields]
  exact dif_pos hvalid

/-- How long the text is at most. -/
theorem length_isoformat_le (d : DateFields) : d.isoformat.length ≤ 42 := by
  have hfraction (n : ℕ) : (fractionText n).length ≤ 7 := by
    unfold fractionText
    split <;> simp [length_padded]
  have hoffset (offset : ℤ) : (offsetText offset).length ≤ 16 := by
    have hmicroseconds := hfraction (offset.natAbs % 1000000)
    unfold offsetText
    dsimp only
    split_ifs <;> simp only [List.length_cons, List.length_append, length_padded, List.length_nil] <;>
      omega
  have hmicroseconds := hfraction d.microsecond
  unfold DateFields.isoformat
  simp only [List.length_cons, List.length_append, length_padded]
  cases d.offset with
  | none => simp; omega
  | some offset =>
    have hlast := hoffset offset
    simp only [Option.map_some, Option.getD_some]
    omega

example : fromisoformat "2026-07-01T09:05:00.000120+05:30".toList = some
    ⟨⟨2026, 7, 1, 9, 5, 0, 120, some 19800000000⟩, by decide⟩ := by decide +kernel

end Foundation
