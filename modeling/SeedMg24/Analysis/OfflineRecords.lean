import SeedMg24.Foundation.Runs
import SeedMg24.Model.TelemetryBuffer

/-!
# Records in the offline buffer

Whatever is pushed into the buffer and popped off it: the records it holds and has handed out are
some of those pushed, in the order they were; no record is unaccounted for; and what a full buffer
gives up is the oldest of the lowest priority, so that pushes alone leave the highest priorities.
-/

set_option autoImplicit false

namespace SeedMg24.Analysis

open Foundation SeedMg24.Model.OfflineBuffer
open SeedMg24.Model (TELEMETRY_BUFFER_CAPACITY)

/-- The number of a record's priority. -/
def priorityRank (record : Record) : ℕ := rank record.priority

/-- A record as it is handed out. -/
def delayedRecord (record : Record) : Record := { record with delayed := true }

variable (b : TelemetryBuffer) (record : Record)

@[simp] theorem length_held : b.held.length = b.count := BoundedBuffer.length_entries _ _

/-! ## One call -/

variable {b record} in
/-- The record that a full buffer may give up. -/
theorem isLowest_lowest (hfull : b.count = TELEMETRY_BUFFER_CAPACITY) :
    BoundedBuffer.IsLowest priorityRank b.records b.count b.lowest :=
  BoundedBuffer.isLowest_lowest priorityRank b.records (by rw [hfull]; decide)

/-- A push: there is room, or the record is refused, or the first of the lowest priority is given
up for it; what is not held any more is counted.
SOURCE: telemetry_buffer.cpp:4-11 -/
theorem push_cases :
    (b.count < TELEMETRY_BUFFER_CAPACITY ∧ (b.push record).2.held = b.held ++ [record] ∧
      (b.push record).2.count = b.count + 1 ∧ (b.push record).2.droppedCount = b.droppedCount) ∨
    (b.count = TELEMETRY_BUFFER_CAPACITY ∧
      priorityRank record ≤ priorityRank (b.records b.lowest) ∧
      (b.push record).2.held = b.held ∧
      (b.push record).2.count = b.count ∧
      (b.push record).2.droppedCount = b.droppedCount + 1) ∨
    (b.count = TELEMETRY_BUFFER_CAPACITY ∧
      priorityRank (b.records b.lowest) < priorityRank record ∧
      (b.push record).2.held = b.held.eraseIdx b.lowest ++ [record] ∧
      (b.push record).2.count = b.count ∧
      (b.push record).2.droppedCount = b.droppedCount + 1) := by
  unfold TelemetryBuffer.push
  by_cases hroom : b.count < TELEMETRY_BUFFER_CAPACITY
  · left
    rw [dif_pos hroom]
    exact ⟨hroom, BoundedBuffer.entries_update b.records b.count record, rfl, rfl⟩
  · right
    have hfull : b.count = TELEMETRY_BUFFER_CAPACITY := le_antisymm b.count_le (not_lt.mp hroom)
    rw [dif_neg hroom]
    by_cases hlow : rank record.priority ≤ rank (b.records b.lowest).priority
    · left
      rw [if_pos hlow]
      exact ⟨hfull, hlow, rfl, rfl, rfl⟩
    · right
      rw [if_neg hlow]
      refine ⟨hfull, not_le.mp hlow, ?_, rfl, rfl⟩
      have hlt := (isLowest_lowest hfull).lt
      have hheld := BoundedBuffer.entries_update (b.movedDown b.lowest) (b.count - 1) record
      unfold TelemetryBuffer.movedDown at hheld
      rw [show b.count - 1 + 1 = b.count by omega, BoundedBuffer.entries_moveDown _ hlt] at hheld
      exact hheld

/-- A push is an offer to a bounded buffer. -/
theorem offer_push : BoundedBuffer.Offer priorityRank TELEMETRY_BUFFER_CAPACITY record b.held
    (b.push record).2.held := by
  obtain ⟨hroom, hheld, -⟩ | ⟨hfull, hlow, hheld, -⟩ | ⟨hfull, hlower, hheld, -⟩ :=
    push_cases b record
  · rw [hheld]
    exact .room (by rwa [length_held])
  · rw [hheld]
    exact BoundedBuffer.offer_refused hfull (isLowest_lowest hfull) hlow
  · rw [hheld]
    exact BoundedBuffer.offer_evicted hfull (isLowest_lowest hfull) hlower

/-- A pop hands the oldest record out, if there is one.
SOURCE: telemetry_buffer.cpp:12-17 -/
theorem pop_cases :
    (b.held = [] ∧ b.pop = (none, b)) ∨
    ∃ oldest rest, b.held = oldest :: rest ∧ b.pop.1 = some (delayedRecord oldest) ∧
      b.pop.2.held = rest ∧ b.pop.2.count + 1 = b.count ∧
      b.pop.2.droppedCount = b.droppedCount := by
  unfold TelemetryBuffer.pop
  by_cases hempty : b.count = 0
  · left
    rw [if_pos hempty]
    exact ⟨List.length_eq_zero_iff.mp (by rw [length_held, hempty]), rfl⟩
  · right
    rw [if_neg hempty]
    have hpos : 0 < b.count := Nat.pos_of_ne_zero hempty
    have hrest : BoundedBuffer.entries (b.movedDown 0) (b.count - 1) = b.held.eraseIdx 0 :=
      BoundedBuffer.entries_moveDown b.records hpos
    obtain ⟨n, hn⟩ : ∃ n, b.count = n + 1 := ⟨b.count - 1, by omega⟩
    have hheld : b.held = b.records 0 :: b.held.eraseIdx 0 := by
      unfold TelemetryBuffer.held BoundedBuffer.entries
      rw [hn, List.range_succ_eq_map]
      rfl
    exact ⟨b.records 0, b.held.eraseIdx 0, hheld, rfl, hrest, Nat.sub_add_cancel hpos, rfl⟩

/-! ## The records a node keeps track of -/

/-- A record without its measurement. -/
def reducedRecord (record : Record) : Model.TelemetryRecord :=
  ⟨rank record.priority, record.sequenceNumber, record.uptimeMs, record.delayed⟩

/-- The buffer as the telemetry of a node shows it. -/
def reducedBuffer (b : TelemetryBuffer) : Model.TelemetryBuffer :=
  ⟨b.held.map reducedRecord, b.droppedCount⟩

variable {b} in
theorem getElem?_held {i : ℕ} (h : i < b.count) : b.held[i]? = some (b.records i) := by
  rw [List.getElem?_eq_getElem (by rwa [length_held])]
  simp [TelemetryBuffer.held, BoundedBuffer.entries]

/-- The list has its lowest record where the array has it. -/
theorem lowest_held : Model.TelemetryBuffer.lowest (b.held.map reducedRecord) = b.lowest := by
  have hpass (step : ℕ → ℕ → ℕ) (hstep : ∀ lowest i, lowest < b.count → i < b.count →
      step lowest i = if priorityRank (b.records i) < priorityRank (b.records lowest) then i else lowest)
      (n : ℕ) (hn : n ≤ b.count) :
      (List.range n).foldl step 0 = BoundedBuffer.lowest priorityRank b.records n := by
    induction n with
    | zero => rfl
    | succ n ih =>
      have hpositive : BoundedBuffer.lowest priorityRank b.records n < b.count := by
        rcases Nat.eq_zero_or_pos n with rfl | hpos
        · exact hn
        · have hlt := (BoundedBuffer.isLowest_lowest priorityRank b.records hpos).lt
          omega
      rw [List.range_succ, List.foldl_append, ih (by omega), List.foldl_cons, List.foldl_nil,
        hstep _ _ hpositive hn]
      cases n with
      | zero => exact if_neg (lt_irrefl _)
      | succ n =>
        unfold BoundedBuffer.lowest
        rw [show n + 1 + 1 - 1 = n + 1 from rfl, List.range'_1_concat, List.foldl_append,
          Nat.add_comm 1 n]
        rfl
  unfold Model.TelemetryBuffer.lowest
  rw [List.length_map, length_held]
  refine hpass _ (fun lowest i hlowest hi => ?_) b.count (le_refl _)
  rw [List.getElem?_map, List.getElem?_map, getElem?_held hi, getElem?_held hlowest]
  rfl

/-- The array does what the list does. -/
theorem reducedBuffer_push :
    reducedBuffer (b.push record).2 = (reducedBuffer b).push (reducedRecord record) := by
  unfold Model.TelemetryBuffer.push reducedBuffer
  dsimp only
  rw [List.length_map, length_held, lowest_held]
  obtain ⟨hroom, hheld, -, hdropped⟩ | ⟨hfull, hlow, hheld, -, hdropped⟩ |
    ⟨hfull, hlower, hheld, -, hdropped⟩ := push_cases b record
  · rw [if_pos hroom, hheld, hdropped, List.map_append]
    rfl
  · rw [if_neg (by omega), List.getElem?_map, getElem?_held (isLowest_lowest hfull).lt, hheld,
      hdropped]
    exact (if_pos hlow).symm
  · rw [if_neg (by omega), List.getElem?_map, getElem?_held (isLowest_lowest hfull).lt, hheld,
      hdropped, List.map_append, List.eraseIdx_map]
    exact (if_neg (not_le.mpr hlower)).symm

theorem reducedBuffer_pop : ((b.pop.1.map reducedRecord), reducedBuffer b.pop.2) =
    (reducedBuffer b).pop := by
  unfold Model.TelemetryBuffer.pop reducedBuffer
  obtain ⟨hheld, hpop⟩ | ⟨oldest, rest, hheld, hout, hleft, -, hdropped⟩ := pop_cases b
  · rw [hpop, hheld]
    rfl
  · rw [hout, hleft, hheld, hdropped]
    rfl

/-! ## Runs -/

theorem ofNat_succ (n : ℕ) : UInt32.ofNat (n + 1) = UInt32.ofNat n + 1 := UInt32.ofNat_add n 1

/-- What calls leave of the buffer: the records handed out and held are some of those pushed, in
their order, and those missing are counted. -/
structure IsAccounted (r : BufferRun) : Prop where
  ordered : ∃ taken, r.popped = taken.map delayedRecord ∧
    (taken ++ r.buffer.held).Sublist r.pushed
  counted : UInt32.ofNat r.pushed.length =
    UInt32.ofNat r.popped.length + UInt32.ofNat r.buffer.held.length + r.buffer.droppedCount

theorem IsAccounted.push {r : BufferRun} (h : IsAccounted r) (record : Record) :
    IsAccounted (r.next (.push record)) := by
  obtain ⟨⟨taken, hpopped, hsublist⟩, hcounted⟩ := h
  constructor
  · refine ⟨taken, hpopped, ?_⟩
    have hpush := (offer_push r.buffer record).sublist
    refine (List.Sublist.append_left hpush taken).trans ?_
    rw [← List.append_assoc]
    exact hsublist.append_right [record]
  · show UInt32.ofNat (r.pushed ++ [record]).length = UInt32.ofNat r.popped.length +
      UInt32.ofNat (r.buffer.push record).2.held.length + (r.buffer.push record).2.droppedCount
    rw [length_held] at hcounted ⊢
    rw [List.length_append, List.length_singleton, ofNat_succ, hcounted]
    obtain ⟨-, -, hcount, hdropped⟩ | ⟨-, -, -, hcount, hdropped⟩ | ⟨-, -, -, hcount, hdropped⟩ :=
      push_cases r.buffer record
    · rw [hcount, hdropped, ofNat_succ]
      ac_rfl
    · rw [hcount, hdropped, UInt32.add_assoc]
    · rw [hcount, hdropped, UInt32.add_assoc]

theorem IsAccounted.pop {r : BufferRun} (h : IsAccounted r) : IsAccounted (r.next .pop) := by
  obtain ⟨⟨taken, hpopped, hsublist⟩, hcounted⟩ := h
  have hnext : r.next .pop = { r with
    buffer := r.buffer.pop.2, popped := r.popped ++ r.buffer.pop.1.toList } := rfl
  obtain ⟨-, hpop⟩ | ⟨oldest, rest, hheld, hout, hleft, hcount, hdropped⟩ := pop_cases r.buffer
  · rw [hnext, hpop, Option.toList_none, List.append_nil]
    exact ⟨⟨taken, hpopped, hsublist⟩, hcounted⟩
  · rw [hnext, hout]
    constructor
    · refine ⟨taken ++ [oldest], ?_, ?_⟩
      · rw [List.map_append, ← hpopped]
        rfl
      · rw [hheld] at hsublist
        rw [hleft, List.append_assoc]
        exact hsublist
    · show UInt32.ofNat r.pushed.length = UInt32.ofNat (r.popped ++ [delayedRecord oldest]).length +
        UInt32.ofNat r.buffer.pop.2.held.length + r.buffer.pop.2.droppedCount
      rw [hcounted, hleft, hheld, hdropped, List.length_append, List.length_singleton,
        List.length_cons, ofNat_succ, ofNat_succ]
      ac_rfl

/-- Pushes alone leave the highest priorities. -/
theorem isTop_pushes (memory : ℕ → Record) (records : List Record) :
    BoundedBuffer.IsTop TELEMETRY_BUFFER_CAPACITY (records.map priorityRank)
      ((Runs.after BufferRun.next ⟨{ records := memory }, [], []⟩
        (records.map .push)).buffer.held.map priorityRank) := by
  induction records using List.reverseRecOn with
  | nil => exact ⟨rfl, [], List.Perm.refl _, by simp⟩
  | append_singleton records record ih =>
    rw [List.map_append, List.map_append]
    show BoundedBuffer.IsTop _ (_ ++ [priorityRank record]) _
    rw [List.map_singleton, Runs.after_snoc]
    exact (offer_push _ record).isTop ih

/-- **The offline buffer keeps the right records in order.**  Whatever is pushed into it and popped
off it: the records handed out, as delayed ones, and those it holds are some of those pushed, in
their order; it holds no more than its capacity; pushes are pops, held and dropped records; a push
to a full buffer gives up the oldest of the lowest priority, which is lower than the new one's, or
refuses; a pop hands out the oldest; and pushes alone leave the highest priorities.
SOURCE: telemetry_buffer.cpp:4-17 -/
theorem telemetryBuffer_keeps (memory : ℕ → Record) (calls : List BufferCall) :
    let r := Runs.after BufferRun.next ⟨{ records := memory }, [], []⟩ calls
    (∃ taken, r.popped = taken.map delayedRecord ∧ (taken ++ r.buffer.held).Sublist r.pushed) ∧
    r.buffer.held.length ≤ TELEMETRY_BUFFER_CAPACITY ∧
    UInt32.ofNat r.pushed.length =
      UInt32.ofNat r.popped.length + UInt32.ofNat r.buffer.held.length + r.buffer.droppedCount ∧
    (∀ record, BoundedBuffer.Offer priorityRank TELEMETRY_BUFFER_CAPACITY record r.buffer.held
      (r.buffer.push record).2.held) ∧
    (r.buffer.pop.1 = r.buffer.held.head?.map delayedRecord ∧
      r.buffer.pop.2.held = r.buffer.held.tail) ∧
    ∀ records : List Record, calls = records.map .push →
      (r.buffer.held.map priorityRank).Perm
        (((records.map priorityRank).insertionSort (· ≥ ·)).take TELEMETRY_BUFFER_CAPACITY) := by
  intro r
  have haccounted : IsAccounted r := by
    apply Runs.after_invariant (I := IsAccounted)
    · exact ⟨⟨[], rfl, List.Sublist.refl _⟩, rfl⟩
    · intro r call h
      cases call with
      | push record => exact h.push record
      | pop => exact h.pop
  refine ⟨haccounted.ordered, ?_, haccounted.counted, offer_push r.buffer, ?_, ?_⟩
  · rw [length_held]
    exact r.buffer.count_le
  · obtain ⟨hheld, hpop⟩ | ⟨oldest, rest, hheld, hout, hleft, -⟩ := pop_cases r.buffer
    · rw [hpop, hheld]
      exact ⟨rfl, rfl⟩
    · rw [hout, hleft, hheld]
      exact ⟨rfl, rfl⟩
  · rintro records rfl
    exact (isTop_pushes memory records).perm_take

end SeedMg24.Analysis
