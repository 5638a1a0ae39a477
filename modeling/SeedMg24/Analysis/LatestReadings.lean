import SeedMg24.Model.ReadingHistory

/-!
# The latest readings

The query for the latest reads the last 512 readings of a device.  For a channel with a reading among
them it finds a newest one of all that are stored, and a channel whose readings are all older than
512 others it does not find.
-/

set_option autoImplicit false

namespace SeedMg24.Analysis

open Foundation SeedMg24.Model.ReadingHistory

namespace LatestReadings

/-- Exactly one reading, and a newest one of a channel among those of a device. -/
def IsNewest (readings : Readings) (registeredDeviceId : ℕ) (channel : Text) (items : List Reading) :
    Prop :=
  ∃ r, items = [r] ∧ r ∈ deviceReadings readings registeredDeviceId ∧ r.channel = channel ∧
    ∀ x ∈ deviceReadings readings registeredDeviceId, x.channel = channel →
      x.receivedAt ≤ r.receivedAt

/-- The readings of a channel among the latest. -/
def latestOf (recent : List Reading) (channel : Text) : List Reading :=
  (latest recent).filter fun r => r.channel = channel

/-- They are the first reading of the channel that was read. -/
theorem latestOf_eq (recent : List Reading) (channel : Text) :
    latestOf recent channel = (recent.find? fun r => r.channel = channel).toList := by
  have hperm : (latestOf recent channel).Perm
      ((firstOccurrences Reading.channel recent).filter fun r => r.channel = channel) :=
    (List.perm_insertionSort _ _).filter _
  rw [filter_firstOccurrences] at hperm
  cases hfound : recent.find? fun r => r.channel = channel with
  | none =>
    rw [hfound] at hperm
    exact hperm.eq_nil
  | some r =>
    rw [hfound] at hperm
    exact List.perm_singleton.mp hperm

instance : DecidableRel notOlder := fun _ _ => inferInstanceAs (Decidable (_ ≤ _))

instance : Std.Total notOlder where
  total a b := le_total b.receivedAt a.receivedAt

instance : IsTrans Reading notOlder where
  trans _ _ _ hab hbc := le_trans hbc hab

/-- The query reads something. -/
theorem exists_isTail (readings : Readings) (registeredDeviceId : ℕ) :
    ∃ recent, IsTail readings registeredDeviceId recent :=
  ⟨_, (deviceReadings readings registeredDeviceId).insertionSort notOlder,
    List.perm_insertionSort _ _, List.pairwise_insertionSort _ _, rfl⟩

section Tails

variable {readings : Readings} {registeredDeviceId : ℕ} {ordered recent : List Reading}

/-- As many readings as stand before one in a list are as new as it. -/
theorem length_le_countP {before after : List Reading} {r : Reading}
    (h : (before ++ r :: after).Pairwise notOlder) :
    before.length + 1 ≤ (before ++ r :: after).countP fun x => r.receivedAt ≤ x.receivedAt := by
  have hbefore : ∀ x ∈ before, notOlder x r := fun x hx =>
    (List.pairwise_append.mp h).2.2 x hx r List.mem_cons_self
  have hall : before.countP (fun x => r.receivedAt ≤ x.receivedAt) = before.length :=
    List.countP_eq_length.mpr fun x hx => decide_eq_true (hbefore x hx)
  rw [List.countP_append, hall, List.countP_cons_of_pos (by simp)]
  omega

/-- The readings that are newer than one in a list stand before it. -/
theorem countP_le_length {before after : List Reading} {r : Reading}
    (h : (before ++ r :: after).Pairwise notOlder) :
    (before ++ r :: after).countP (fun x => r.receivedAt < x.receivedAt) ≤ before.length := by
  have hafter : ∀ x ∈ r :: after, ¬ r.receivedAt < x.receivedAt := by
    rw [List.forall_mem_cons]
    refine ⟨lt_irrefl _, fun x hx => not_lt.mpr ?_⟩
    exact (List.pairwise_cons.mp (List.pairwise_append.mp h).2.1).1 x hx
  have hnone : (r :: after).countP (fun x => r.receivedAt < x.receivedAt) = 0 :=
    List.countP_eq_zero.mpr fun x hx => by simpa using hafter x hx
  rw [List.countP_append, hnone]
  exact List.countP_le_length

/-- A reading is read if no more than 512 are as new as it. -/
theorem mem_take_of_countP_le (hsorted : ordered.Pairwise notOlder) {r : Reading} (hr : r ∈ ordered)
    (h : ordered.countP (fun x => r.receivedAt ≤ x.receivedAt) ≤ 512) : r ∈ ordered.take 512 := by
  obtain ⟨before, after, rfl⟩ := List.append_of_mem hr
  have hcount := length_le_countP hsorted
  rw [List.take_append, List.take_of_length_le (by omega)]
  have hleft : 0 < 512 - before.length := by omega
  obtain ⟨k, hk⟩ := Nat.exists_eq_succ_of_ne_zero hleft.ne'
  rw [hk, List.take_succ_cons]
  simp

/-- A reading is not read if 512 are newer. -/
theorem notMem_take_of_le_countP (hsorted : ordered.Pairwise notOlder) {r : Reading}
    (h : 512 ≤ ordered.countP fun x => r.receivedAt < x.receivedAt) :
    r ∉ ordered.take 512 := by
  intro hmem
  obtain ⟨before, after, hsplit⟩ := List.append_of_mem hmem
  have hordered : ordered = before ++ r :: (after ++ ordered.drop 512) := by
    rw [← List.cons_append, ← List.append_assoc, ← hsplit, List.take_append_drop]
  have hlength := congrArg List.length hsplit
  rw [List.length_take, List.length_append, List.length_cons] at hlength
  rw [hordered] at hsorted
  have hcount := countP_le_length hsorted
  rw [← hordered] at hcount
  omega

/-- The first reading of a channel that was read is a newest one of all that are stored. -/
theorem isNewest_of_find? (h : IsTail readings registeredDeviceId recent) {channel : Text} {r : Reading}
    (hfound : recent.find? (fun r => r.channel = channel) = some r) :
    IsNewest readings registeredDeviceId channel [r] := by
  obtain ⟨ordered, hperm, hsorted, rfl⟩ := h
  obtain ⟨hchannel, before, after, hsplit, hbefore⟩ := List.find?_eq_some_iff_append.mp hfound
  have hordered : ordered = before ++ r :: (after ++ ordered.drop 512) := by
    rw [← List.cons_append, ← List.append_assoc, ← hsplit, List.take_append_drop]
  refine ⟨r, rfl, ?_, of_decide_eq_true hchannel, fun x hx hsame => ?_⟩
  · rw [← hperm.mem_iff, hordered]
    simp
  · rw [← hperm.mem_iff, hordered, List.mem_append, List.mem_cons] at hx
    rw [hordered] at hsorted
    rcases hx with hx | rfl | hx
    · have hother := hbefore x hx
      simp [hsame] at hother
    · exact le_rfl
    · exact (List.pairwise_cons.mp (List.pairwise_append.mp hsorted).2.1).1 x hx

/-- A reading was read if no more than 512 of the device are as new as it. -/
theorem mem_of_countP_le (h : IsTail readings registeredDeviceId recent) {r : Reading}
    (hr : r ∈ deviceReadings readings registeredDeviceId)
    (hcount : (deviceReadings readings registeredDeviceId).countP
      (fun x => r.receivedAt ≤ x.receivedAt) ≤ 512) : r ∈ recent := by
  obtain ⟨ordered, hperm, hsorted, rfl⟩ := h
  rw [← hperm.countP_eq] at hcount
  exact mem_take_of_countP_le hsorted (hperm.mem_iff.mpr hr) hcount

/-- A reading was not read if 512 of the device are newer. -/
theorem notMem_of_le_countP (h : IsTail readings registeredDeviceId recent) {r : Reading}
    (hcount : 512 ≤ (deviceReadings readings registeredDeviceId).countP
      fun x => r.receivedAt < x.receivedAt) : r ∉ recent := by
  obtain ⟨ordered, hperm, hsorted, rfl⟩ := h
  rw [← hperm.countP_eq] at hcount
  exact notMem_take_of_le_countP hsorted hcount

end Tails

/-- **The latest reading of a channel**: for every channel with a reading among those that the query
reads there is exactly one reading, a newest one of all that are stored.  This goes for every channel
with a reading that no more than 512 readings of the device are as new as. -/
theorem latest_newest (readings : Readings) (registeredDeviceId : ℕ) (recent : List Reading)
    (h : IsTail readings registeredDeviceId recent) (channel : Text) :
    ((∃ r ∈ recent, r.channel = channel) →
      IsNewest readings registeredDeviceId channel (latestOf recent channel)) ∧
    ((∃ r ∈ deviceReadings readings registeredDeviceId, r.channel = channel ∧
        (deviceReadings readings registeredDeviceId).countP
          (fun x => r.receivedAt ≤ x.receivedAt) ≤ 512) →
      IsNewest readings registeredDeviceId channel (latestOf recent channel)) := by
  have hread : (∃ r ∈ recent, r.channel = channel) →
      IsNewest readings registeredDeviceId channel (latestOf recent channel) := by
    rintro ⟨r, hr, hchannel⟩
    have hsome : (recent.find? fun r => r.channel = channel).isSome := by
      rw [List.find?_isSome]
      exact ⟨r, hr, decide_eq_true hchannel⟩
    obtain ⟨found, hfound⟩ := Option.isSome_iff_exists.mp hsome
    rw [latestOf_eq, hfound]
    exact isNewest_of_find? h hfound
  refine ⟨hread, ?_⟩
  rintro ⟨r, hr, hchannel, hcount⟩
  exact hread ⟨r, mem_of_countP_le h hr hcount, hchannel⟩

theorem latest_newest_two :
    IsNewest ⟨[⟨1, 7, 0, "a".toList, none, none, by decide, by decide⟩,
        ⟨2, 7, 1, "a".toList, none, none, by decide, by decide⟩], by decide⟩ 7 "a".toList
      (latestOf [⟨2, 7, 1, "a".toList, none, none, by decide, by decide⟩,
        ⟨1, 7, 0, "a".toList, none, none, by decide, by decide⟩] "a".toList) :=
  (latest_newest _ 7 _ ⟨[⟨2, 7, 1, "a".toList, none, none, by decide, by decide⟩,
    ⟨1, 7, 0, "a".toList, none, none, by decide, by decide⟩], by decide, by decide, rfl⟩ _).1
      ⟨_, List.mem_cons_self, rfl⟩

/-- For every channel with a stored reading there is exactly one reading, and it is a newest one. -/
def AgreesWithHistory (readings : Readings) (registeredDeviceId : ℕ) (recent : List Reading) : Prop :=
  ∀ channel, (∃ r ∈ deviceReadings readings registeredDeviceId, r.channel = channel) →
    IsNewest readings registeredDeviceId channel (latestOf recent channel)

/-- Reading number `i` of a channel that reports often. -/
def frequentReading (i : Fin 512) : Reading :=
  ⟨i, 7, i + 1, "analog_0".toList, none, none, by omega, by
    have hendOfTime : endOfTime = 315537897600000000 := by decide
    have := i.isLt
    unfold isMoment
    omega⟩

/-- A reading of a channel that reports seldom. -/
def seldomReading : Reading :=
  ⟨512, 7, 0, "battery_voltage".toList, none, none, by decide, isMoment_zero⟩

/-- 512 readings of a channel, and an older one of another channel. -/
def crowdedReadings : Readings where
  rows := (List.finRange 512).map frequentReading ++ [seldomReading]
  distinct := by
    have hids : (List.finRange 512).map (Reading.id ∘ frequentReading) =
        (List.finRange 512).map Fin.val := rfl
    rw [List.map_append, List.map_map, hids]
    refine List.Nodup.append ((List.nodup_finRange 512).map Fin.val_injective) (by simp) ?_
    intro id hid hother
    obtain ⟨i, -, rfl⟩ := List.mem_map.mp hid
    have := i.isLt
    have hlast : (i : ℕ) = 512 := List.mem_singleton.mp hother
    omega

theorem deviceReadings_crowdedReadings : deviceReadings crowdedReadings 7 = crowdedReadings.rows := by
  refine List.filter_eq_self.mpr fun r hr => decide_eq_true ?_
  rcases List.mem_append.mp hr with hr | hr
  · obtain ⟨i, -, rfl⟩ := List.mem_map.mp hr
    rfl
  · rw [List.mem_singleton.mp hr]
    rfl

/-- The other channel has one reading, and 512 are newer. -/
theorem eq_seldomReading {r : Reading} (hr : r ∈ crowdedReadings.rows)
    (hchannel : r.channel = "battery_voltage".toList) : r = seldomReading := by
  rcases List.mem_append.mp hr with hr | hr
  · obtain ⟨i, -, rfl⟩ := List.mem_map.mp hr
    exact absurd hchannel (by decide : ¬ "analog_0".toList = "battery_voltage".toList)
  · exact List.mem_singleton.mp hr

theorem countP_crowdedReadings : 512 ≤ (deviceReadings crowdedReadings 7).countP
    fun x => seldomReading.receivedAt < x.receivedAt := by
  have hall : ((List.finRange 512).map frequentReading).countP
      (fun x => seldomReading.receivedAt < x.receivedAt) = 512 := by
    rw [List.countP_map, List.countP_eq_length.mpr, List.length_finRange]
    intro i _
    refine decide_eq_true ?_
    show (0 : ℤ) < (i : ℤ) + 1
    omega
  rw [deviceReadings_crowdedReadings, crowdedReadings, List.countP_append, hall]
  exact Nat.le_add_right 512 _

/-- A channel that reports seldom is not found, in whatever order the database reads. -/
theorem not_agreesWithHistory : (∃ recent, IsTail crowdedReadings 7 recent) ∧
    ∀ recent, IsTail crowdedReadings 7 recent → ¬ AgreesWithHistory crowdedReadings 7 recent := by
  refine ⟨exists_isTail crowdedReadings 7, fun recent h hagrees => ?_⟩
  have hseldom : seldomReading ∈ deviceReadings crowdedReadings 7 := by
    rw [deviceReadings_crowdedReadings]
    exact List.mem_append_right _ List.mem_cons_self
  obtain ⟨r, hlatest, hr, hchannel, -⟩ := hagrees "battery_voltage".toList ⟨_, hseldom, rfl⟩
  rw [deviceReadings_crowdedReadings] at hr
  rw [eq_seldomReading hr hchannel, latestOf_eq] at hlatest
  have hfound : seldomReading ∈ (recent.find? fun r => r.channel = "battery_voltage".toList).toList := by
    rw [hlatest]
    exact List.mem_cons_self
  exact notMem_of_le_countP h countP_crowdedReadings
    (List.mem_of_find?_eq_some (Option.mem_toList.mp hfound))

end LatestReadings

end SeedMg24.Analysis
