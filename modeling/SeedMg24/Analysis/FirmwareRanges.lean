import SeedMg24.Model.FirmwareImages

/-!
# What a validated image programs

The range `inspect_intel_hex` returns spans the flat ranges of the records: it takes no notice of
extended segment address records and of offsets that wrap around.  So it covers what the image
programs by the standard exactly when it covers the bytes these displace.
-/

set_option autoImplicit false

namespace SeedMg24.Analysis

open Foundation Foundation.IntelHex Model

/-! ## Lines -/

/-- A line that can be read has four bytes, the data and the checksum. -/
theorem readHexLine_eq_ok {number : ℕ} {line : Text} {raw : List UInt8}
    (h : readHexLine number line = .ok raw) :
    (raw.headD 0).toNat = (hexRecord raw).data.length ∧
      raw.drop 4 = (hexRecord raw).data ++ [(hexRecord raw).checksum] := by
  unfold readHexLine at h
  split at h
  · cases h
  split at h
  · cases h
  split at h
  · cases h
  rename_i hlength
  split at h
  · cases h
  rename_i hcount
  cases h
  rw [not_or, not_lt] at hlength
  rw [not_not] at hcount
  unfold hexRecord
  dsimp only
  have hne : raw ≠ [] := by
    intro hnil
    rw [hnil] at hlength
    exact absurd hlength.1 (by decide)
  have hdrop : (raw.drop 4).length = raw.length - 5 + 1 := by
    rw [List.length_drop]
    omega
  refine ⟨?_, ?_⟩
  · rw [hcount, List.length_take, hdrop]
    omega
  · have hlast : raw.getLastD 0 = (raw.drop 4).getLast (by rw [← List.length_pos_iff]; omega) := by
      rw [List.getLast_drop, List.getLastD_eq_getLast?, List.getLast?_eq_some_getLast hne,
        Option.getD_some]
    rw [hlast, show raw.length - 5 = (raw.drop 4).length - 1 by omega, ← List.dropLast_eq_take,
      List.dropLast_append_getLast]

/-- The number of a line is only told. -/
theorem toOption_readHexLine (number : ℕ) (line : Text) :
    (readHexLine number line).toOption = (readHexLine 1 line).toOption := by
  unfold readHexLine
  split
  · rfl
  split
  · rfl
  split
  · rfl
  split
  · rfl
  · rfl

/-- **The ranges the loop collects are the flat ranges of the records.** -/
theorem hexRanges_eq_ok {number base : ℕ} {lines : List Text} {ranges : List (ℤ × ℤ)}
    (h : hexRanges number base lines = .ok ranges) :
    ranges = flatRanges base (lines.filterMap fun line =>
      (readHexLine 1 line).toOption.map hexRecord) := by
  induction lines generalizing number base ranges with
  | nil =>
    cases h
    rfl
  | cons line lines ih =>
    unfold hexRanges at h
    cases hline : readHexLine number line with
    | error => rw [hline] at h; cases h
    | ok raw =>
      rw [hline] at h
      obtain ⟨hcount, hdrop⟩ := readHexLine_eq_ok hline
      have hrecord : (readHexLine 1 line).toOption.map hexRecord = some (hexRecord raw) := by
        rw [← toOption_readHexLine number, hline]
        rfl
      rw [List.filterMap_cons_some (f := fun line => (readHexLine 1 line).toOption.map hexRecord)
        hrecord]
      have hkind : (raw.getD 3 0).toNat = (hexRecord raw).kind := rfl
      have hoffset : word ((raw.drop 1).take 2) = (hexRecord raw).offset := rfl
      dsimp only at h
      rw [hcount, hdrop, hkind, hoffset] at h
      unfold flatRanges
      split at h
      · rename_i hzero
        rw [if_pos hzero]
        cases hothers : hexRanges (number + 1) base lines with
        | error => rw [hothers] at h; cases h
        | ok others =>
          rw [hothers] at h
          cases h
          rw [ih hothers]
      rename_i hzero
      rw [if_neg hzero]
      split at h
      · rename_i hfour
        rw [if_pos hfour]
        exact ih h
      rename_i hfour
      rw [if_neg hfour]
      split at h
      · cases h
      · exact ih h

/-! ## The range of an image -/

/-- The least of some numbers is at most a number exactly when one of them is. -/
theorem foldl_min_le_iff {α : Type} (f : α → ℤ) (l : List α) (m a : ℤ) :
    l.foldl (fun m r => min m (f r)) m ≤ a ↔ m ≤ a ∨ ∃ r ∈ l, f r ≤ a := by
  induction l generalizing m with
  | nil => simp
  | cons r l ih =>
    rw [List.foldl_cons, ih, min_le_iff]
    simp only [List.exists_mem_cons_iff, or_assoc]

/-- The greatest of some numbers is at least a number exactly when one of them is. -/
theorem le_foldl_max_iff {α : Type} (f : α → ℤ) (l : List α) (m a : ℤ) :
    a ≤ l.foldl (fun m r => max m (f r)) m ↔ a ≤ m ∨ ∃ r ∈ l, a ≤ f r := by
  induction l generalizing m with
  | nil => simp
  | cons r l ih =>
    rw [List.foldl_cons, ih, le_max_iff]
    simp only [List.exists_mem_cons_iff, or_assoc]

variable {text : Text} {first last total : ℤ}

/-- What is in the range is neither below nor above all the flat ranges. -/
theorem mem_range_iff (h : inspectIntelHex text = .ok (first, last, total)) (address : ℤ) :
    first ≤ address ∧ address ≤ last ↔
      (∃ r ∈ flatRanges 0 (hexRecords text), r.1 ≤ address) ∧
        ∃ r ∈ flatRanges 0 (hexRecords text), address ≤ r.2 := by
  unfold inspectIntelHex at h
  cases hranges : hexRanges 1 0 (splitLines text) with
  | error => rw [hranges] at h; cases h
  | ok ranges =>
    have hflat : ranges = flatRanges 0 (hexRecords text) := hexRanges_eq_ok hranges
    rw [hranges] at h
    cases ranges with
    | nil => cases h
    | cons range others =>
      cases h
      rw [← hflat, foldl_min_le_iff Prod.fst, le_foldl_max_iff Prod.snd]
      simp only [List.exists_mem_cons_iff]

/-! ## Packages -/

theorem int16_eq_ok {s : Text} {n : ℤ} (h : int16 s = .ok n) : parseInt16 s = some n := by
  unfold int16 at h
  cases hparse : parseInt16 s with
  | none => rw [hparse] at h; cases h
  | some m =>
    rw [hparse] at h
    cases h
    rfl

/-- The last two checks of a range. -/
theorem checkRange_eq_ok {item : FirmwarePackage} {expected : DeveloperApproval}
    (h : checkRange item expected first last = .ok ()) :
    ∃ bootloaderEnd nvm3Start, parseInt16 item.bootloaderEnd = some bootloaderEnd ∧
      parseInt16 item.nvm3Start = some nvm3Start ∧ bootloaderEnd < first ∧ last < nvm3Start := by
  unfold checkRange at h
  cases hstart : int16 expected.applicationStart with
  | error => rw [hstart] at h; cases h
  | ok applicationStart =>
    rw [hstart] at h
    change (if first ≠ applicationStart then _ else _) = _ at h
    split at h
    · cases h
    cases hend : int16 expected.applicationEnd with
    | error => rw [hend] at h; cases h
    | ok applicationEnd =>
      rw [hend] at h
      change (if last ≠ applicationEnd then _ else _) = _ at h
      split at h
      · cases h
      cases hbootloader : int16 item.bootloaderEnd with
      | error => rw [hbootloader] at h; cases h
      | ok bootloaderEnd =>
        rw [hbootloader] at h
        change (if first ≤ bootloaderEnd then _ else _) = _ at h
        split at h
        · cases h
        rename_i hfirst
        cases hnvm3 : int16 item.nvm3Start with
        | error => rw [hnvm3] at h; cases h
        | ok nvm3Start =>
          rw [hnvm3] at h
          change (if last ≥ nvm3Start then _ else _) = _ at h
          split at h
          · cases h
          rename_i hlast
          exact ⟨bootloaderEnd, nvm3Start, int16_eq_ok hbootloader, int16_eq_ok hnvm3,
            not_le.mp hfirst, not_le.mp hlast⟩

/-- What a package that is validated has been checked for. -/
theorem validate_eq_ok {catalog : FirmwareCatalog} {sha256 : List UInt8 → Text} {packageId : Text}
    {item : FirmwarePackage} (h : catalog.validate sha256 packageId = .ok (item, text)) :
    ∃ first last total bootloaderEnd nvm3Start, inspectIntelHex text = .ok (first, last, total) ∧
      parseInt16 item.bootloaderEnd = some bootloaderEnd ∧
      parseInt16 item.nvm3Start = some nvm3Start ∧ bootloaderEnd < first ∧ last < nvm3Start := by
  unfold FirmwareCatalog.validate at h
  split at h
  · cases h
  dsimp only at h
  split at h
  · cases h
  split at h
  · cases h
  split at h
  · cases h
  split at h
  · cases h
  split at h
  · cases h
  · cases h
  split at h
  · cases h
  split at h
  · cases h
  split at h
  · cases h
  rename_i first last total hinspect
  split at h
  · cases h
  rename_i hcheck
  cases h
  obtain ⟨bootloaderEnd, nvm3Start, hrange⟩ := checkRange_eq_ok hcheck
  exact ⟨first, last, total, bootloaderEnd, nvm3Start, hinspect, hrange⟩

/-- An image of one byte behind the bootloader. -/
def exampleImage : Text := ":020000040800F2\n:016000000A95\n:00000001FF\n".toList

/-- The same byte, behind an extended segment address record for segment 0. -/
def segmentImage : Text :=
  ":020000040800F2\n:020000020000FC\n:016000000A95\n:00000001FF\n".toList

/-- A package of the manifest for an image and its digest. -/
def examplePackage (image digest : Text) : FirmwarePackage where
  fqbn := "SiliconLabs:silabs:xiao_mg24:protocol_stack=ble_silabs".toList
  artifactPath := "firmware.hex".toList
  artifactFilename := "firmware.hex".toList
  artifactSize := image.length
  sha256 := digest
  applicationStart := "0x08006000".toList
  applicationEnd := "0x08006000".toList
  bootloaderEnd := "0x08005FFF".toList
  nvm3Start := "0x08174000".toList

/-- A catalog of one package. -/
def exampleCatalog (image digest : Text) : FirmwareCatalog where
  packages := [("p".toList, examplePackage image digest)]
  artifact := fun _ => { name := "firmware.hex".toList, content := .ok (Text.toBytes image) }

/-- The digest of `exampleImage`. -/
def exampleDigest : Text :=
  "257E20ACEF084B291312525DD48D9A3D2FC7EAFC397ABE289661E63E05230A8F".toList

/-- The digest of `segmentImage`. -/
def segmentDigest : Text :=
  "0A47B2C5E8EFD9A2FF6157C2437763E0DC58EE08E824B273B1B7B53BC678D5E4".toList

end SeedMg24.Analysis
