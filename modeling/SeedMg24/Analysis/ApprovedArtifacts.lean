import SeedMg24.Analysis.InstallerApprovals

/-!
# Artifacts that a developer approves

The addresses of an approval are written in capital hexadecimal digits and read back by `int` when
the package is validated.  So an artifact that is approved can be installed, nothing else can in its
place, and the other packages are as before.
-/

set_option autoImplicit false

namespace SeedMg24.Analysis

open Foundation SeedMg24.Model

namespace ApprovedArtifacts

open Installer InstallerApprovals

/-! ## Addresses -/

/-- The digits that follow a number. -/
theorem intDigits_map_digitUpper (digits : List ℕ) (hdigits : ∀ digit ∈ digits, digit < 16)
    (n : ℕ) : intDigits n (digits.map HexNumbers.digitUpper) =
      some (HexNumbers.valueFrom n digits) := by
  induction digits generalizing n with
  | nil => rfl
  | cons digit digits ih =>
    have hdigit := hdigits digit List.mem_cons_self
    have hothers := ih (fun other hother => hdigits other (List.mem_cons_of_mem digit hother))
      (16 * n + digit)
    have hne := HexNumbers.digitUpper_ne_underscore hdigit
    have hread := HexNumbers.hexDigit_digitUpper hdigit
    rw [List.map_cons]
    generalize HexNumbers.digitUpper digit = c at hne hread
    have hcons (rest : Text) :
        intDigits n (c :: rest) = (Json.hexDigit c).bind fun d => intDigits (16 * n + d) rest :=
      intDigits.eq_3 n c rest fun _ _ hmark _ => hne hmark
    rw [hcons, hread]
    exact hothers

/-- **An address that is written is read back.** -/
theorem parseInt16_hexAddress (n : ℕ) : parseInt16 (hexAddress n) = some (n : ℤ) := by
  obtain ⟨first, others, hdigits⟩ := List.exists_cons_of_length_pos
    (show 0 < (HexNumbers.paddedDigits 8 n).length from
      lt_of_lt_of_le (by decide) (HexNumbers.length_paddedDigits 8 n))
  have hlt (digit : ℕ) (hdigit : digit ∈ first :: others) : digit < 16 :=
    HexNumbers.lt_of_mem_paddedDigits (hdigits ▸ hdigit)
  have hfirst := hlt first List.mem_cons_self
  have hvalue := HexNumbers.valueFrom_paddedDigits 8 n
  rw [hdigits] at hvalue
  have haddress : hexAddress n =
      '0' :: 'x' :: HexNumbers.digitUpper first :: others.map HexNumbers.digitUpper := by
    change "0x".toList ++ HexNumbers.padded 8 n = _
    rw [HexNumbers.padded_eq_map, hdigits]
    rfl
  have hspace (c : Char) (hc : c ∈ hexAddress n) : Text.isSpaceUnicode c = false := by
    rw [haddress, List.mem_cons, List.mem_cons, ← List.map_cons] at hc
    rcases hc with rfl | rfl | hc
    · rfl
    · rfl
    · obtain ⟨digit, hdigit, rfl⟩ := List.mem_map.mp hc
      exact HexNumbers.isSpaceUnicode_digitUpper (hlt digit hdigit)
  have hstrip : Text.strip (hexAddress n) = hexAddress n := by
    unfold Text.strip
    rw [List.dropWhile_eq_self_iff.mpr, List.rdropWhile_eq_self_iff.mpr]
    · intro hne
      rw [hspace _ (List.getLast_mem hne)]
      exact Bool.false_ne_true
    · intro hlength
      rw [hspace _ (List.getElem_mem hlength)]
      exact Bool.false_ne_true
  have hothers : intDigits first (others.map HexNumbers.digitUpper) = some n := by
    rw [intDigits_map_digitUpper others fun digit hdigit =>
      hlt digit (List.mem_cons_of_mem first hdigit)]
    refine congrArg some (Eq.trans ?_ hvalue)
    change _ = HexNumbers.valueFrom (16 * 0 + first) others
    rw [Nat.mul_zero, Nat.zero_add]
  have hunderscore : (HexNumbers.digitUpper first :: others.map HexNumbers.digitUpper).head? ≠
      some '_' := by
    rw [List.head?_cons]
    exact fun h => HexNumbers.digitUpper_ne_underscore hfirst (Option.some.inj h)
  have hsigned (rest : Text) : Json.signed ('0' :: 'x' :: rest) = (false, '0' :: 'x' :: rest) := rfl
  have hstarts (rest : Text) : "0x".toList.isPrefixOf ('0' :: 'x' :: rest) = true := by
    simp [List.isPrefixOf]
  unfold parseInt16
  rw [hstrip, haddress, hsigned]
  dsimp only
  rw [hstarts, Bool.true_or, if_pos rfl, List.drop_succ_cons, List.drop_succ_cons, List.drop_zero,
    Bool.true_and, if_neg (by rw [decide_eq_true_eq]; exact hunderscore)]
  dsimp only
  rw [HexNumbers.hexDigit_digitUpper hfirst]
  simp [hothers]

/-! ## The range of an image -/

/-- A range is not empty by more than one byte. -/
theorem le_of_mem_hexRanges {number base : ℕ} {lines : List Text} {ranges : List (ℤ × ℤ)}
    (h : hexRanges number base lines = .ok ranges) {range : ℤ × ℤ} (hrange : range ∈ ranges) :
    range.1 ≤ range.2 + 1 := by
  induction lines generalizing number base ranges with
  | nil =>
    cases h
    exact absurd hrange List.not_mem_nil
  | cons line lines ih =>
    unfold hexRanges at h
    split at h
    · cases h
    dsimp only at h
    split at h
    · cases hothers : hexRanges (number + 1) base lines with
      | error => rw [hothers] at h; cases h
      | ok others =>
        rw [hothers] at h
        cases h
        rcases List.mem_cons.mp hrange with rfl | hrest
        · dsimp only
          omega
        · exact ih hothers hrest
    split at h
    · exact ih h hrange
    split at h
    · cases h
    · exact ih h hrange

/-- The end of an image is not before its start by more than one byte. -/
theorem le_of_inspectIntelHex {text : Text} {first last total : ℤ}
    (h : inspectIntelHex text = .ok (first, last, total)) : first ≤ last + 1 := by
  unfold inspectIntelHex at h
  cases hranges : hexRanges 1 0 (splitLines text) with
  | error => rw [hranges] at h; cases h
  | ok ranges =>
    rw [hranges] at h
    cases ranges with
    | nil => cases h
    | cons range others =>
      cases h
      have hrange := le_of_mem_hexRanges hranges List.mem_cons_self
      have hfirst := (foldl_min_le_iff Prod.fst others range.1 range.1).mpr (.inl le_rfl)
      have hlast := (le_foldl_max_iff Prod.snd others range.2 range.2).mpr (.inl le_rfl)
      linarith

/-! ## Catalogs after an approval -/

variable {S : Settings} {catalog : FirmwareCatalog} {packageId : Text} {item : FirmwarePackage}
  {approval : DeveloperApproval}

/-- The catalog that an approval leaves behind. -/
def approving (catalog : FirmwareCatalog) (packageId : Text) (approval : DeveloperApproval) :
    FirmwareCatalog :=
  { catalog with developerApprovals := (packageId, approval) :: catalog.developerApprovals }

theorem approveDevelopment_fst (henabled : S.developerApprovalEnabled = true)
    (hitem : catalog.packages.lookup packageId = some item)
    (happroval : approvalOf item (catalog.artifact item.artifactPath) = .ok approval) :
    (approveDevelopment S catalog packageId).1 = approving catalog packageId approval := by
  unfold approveDevelopment
  rw [henabled, Bool.not_true, if_neg Bool.false_ne_true, hitem]
  dsimp only
  rw [happroval]
  rfl

theorem expected_approving :
    (approving catalog packageId approval).expected packageId item = approval := by
  unfold approving FirmwareCatalog.expected
  rw [List.lookup_cons_self, Option.getD_some]

/-- Another package is as before. -/
theorem validate_approving_of_ne {other : Text} (hother : other ≠ packageId) :
    (approving catalog packageId approval).validate digestUpper other =
      catalog.validate digestUpper other := by
  have hexpected (item : FirmwarePackage) :
      (approving catalog packageId approval).expected other item = catalog.expected other item := by
    unfold approving FirmwareCatalog.expected
    rw [List.lookup_cons, beq_false_of_ne hother]
  unfold FirmwareCatalog.validate
  simp only [hexpected]
  rfl

/-- **The range of an approval is that of the image.** -/
theorem checkRange_approval {first last total : ℤ} {text : Text} {low : ℕ} {high size : ℤ}
    {digest : Text} (hinspect : inspectIntelHex text = .ok (first, last, total))
    (hlow : int16 item.bootloaderEnd = .ok (low : ℤ)) (hhigh : int16 item.nvm3Start = .ok high)
    (hfirst : low < first) (hlast : last < high) :
    checkRange item ⟨size, digest, hexAddress first, hexAddress last⟩ first last = .ok () := by
  have hle := le_of_inspectIntelHex hinspect
  have hread {n : ℤ} (hn : 0 ≤ n) : int16 (hexAddress n) = .ok n := by
    obtain ⟨m, rfl⟩ := Int.eq_ofNat_of_zero_le hn
    unfold int16
    rw [parseInt16_hexAddress]
  unfold checkRange
  dsimp only
  rw [hread (by omega), hread (by omega), hlow, hhigh]
  change (if first ≠ first then _ else if last ≠ last then _ else if first ≤ (low : ℤ) then _
    else if last ≥ high then _ else _) = _
  rw [if_neg (not_not.mpr rfl), if_neg (not_not.mpr rfl), if_neg (not_le.mpr hfirst),
    if_neg (not_le.mpr hlast)]

end ApprovedArtifacts

open Installer InstallerApprovals ApprovedArtifacts

/-- **What a developer approves can be installed, and nothing else in its place.**  Once the
artifact of an installable package is approved, the package is validated as long as the artifact
stays as it is; whatever the files become, it is validated only for bytes with the size and the
digest that were approved; and every other package is validated as before. -/
theorem approved_artifact_validates {S : Settings} {catalog : FirmwareCatalog} {packageId : Text}
    {item : FirmwarePackage} {approval : DeveloperApproval} (bootloaderEnd : ℕ)
    (henabled : S.developerApprovalEnabled = true)
    (hitem : catalog.packages.lookup packageId = some item) (hinstallable : IsInstallable item)
    (hbootloader : parseInt16 item.bootloaderEnd = some (bootloaderEnd : ℤ))
    (happroval : approvalOf item (catalog.artifact item.artifactPath) = .ok approval) :
    let after := (approveDevelopment S catalog packageId).1
    (∃ image, after.validate digestUpper packageId = .ok (item, image)) ∧
      ∀ artifact : Text → FirmwareArtifact,
        (∀ found image, { after with artifact := artifact }.validate digestUpper packageId =
          .ok (found, image) → ∃ data, image = Text.ofBytes data ∧
            (data.length : ℤ) = approval.artifactSize ∧ digestUpper data = approval.sha256) ∧
        ∀ other, other ≠ packageId →
          { after with artifact := artifact }.validate digestUpper other =
            { catalog with artifact := artifact }.validate digestUpper other := by
  intro after
  have hafter : after = approving catalog packageId approval :=
    approveDevelopment_fst henabled hitem happroval
  rw [hafter]
  obtain ⟨data, first, last, total, low, high, hinside, hname, hcontent, hascii, hinspect, hlow,
    hhigh, hfirst, hlast, happroved⟩ := approvalOf_eq_ok happroval
  have hlowEq : low = bootloaderEnd := Option.some.inj ((int16_eq_ok hlow).symm.trans hbootloader)
  subst hlowEq
  have hcapitals : approval.sha256.map Char.toUpper = approval.sha256 := by
    rw [happroved]
    exact map_toUpper_digestUpper data
  refine ⟨⟨Text.ofBytes data, ?_⟩, fun artifact => ⟨fun found image hvalid => ?_,
    @validate_approving_of_ne { catalog with artifact := artifact } packageId approval⟩⟩
  · have hchecked : IsChecked item ((approving catalog packageId approval).expected packageId item)
        ((approving catalog packageId approval).artifact item.artifactPath) data first last
        total := by
      rw [expected_approving]
      refine ⟨hinside, hname, hcontent, ?_, ?_, hascii, hinspect, ?_⟩
      · rw [happroved]
      · rw [hcapitals, happroved]
      · rw [happroved]
        exact checkRange_approval hinspect hlow hhigh hfirst hlast
    exact @validate_of_checked (approving catalog packageId approval) packageId item hitem
      hinstallable data first last total hchecked
  · obtain ⟨-, -, bytes, _, _, _, himage, hchecked⟩ := checked_of_validate hvalid
    have hexpected : FirmwareCatalog.expected
        { approving catalog packageId approval with artifact := artifact } packageId found =
        approval :=
      @expected_approving { catalog with artifact := artifact } packageId found approval
    have hsize := hchecked.size
    have hdigest := hchecked.digest
    rw [hexpected] at hsize hdigest
    rw [hcapitals] at hdigest
    exact ⟨bytes, himage, hsize, hdigest⟩

namespace ApprovedArtifacts

/-- A gateway on which developers may approve firmware. -/
def developerSettings : Settings :=
  { developerApprovalEnabled := true, directory := id, sketch := [], hostname := fun _ => none }

/-- A package whose manifest has no digest. -/
def unapproved : FirmwarePackage := examplePackage exampleImage []

end ApprovedArtifacts

/-- The image of one byte behind the bootloader is approved and validated. -/
theorem approved_artifact_validates_exampleImage :
    ∃ image, (approveDevelopment developerSettings (exampleCatalog exampleImage [])
      "p".toList).1.validate digestUpper "p".toList = .ok (unapproved, image) := by
  have hinspect : inspectIntelHex (Text.ofBytes (Text.toBytes exampleImage)) =
      .ok (0x08006000, 0x08006000, 1) := by decide +kernel
  have hinstallable : IsInstallable unapproved := ⟨rfl, rfl, rfl, by decide, rfl⟩
  have happroval : approvalOf unapproved
      ((exampleCatalog exampleImage []).artifact unapproved.artifactPath) =
        .ok ⟨(Text.toBytes exampleImage).length, digestUpper (Text.toBytes exampleImage),
          hexAddress 0x08006000, hexAddress 0x08006000⟩ := by
    unfold approvalOf
    rw [if_neg (by decide), if_neg (by decide)]
    have hcontent : ((exampleCatalog exampleImage []).artifact unapproved.artifactPath).content =
        .ok (Text.toBytes exampleImage) := rfl
    rw [hcontent]
    dsimp only
    rw [if_neg (by decide +kernel), hinspect]
    rfl
  exact (approved_artifact_validates 0x08005FFF rfl rfl hinstallable
    (by decide +kernel) happroval).1

end SeedMg24.Analysis
