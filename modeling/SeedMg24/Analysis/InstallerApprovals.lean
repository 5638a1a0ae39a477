import SeedMg24.Analysis.FirmwareRanges
import SeedMg24.Analysis.InstallerRuns

/-!
# What is uploaded to a board

The uploader is called only for images that were read, hashed and inspected in the same step: those
of the manifest, or those a developer has approved in this run of the gateway.  And what a developer
approves can be installed afterwards.
-/

set_option autoImplicit false

namespace SeedMg24.Analysis

open Foundation SeedMg24.Model

namespace InstallerApprovals

open Installer Installer.UsbFirmwareInstaller InstallerSteps InstallerRuns

/-! ## Packages that are validated -/

/-- A package that may be installed, whatever its artifact is.
SOURCE: firmware_installation.py:106-111 -/
structure IsInstallable (item : FirmwarePackage) : Prop where
  complete : item.complete = true
  hasProvenance : item.hasProvenance = true
  applicationOnly : item.applicationOnly = true
  noBootloader : (item.artifactFilename.map Char.toLower).tails.any
    ("with_bootloader".toList.isPrefixOf ·) = false
  fqbn : item.fqbn = supportedFqbn

/-- What the artifact of a package has been checked for, with its bytes and its range. -/
structure IsChecked (item : FirmwarePackage) (expected : DeveloperApproval)
    (artifact : FirmwareArtifact) (data : List UInt8) (first last total : ℤ) : Prop where
  inside : artifact.insideRepository = true
  name : artifact.name = item.artifactFilename
  content : artifact.content = .ok data
  size : data.length = expected.artifactSize
  digest : digestUpper data = expected.sha256.map Char.toUpper
  ascii : data.any (128 ≤ ·) = false
  inspected : inspectIntelHex (Text.ofBytes data) = .ok (first, last, total)
  range : checkRange item expected first last = .ok ()

variable {catalog : FirmwareCatalog} {packageId image : Text} {item : FirmwarePackage}

/-- **A package that is validated has been checked.** -/
theorem checked_of_validate (h : catalog.validate digestUpper packageId = .ok (item, image)) :
    catalog.packages.lookup packageId = some item ∧ IsInstallable item ∧
      ∃ data first last total, image = Text.ofBytes data ∧
        IsChecked item (catalog.expected packageId item) (catalog.artifact item.artifactPath) data
          first last total := by
  unfold FirmwareCatalog.validate at h
  split at h
  · cases h
  rename_i found hitem
  dsimp only at h
  split at h
  · cases h
  rename_i hprovenance
  split at h
  · cases h
  rename_i hbootloader
  split at h
  · cases h
  rename_i hfqbn
  split at h
  · cases h
  rename_i hpath
  split at h
  · cases h
  · cases h
  rename_i data hcontent
  split at h
  · cases h
  rename_i hdigest
  split at h
  · cases h
  rename_i hascii
  split at h
  · cases h
  rename_i first last total hinspect
  split at h
  · cases h
  rename_i hcheck
  cases h
  rw [Bool.or_eq_true, not_or, Bool.not_eq_true', Bool.not_eq_true', Bool.not_eq_false,
    Bool.not_eq_false] at hprovenance
  rw [Bool.or_eq_true, not_or, Bool.not_eq_true', Bool.not_eq_false,
    Bool.not_eq_true] at hbootloader
  rw [Bool.or_eq_true, not_or, Bool.not_eq_true', Bool.not_eq_false, decide_eq_true_eq,
    not_not] at hpath
  rw [not_or, not_not, not_not] at hdigest
  exact ⟨hitem, ⟨hprovenance.1, hprovenance.2, hbootloader.1, hbootloader.2, not_not.mp hfqbn⟩,
    data, first, last, total, rfl, ⟨hpath.1, hpath.2, hcontent, hdigest.1, hdigest.2,
      Bool.not_eq_true _ ▸ hascii, hinspect, hcheck⟩⟩

/-- **A package that has been checked is validated.** -/
theorem validate_of_checked (hitem : catalog.packages.lookup packageId = some item)
    (hinstallable : IsInstallable item) {data : List UInt8} {first last total : ℤ}
    (h : IsChecked item (catalog.expected packageId item) (catalog.artifact item.artifactPath) data
      first last total) :
    catalog.validate digestUpper packageId = .ok (item, Text.ofBytes data) := by
  unfold FirmwareCatalog.validate
  rw [hitem]
  dsimp only
  rw [hinstallable.complete, hinstallable.hasProvenance, hinstallable.applicationOnly,
    hinstallable.noBootloader, h.inside, h.content]
  rw [if_neg (by simp), if_neg (by simp),
    if_neg (show ¬ item.fqbn ≠ "SiliconLabs:silabs:xiao_mg24:protocol_stack=ble_silabs".toList from
      not_not.mpr hinstallable.fqbn), if_neg (by simp [h.name])]
  dsimp only
  rw [if_neg (by rw [not_or, not_not, not_not]; exact ⟨h.size, h.digest⟩), h.ascii,
    if_neg Bool.false_ne_true, h.inspected]
  dsimp only
  rw [h.range]

/-! ## Approvals -/

/-- The digest of a byte string is in capitals. -/
theorem map_toUpper_digestUpper (data : List UInt8) :
    (digestUpper data).map Char.toUpper = digestUpper data := by
  unfold digestUpper
  rw [List.map_flatMap]
  refine congrArg (fun f => List.flatMap f (Sha256.digestBytes data)) (funext fun byte => ?_)
  have hbyte : byte.toNat < 256 := byte.toNat_lt
  rw [List.map_cons, List.map_cons, List.map_nil,
    HexNumbers.toUpper_digitUpper (Nat.div_lt_of_lt_mul hbyte),
    HexNumbers.toUpper_digitUpper (Nat.mod_lt _ (by decide))]

/-- What an artifact that is approved has been checked for. -/
theorem approvalOf_eq_ok {artifact : FirmwareArtifact} {approval : DeveloperApproval}
    (h : approvalOf item artifact = .ok approval) :
    ∃ data first last total low high, artifact.insideRepository = true ∧
      artifact.name = item.artifactFilename ∧ artifact.content = .ok data ∧
      data.any (128 ≤ ·) = false ∧ inspectIntelHex (Text.ofBytes data) = .ok (first, last, total) ∧
      int16 item.bootloaderEnd = .ok low ∧ int16 item.nvm3Start = .ok high ∧ low < first ∧
      last < high ∧
      approval = ⟨data.length, digestUpper data, hexAddress first, hexAddress last⟩ := by
  unfold approvalOf at h
  split at h
  · cases h
  split at h
  · cases h
  rename_i hpath
  split at h
  · cases h
  · cases h
  rename_i data hcontent
  split at h
  · cases h
  rename_i hascii
  split at h
  · cases h
  rename_i first last total hinspect
  rw [Bool.or_eq_true, not_or, Bool.not_eq_true', Bool.not_eq_false, decide_eq_true_eq,
    not_not] at hpath
  cases hlow : int16 item.bootloaderEnd with
  | error error => rw [hlow] at h; cases h
  | ok low =>
    rw [hlow] at h
    change (if first ≤ low then _ else _) = _ at h
    split at h
    · cases h
    rename_i hfirst
    cases hhigh : int16 item.nvm3Start with
    | error error => rw [hhigh] at h; cases h
    | ok high =>
      rw [hhigh] at h
      change (if last ≥ high then _ else _) = _ at h
      split at h
      · cases h
      rename_i hlast
      cases h
      exact ⟨data, first, last, total, low, high, hpath.1, hpath.2, hcontent,
        Bool.not_eq_true _ ▸ hascii, hinspect, rfl, rfl, not_le.mp hfirst, not_le.mp hlast, rfl⟩

/-- A developer on the host has confirmed, in this run, the artifact of a package that had this
size and this digest then. -/
def WasApproved (S : Settings) (start : UsbFirmwareInstaller) (events : List FirmwareEvent)
    (packageId : Text) (size : ℤ) (digest : Text) : Prop :=
  ∃ before request body ports item data,
    before ++ [.approve request body "APPROVE DEVELOPMENT FIRMWARE".toList ports] <+: events ∧
      requireLoopback S request = true ∧ body.packageId = packageId ∧
      start.catalog.packages.lookup packageId = some item ∧
      ((Runs.after (next S) start before).catalog.artifact item.artifactPath).content = .ok data ∧
      size = data.length ∧ digest = digestUpper data

/-- **A call of the uploader that is in order**: its command uploads the artifact of the package to
the port, the image spares the bootloader and the storage behind the application, and its bytes have
the size and the digest of the manifest, or those a developer approved. -/
def IsInOrder (S : Settings) (start : UsbFirmwareInstaller) (events : List FirmwareEvent)
    (upload : Upload) (task : UploadTask) : Prop :=
  ∃ item data executable first last total low high,
    start.catalog.packages.lookup task.operation.packageId = some item ∧ IsInstallable item ∧
      upload.command = uploadCommand S executable task.port item ∧
      upload.image = Text.ofBytes data ∧
      inspectIntelHex upload.image = .ok (first, last, total) ∧
      parseInt16 item.bootloaderEnd = some low ∧ parseInt16 item.nvm3Start = some high ∧
      low < first ∧ last < high ∧
      (((data.length : ℤ) = item.artifactSize ∧
          digestUpper data = item.sha256.map Char.toUpper) ∨
        S.developerApprovalEnabled = true ∧ WasApproved S start events task.operation.packageId
          data.length (digestUpper data))

variable {S : Settings} {start s : UsbFirmwareInstaller} {events : List FirmwareEvent}
  {e : FirmwareEvent}

theorem WasApproved.later {size : ℤ} {digest : Text}
    (h : WasApproved S start events packageId size digest) (e : FirmwareEvent) :
    WasApproved S start (events ++ [e]) packageId size digest := by
  obtain ⟨before, request, body, ports, item, data, hstarts, hrest⟩ := h
  exact ⟨before, request, body, ports, item, data, hstarts.trans (List.prefix_append events [e]),
    hrest⟩

theorem IsInOrder.later {upload : Upload} {task : UploadTask}
    (h : IsInOrder S start events upload task) (e : FirmwareEvent) :
    IsInOrder S start (events ++ [e]) upload task := by
  obtain ⟨item, data, executable, first, last, total, low, high, hitem, hinstallable, hcommand,
    himage, hinspect, hlow, hhigh, hfirst, hlast, hdigest⟩ := h
  exact ⟨item, data, executable, first, last, total, low, high, hitem, hinstallable, hcommand,
    himage, hinspect, hlow, hhigh, hfirst, hlast, hdigest.imp_right (And.imp_right (·.later e))⟩

/-- What the catalog and the calls tell about the run. -/
structure Accounts (S : Settings) (start : UsbFirmwareInstaller) (events : List FirmwareEvent)
    (s : UsbFirmwareInstaller) : Prop where
  packages : s.catalog.packages = start.catalog.packages
  approved : ∀ packageId approval, (packageId, approval) ∈ s.catalog.developerApprovals →
    S.developerApprovalEnabled = true ∧
      WasApproved S start events packageId approval.artifactSize approval.sha256 ∧
      approval.sha256.map Char.toUpper = approval.sha256
  uploads : ∀ upload ∈ s.uploads, IsAt (IsInOrder S start events upload) s.tasks upload.operation

/-- A call is in order, if the package has just been validated. -/
theorem isInOrder_of_validate (h : Accounts S start events s) {task : UploadTask}
    (hvalid : s.catalog.validate digestUpper task.operation.packageId = .ok (item, image))
    (id : ℕ) (executable : Text) :
    IsInOrder S start events ⟨id, uploadCommand S executable task.port item, image⟩ task := by
  obtain ⟨hitem, hinstallable, data, first, last, total, rfl, hchecked⟩ :=
    checked_of_validate hvalid
  obtain ⟨low, high, hlow, hhigh, hfirst, hlast⟩ := checkRange_eq_ok hchecked.range
  refine ⟨item, data, executable, first, last, total, low, high, h.packages ▸ hitem, hinstallable,
    rfl, rfl, hchecked.inspected, hlow, hhigh, hfirst, hlast, ?_⟩
  have hsize := hchecked.size
  have hdigest := hchecked.digest
  unfold FirmwareCatalog.expected at hsize hdigest
  cases hlookup : s.catalog.developerApprovals.lookup task.operation.packageId with
  | none =>
    rw [hlookup] at hsize hdigest
    exact .inl ⟨hsize, hdigest⟩
  | some approval =>
    rw [hlookup] at hsize hdigest
    rw [Option.getD_some] at hsize hdigest
    obtain ⟨before, after, hsplit, -⟩ := List.lookup_eq_some_iff.mp hlookup
    obtain ⟨henabled, happroved, hcapitals⟩ := h.approved task.operation.packageId approval
      (hsplit ▸ List.mem_append_right before List.mem_cons_self)
    rw [hcapitals] at hdigest
    rw [hsize, hdigest]
    exact .inr ⟨henabled, happroved⟩

/-- **One step.** -/
theorem Accounts.step {after : UsbFirmwareInstaller}
    (h : Accounts S start events (Runs.after (next S) start events))
    (hstep : Step S (Runs.after (next S) start events) e after) :
    Accounts S start (events ++ [e]) after := by
  have happroved (packageId : Text) (approval : DeveloperApproval)
      (hmem : (packageId, approval) ∈
        (Runs.after (next S) start events).catalog.developerApprovals) :
      S.developerApprovalEnabled = true ∧
        WasApproved S start (events ++ [e]) packageId approval.artifactSize approval.sha256 ∧
        approval.sha256.map Char.toUpper = approval.sha256 := by
    obtain ⟨henabled, hwas, hcapitals⟩ := h.approved packageId approval hmem
    exact ⟨henabled, hwas.later e, hcapitals⟩
  have huploads (upload : Upload) (hmem : upload ∈ (Runs.after (next S) start events).uploads) :
      IsAt (IsInOrder S start (events ++ [e]) upload) (Runs.after (next S) start events).tasks
        upload.operation := by
    obtain ⟨task, htask, horder⟩ := h.uploads upload hmem
    exact ⟨task, htask, horder.later e⟩
  cases hstep with
  | stays => exact ⟨h.packages, happroved, huploads⟩
  | refiles artifact => exact ⟨h.packages, happroved, huploads⟩
  | @approves request body ports item approval he hlocal henabled hitem happroval =>
    refine ⟨h.packages, fun packageId other hmem => ?_, huploads⟩
    rcases List.mem_cons.mp hmem with hnew | hold
    · cases hnew
      obtain ⟨data, first, last, total, low, high, -, -, hcontent, -, -, -, -, -, -, rfl⟩ :=
        approvalOf_eq_ok happroval
      exact ⟨henabled, ⟨events, request, body, ports, item, data, he ▸ List.prefix_refl _, hlocal,
        rfl, h.packages ▸ hitem, hcontent, rfl, rfl⟩, map_toUpper_digestUpper data⟩
    · exact happroved packageId other hold
  | starts he hlocal hport hserial =>
    refine ⟨h.packages, happroved, fun upload hmem => ?_⟩
    obtain ⟨task, htask, horder⟩ := huploads upload hmem
    exact ⟨task,
      (List.getElem?_append_left (List.getElem?_eq_some_iff.mp htask).1).trans htask, horder⟩
  | @moves id task changed lock calls htask hmove =>
    obtain ⟨-, hpackage, hport⟩ := Move.fixed hmove
    have hsame (upload : Upload) : IsInOrder S start (events ++ [e]) upload changed ↔
        IsInOrder S start (events ++ [e]) upload task := by
      unfold IsInOrder
      rw [hpackage, hport]
    refine ⟨h.packages, happroved, fun upload hmem => ?_⟩
    change IsAt _ ((Runs.after (next S) start events).tasks.set id changed) upload.operation
    rcases List.mem_append.mp hmem with hold | hnew
    · exact (isAt_set_congr htask (hsame upload) _).mpr (huploads upload hold)
    · rcases Move.calls_eq hmove with rfl | ⟨-, item, image, executable, -, hvalid, rfl⟩
      · exact absurd hnew List.not_mem_nil
      · obtain rfl := List.mem_singleton.mp hnew
        refine (isAt_set_pos htask ((hsame _).mpr ?_) id).mpr (.inr rfl)
        exact (isInOrder_of_validate h hvalid id executable).later e

/-- **A run.** -/
theorem accounts_after (S : Settings) (packages : List (Text × FirmwarePackage))
    (artifact : Text → FirmwareArtifact) (events : List FirmwareEvent) :
    Accounts S (fresh packages artifact) events
      (Runs.after (next S) (fresh packages artifact) events) := by
  induction events using List.reverseRecOn with
  | nil =>
    exact ⟨rfl, fun _ _ hmem => absurd hmem List.not_mem_nil,
      fun _ hmem => absurd hmem List.not_mem_nil⟩
  | append_singleton events e ih =>
    have hstep := ih.step (step_next S _ e)
    rwa [← Runs.after_snoc (next S)] at hstep

end InstallerApprovals

open Installer InstallerSteps InstallerRuns InstallerApprovals

end SeedMg24.Analysis
