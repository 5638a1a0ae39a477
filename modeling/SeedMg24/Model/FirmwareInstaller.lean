import SeedMg24.Foundation.FairLock
import SeedMg24.Foundation.HexNumbers
import SeedMg24.Foundation.Runs
import SeedMg24.Foundation.Sha256
import SeedMg24.Model.BleProvisioning
import SeedMg24.Model.FirmwareImages

/-!
# Firmware installation

What `FirmwareImages` leaves of `services/firmware_installation.py`, the approvals of a developer,
the list of packages and the `UsbFirmwareInstaller`, with the endpoints of `api/firmware.py`.  Each
`_run` is a task that moves on when what it awaits comes about: the lock of its board, the end of
the uploader, or the time to look for the board again.  The files of the repository may change
between any two steps.
-/

set_option autoImplicit false

namespace SeedMg24.Model

open Foundation

namespace Installer

/-- What does not change while the gateway runs. -/
structure Settings where
  developerApprovalEnabled : Bool := false
  /-- the directory of an artifact -/
  directory : Text → Text
  sketch : Text
  /-- `urlsplit(url).hostname` -/
  hostname : Text → Option Text

/-- `hashlib.sha256(data).hexdigest().upper()` -/
def digestUpper (data : List UInt8) : Text :=
  (Sha256.digestBytes data).flatMap fun byte =>
    [HexNumbers.digitUpper (byte.toNat / 16), HexNumbers.digitUpper (byte.toNat % 16)]

/-- `f"0x{n:08X}"` -/
def hexAddress : ℤ → Text
  | .ofNat n => "0x".toList ++ HexNumbers.padded 8 n
  | .negSucc n => "0x-".toList ++ HexNumbers.padded 7 (n + 1)

/-- The exceptions of Python's own that `validate` lets through. -/
def isForeign (error : FirmwareValidationError) : Bool :=
  error.message = "non-hexadecimal number found in fromhex() arg".toList ||
    error.message = "invalid literal for int() with base 16".toList ||
    error.message = "'ascii' codec can't decode byte".toList

/-! ## The catalog -/

/-- SOURCE: firmware_installation.py:77, 110 -/
def supportedFqbn : Text := "SiliconLabs:silabs:xiao_mg24:protocol_stack=ble_silabs".toList

/-- What a developer who approves the artifact of a package approves.
SOURCE: firmware_installation.py:77-96 -/
def approvalOf (item : FirmwarePackage) (artifact : FirmwareArtifact) :
    Except FirmwareValidationError DeveloperApproval :=
  if !item.applicationOnly || item.fqbn ≠ supportedFqbn then
    .error { message := "firmware package is not eligible for development approval".toList }
  else if !artifact.insideRepository || artifact.name ≠ item.artifactFilename then
    .error { message := "firmware artifact path is outside the approved catalog".toList }
  else match artifact.content with
    | .error true => .error
        ⟨"development firmware artifact is missing".toList, "missing".toList⟩
    | .error false => .error
        ⟨"development firmware artifact cannot be read".toList, "unreadable".toList⟩
    | .ok data =>
      if data.any (128 ≤ ·) then .error { message := "'ascii' codec can't decode byte".toList }
      else match inspectIntelHex (Text.ofBytes data) with
        | .error error => .error error
        | .ok (first, last, _) => do
          let overlap : FirmwareValidationError :=
            { message := "development firmware overlaps a protected region".toList }
          if first ≤ (← int16 item.bootloaderEnd) then .error overlap
          else if last ≥ (← int16 item.nvm3Start) then .error overlap
          else .ok ⟨data.length, digestUpper data, hexAddress first, hexAddress last⟩

/-- A package as it is listed.
SOURCE: firmware_installation.py:54-68 -/
structure PackageRow where
  packageId : Text
  fqbn : Text
  artifactFilename : Text
  artifactSize : ℤ
  sha256 : Text
  applicationStart : Text
  applicationEnd : Text
  bootloaderEnd : Text
  nvm3Start : Text
  applicationOnly : Bool
  status : Text
  statusMessage : Text
  developerApprovalAvailable : Bool
deriving DecidableEq, Repr

/-- SOURCE: firmware_installation.py:54, 62, 65-67 -/
def packageRow (enabled : Bool) (packageId : Text) (item : FirmwarePackage)
    (shown : DeveloperApproval) (status statusMessage : Text) : PackageRow where
  packageId := packageId
  fqbn := item.fqbn
  artifactFilename := item.artifactFilename
  artifactSize := shown.artifactSize
  sha256 := shown.sha256
  applicationStart := shown.applicationStart
  applicationEnd := shown.applicationEnd
  bootloaderEnd := item.bootloaderEnd
  nvm3Start := item.nvm3Start
  applicationOnly := item.applicationOnly
  status := status
  statusMessage := statusMessage
  developerApprovalAvailable := enabled &&
    (status = "hash_mismatch".toList || status = "missing".toList || status = "unreadable".toList)

/-- SOURCE: firmware_installation.py:51-69 -/
def list (S : Settings) (catalog : FirmwareCatalog) :
    Except FirmwareValidationError (List PackageRow) :=
  catalog.packages.mapM fun (packageId, item) =>
    let row := packageRow S.developerApprovalEnabled packageId item
    let manifest : DeveloperApproval :=
      ⟨item.artifactSize, item.sha256, item.applicationStart, item.applicationEnd⟩
    match catalog.validate digestUpper packageId with
    | .error error =>
      if isForeign error then .error error else .ok (row manifest error.code error.message)
    | .ok _ => match catalog.developerApprovals.lookup packageId with
      | none => .ok (row manifest "ready".toList "Approved firmware artifact verified".toList)
      | some approval => .ok (row approval "developer_ready".toList
          "Development firmware approved for this server session".toList)

/-- SOURCE: firmware_installation.py:71-97 -/
def approveDevelopment (S : Settings) (catalog : FirmwareCatalog) (packageId : Text) :
    FirmwareCatalog × Except FirmwareValidationError (Option PackageRow) :=
  if !S.developerApprovalEnabled then
    (catalog, .error ⟨"developer firmware approval is disabled".toList, "disabled".toList⟩)
  else match catalog.packages.lookup packageId with
    | none => (catalog, .error { message := "unknown firmware package".toList })
    | some item => match approvalOf item (catalog.artifact item.artifactPath) with
      | .error error => (catalog, .error error)
      | .ok approval =>
        let catalog := { catalog with
          developerApprovals := (packageId, approval) :: catalog.developerApprovals }
        (catalog, (list S catalog).map fun rows => rows.find? (·.packageId = packageId))

/-! ## Boards -/

/-- A serial port of the host. -/
structure SerialPort where
  vid : Option ℕ
  pid : Option ℕ
  serialNumber : Option Text
  device : Text
deriving DecidableEq, Repr

/-- SOURCE: firmware_installation.py:160-163 -/
structure Board where
  hardwareSerial : Option Text
  comPort : Text
  compatiblePackages : List Text
deriving DecidableEq, Repr

/-- SOURCE: firmware_installation.py:144, 153-164 -/
def boards (S : Settings) (catalog : FirmwareCatalog) (ports : List SerialPort) :
    Except FirmwareValidationError (List Board) :=
  (list S catalog).map fun rows =>
    let compatiblePackages := (rows.filter fun row =>
      row.status = "ready".toList || row.status = "developer_ready".toList).map (·.packageId)
    (ports.filter fun port => port.vid = some 0x2886 && port.pid = some 0x0062).map fun port =>
      ⟨port.serialNumber, port.device, compatiblePackages⟩

/-! ## Operations -/

/-- SOURCE: firmware_installation.py:137, 185, 198, 203, 208 -/
inductive FirmwareState where
  | queued | uploading | reenumerating | complete | failed
deriving DecidableEq, Repr

/-- SOURCE: firmware_installation.py:132-140 -/
structure FirmwareOperation where
  hardwareSerial : Text
  packageId : Text
  state : FirmwareState := .queued
  progress : List Text := []
  error : Option Text := none
deriving DecidableEq, Repr

/-- `str.splitlines`, the line breaks outside ASCII included. -/
def printedLines (s : Text) : List Text :=
  splitLines (s.map fun c =>
    if c = '\x85' || c = '\u2028' || c = '\u2029' then '\x0b' else c)

/-- What a task waits for. -/
inductive Place where
  /-- its first step -/
  | created
  /-- the lock of its board -/
  | inLine
  /-- the end of the uploader -/
  | uploading
  /-- the time to look for the board, for so many more times -/
  | watching (left : ℕ)
  | done
deriving DecidableEq, Repr

/-- An operation, with the task that carries it out. -/
structure UploadTask where
  operation : FirmwareOperation
  port : Text
  place : Place := .created
deriving DecidableEq, Repr

/-- A call of the uploader: whose it is, its command, and the text of the image that was
validated for it. -/
structure Upload where
  operation : ℕ
  command : List Text
  image : Text
deriving DecidableEq, Repr

/-- The installer with its catalog; the id of an operation is its place in `tasks`.
SOURCE: firmware_installation.py:146-151 -/
structure UsbFirmwareInstaller where
  catalog : FirmwareCatalog
  tasks : List UploadTask := []
  /-- by the serial number of the board -/
  locks : Text → FairLock ℕ := fun _ => {}
  /-- the calls of the uploader so far -/
  uploads : List Upload := []

/-- `[A-F0-9]{8,32}` -/
def isHardwareSerial (s : Text) : Bool :=
  8 ≤ s.length && s.length ≤ 32 && s.all fun c => c.isDigit || 'A' ≤ c && c ≤ 'F'

/-- SOURCE: firmware_installation.py:166-179 -/
def start (S : Settings) (s : UsbFirmwareInstaller) (hardwareSerial packageId : Text)
    (ports : List SerialPort) : Except FirmwareValidationError (UsbFirmwareInstaller × ℕ) :=
  if !isHardwareSerial hardwareSerial then .error { message := "hardware serial is invalid".toList }
  else match s.catalog.validate digestUpper packageId with
    | .error error => .error error
    | .ok _ => match boards S s.catalog ports with
      | .error error => .error error
      | .ok boards => match boards.filter (·.hardwareSerial = some hardwareSerial) with
        | [board] =>
          if (s.locks hardwareSerial).locked then .error { message := "device is busy".toList }
          else
            let task : UploadTask :=
              { operation := { hardwareSerial := hardwareSerial, packageId := packageId }
                port := board.comPort }
            .ok ({ s with tasks := s.tasks ++ [task] }, s.tasks.length)
        | _ => .error { message := "exactly one matching supported board is required".toList }

namespace UsbFirmwareInstaller

def setTask (s : UsbFirmwareInstaller) (id : ℕ) (task : UploadTask) : UsbFirmwareInstaller :=
  { s with tasks := s.tasks.set id task }

def setLock (s : UsbFirmwareInstaller) (hardwareSerial : Text) (lock : FairLock ℕ) :
    UsbFirmwareInstaller :=
  { s with locks := Function.update s.locks hardwareSerial lock }

/-- A task ends, and the lock of its board is released. -/
def ends (s : UsbFirmwareInstaller) (id : ℕ) (task : UploadTask) : UsbFirmwareInstaller :=
  let serial := task.operation.hardwareSerial
  (s.setTask id { task with place := .done }).setLock serial (s.locks serial).release

/-- SOURCE: firmware_installation.py:207-209 -/
def fails (s : UsbFirmwareInstaller) (id : ℕ) (task : UploadTask) (message : Text) :
    UsbFirmwareInstaller :=
  s.ends id { task with operation := { task.operation with
    state := .failed, error := some (message.take 500) } }

/-- `_run` with the lock, up to the uploader; `executable` is what `which` finds.
SOURCE: firmware_installation.py:184-192 -/
def runs (S : Settings) (s : UsbFirmwareInstaller) (id : ℕ) (task : UploadTask)
    (executable : Option Text) : UsbFirmwareInstaller :=
  match s.catalog.validate digestUpper task.operation.packageId with
  | .error error => s.fails id task error.message
  | .ok (item, image) =>
    let task := { task with operation := { task.operation with
      state := .uploading, progress := task.operation.progress ++ ["package_validated".toList] } }
    if executable.getD [] = [] then s.fails id task "arduino-cli is unavailable".toList
    else
      let command := [executable.getD [], "upload".toList, "--port".toList, task.port,
        "--fqbn".toList, item.fqbn, "--input-dir".toList, S.directory item.artifactPath, S.sketch]
      { s.setTask id { task with place := .uploading } with
        uploads := s.uploads ++ [⟨id, command, image⟩] }

/-- A task arrives at the lock, or goes on once it has it.
SOURCE: firmware_installation.py:182 -/
def enters (S : Settings) (s : UsbFirmwareInstaller) (id : ℕ) (task : UploadTask)
    (executable : Option Text) : UsbFirmwareInstaller :=
  let serial := task.operation.hardwareSerial
  let lock := s.locks serial
  match task.place with
  | .created =>
    if lock.isFree then (s.setLock serial lock.acquire).runs S id task executable
    else (s.setLock serial (lock.joinLine id)).setTask id { task with place := .inLine }
  | .inLine =>
    if lock.isTurn id then (s.setLock serial lock.takeTurn).runs S id task executable else s
  | _ => s

/-- The uploader ends with its exit code and what it printed, or cannot be run.
SOURCE: firmware_installation.py:192-199 -/
def uploaded (s : UsbFirmwareInstaller) (id : ℕ) (task : UploadTask)
    (outcome : Except Text (ℤ × Text)) : UsbFirmwareInstaller :=
  match outcome with
  | .error message => s.fails id task message
  | .ok (returncode, output) =>
    let text := output.drop (output.length - 12000)
    let lines := printedLines text
    let progress := task.operation.progress ++
      (lines.drop (lines.length - 40)).map (·.take 300)
    let task := { task with operation := { task.operation with progress := progress } }
    if returncode ≠ 0 ∨ Text.strstr "Programming Finished".toList text = none then
      s.fails id task ("uploader failed with exit code ".toList ++ str returncode)
    else s.setTask id { task with
      place := .watching 30
      operation := { task.operation with
        state := .reenumerating, progress := progress ++ ["programming_verified".toList] } }

/-- One look for the board.
SOURCE: firmware_installation.py:200-206 -/
def looks (S : Settings) (s : UsbFirmwareInstaller) (id : ℕ) (task : UploadTask) (left : ℕ)
    (ports : List SerialPort) : UsbFirmwareInstaller :=
  match boards S s.catalog ports with
  | .error error => s.fails id task error.message
  | .ok boards =>
    if boards.any (·.hardwareSerial = some task.operation.hardwareSerial) then
      s.ends id { task with operation := { task.operation with
        state := .complete
        progress := task.operation.progress ++ ["same_device_reenumerated".toList] } }
    else if left ≤ 1 then
      s.fails id task "the same hardware serial did not re-enumerate".toList
    else s.setTask id { task with place := .watching (left - 1) }

end UsbFirmwareInstaller

/-! ## Endpoints -/

/-- What a request tells about where it comes from. -/
structure LocalRequest where
  clientHost : Option Text
  origin : Option Text
  urlHostname : Option Text
deriving DecidableEq, Repr

/-- SOURCE: api/firmware.py:11-17 -/
def requireLoopback (S : Settings) (request : LocalRequest) : Bool :=
  let host := request.clientHost.getD []
  let origin := request.origin.getD []
  (host = "127.0.0.1".toList || host = "::1".toList || host = "localhost".toList ||
    host = "testclient".toList) && (origin = [] || S.hostname origin = request.urlHostname)

/-- `[a-z0-9][a-z0-9._-]{1,63}` -/
def isPackageId (s : Text) : Bool :=
  let isPlain (c : Char) : Bool := c.isDigit || 'a' ≤ c && c ≤ 'z'
  (s.head?.any isPlain) && 2 ≤ s.length && s.length ≤ 64 &&
    s.all fun c => isPlain c || c = '.' || c = '_' || c = '-'

/-- SOURCE: api/firmware.py:20-22 -/
structure InstallRequest where
  hardwareSerial : Text
  packageId : Text
deriving DecidableEq, Repr

/-- SOURCE: api/firmware.py:21-22 -/
def InstallRequest.isValid (body : InstallRequest) : Bool :=
  isHardwareSerial body.hardwareSerial && isPackageId body.packageId

/-- SOURCE: api/firmware.py:41-55 -/
def developerApprove (S : Settings) (s : UsbFirmwareInstaller) (request : LocalRequest)
    (body : InstallRequest) (confirmation : Text) (ports : List SerialPort) :
    UsbFirmwareInstaller :=
  if !body.isValid || !requireLoopback S request ||
      confirmation ≠ "APPROVE DEVELOPMENT FIRMWARE".toList then s
  else match boards S s.catalog ports with
    | .error _ => s
    | .ok boards =>
      if (boards.filter (·.hardwareSerial = some body.hardwareSerial)).length ≠ 1 then s
      else { s with catalog := (approveDevelopment S s.catalog body.packageId).1 }

/-- SOURCE: api/firmware.py:58-64 -/
def install (S : Settings) (s : UsbFirmwareInstaller) (request : LocalRequest)
    (body : InstallRequest) (ports : List SerialPort) : UsbFirmwareInstaller :=
  if !body.isValid || !requireLoopback S request then s
  else match start S s body.hardwareSerial body.packageId ports with
    | .error _ => s
    | .ok (s, _) => s

/-! ## Steps -/

/-- What can happen. -/
inductive FirmwareEvent where
  | install (request : LocalRequest) (body : InstallRequest) (ports : List SerialPort)
  | approve (request : LocalRequest) (body : InstallRequest) (confirmation : Text)
      (ports : List SerialPort)
  /-- the files of the repository change -/
  | files (artifact : Text → FirmwareArtifact)
  | enters (id : ℕ) (executable : Option Text)
  | uploaded (id : ℕ) (outcome : Except Text (ℤ × Text))
  | looks (id : ℕ) (ports : List SerialPort)

/-- One step. -/
def next (S : Settings) (s : UsbFirmwareInstaller) : FirmwareEvent → UsbFirmwareInstaller
  | .install request body ports => install S s request body ports
  | .approve request body confirmation ports => developerApprove S s request body confirmation ports
  | .files artifact => { s with catalog := { s.catalog with artifact := artifact } }
  | .enters id executable => match s.tasks[id]? with
    | some task => s.enters S id task executable
    | none => s
  | .uploaded id outcome => match s.tasks[id]? with
    | some task => if task.place = .uploading then s.uploaded id task outcome else s
    | none => s
  | .looks id ports => match s.tasks[id]? with
    | some task => match task.place with
      | .watching left => s.looks S id task left ports
      | _ => s
    | none => s

end Installer

end SeedMg24.Model
