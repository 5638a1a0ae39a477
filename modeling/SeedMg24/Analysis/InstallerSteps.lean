import SeedMg24.Model.FirmwareInstaller

/-!
# The steps of the firmware installer

What one step of the installer can do: approve an artifact, accept an operation, or move one
operation on, with the lock of its board.
-/

set_option autoImplicit false

namespace SeedMg24.Analysis

open Foundation SeedMg24.Model

namespace InstallerSteps

open Installer Installer.UsbFirmwareInstaller

/-- The lock of the board of a task. -/
def lockOf (s : UsbFirmwareInstaller) (task : UploadTask) : FairLock ℕ :=
  s.locks task.operation.hardwareSerial

/-- Whether a task has the lock of its board. -/
def isRunning : Place → Bool
  | .uploading => true
  | .watching _ => true
  | _ => false

/-- How a task gets a lock. -/
inductive Granted (lock : FairLock ℕ) (id : ℕ) : Place → FairLock ℕ → Prop
  | free (hfree : lock.isFree = true) : Granted lock id .created lock.acquire
  | turn (hturn : lock.isTurn id = true) : Granted lock id .inLine lock.takeTurn

/-- The task of a call of the uploader. -/
def begun (task : UploadTask) : UploadTask :=
  { task with
    place := .uploading
    operation := { task.operation with
      state := .uploading, progress := task.operation.progress ++ ["package_validated".toList] } }

/-- A task that has failed. -/
def failed (task : UploadTask) (progress : List Text) (message : Text) : UploadTask :=
  { task with
    place := .done
    operation := { task.operation with
      state := .failed, progress := progress, error := some (message.take 500) } }

/-- The command that uploads the artifact of a package. -/
def uploadCommand (S : Settings) (executable port : Text) (item : FirmwarePackage) : List Text :=
  [executable, "upload".toList, "--port".toList, port, "--fqbn".toList, item.fqbn,
    "--input-dir".toList, S.directory item.artifactPath, S.sketch]

/-- Whether a board with the serial number is on one of the ports. -/
def isOn (hardwareSerial : Text) (ports : List SerialPort) : Prop :=
  ∃ port ∈ ports, port.vid = some 0x2886 ∧ port.pid = some 0x0062 ∧
    port.serialNumber = some hardwareSerial

/-- **What an event does to a task**: the task, the lock of its board and the calls of the uploader
that it leads to. -/
inductive Move (S : Settings) (s : UsbFirmwareInstaller) (e : FirmwareEvent) (id : ℕ)
    (task : UploadTask) : UploadTask → FairLock ℕ → List Upload → Prop
  | joins (hplace : task.place = .created) (hbusy : (lockOf s task).isFree = false) :
      Move S s e id task { task with place := .inLine } ((lockOf s task).joinLine id) []
  | begins {lock : FairLock ℕ} (hgranted : Granted (lockOf s task) id task.place lock)
      {item : FirmwarePackage} {image executable : Text}
      (hvalid : s.catalog.validate digestUpper task.operation.packageId = .ok (item, image)) :
      Move S s e id task (begun task) lock
        [⟨id, uploadCommand S executable task.port item, image⟩]
  | refused {lock : FairLock ℕ} (hgranted : Granted (lockOf s task) id task.place lock)
      (progress : List Text) (message : Text) :
      Move S s e id task (failed task progress message) lock.release []
  | programmed {output : Text} (hplace : task.place = .uploading)
      (he : e = .uploaded id (.ok (0, output)))
      (hfinished : Text.strstr "Programming Finished".toList
        (output.drop (output.length - 12000)) ≠ none) (progress : List Text) :
      Move S s e id task
        { task with
          place := .watching 30
          operation := { task.operation with state := .reenumerating, progress := progress } }
        (lockOf s task) []
  | stops (hplace : isRunning task.place = true) (progress : List Text) (message : Text) :
      Move S s e id task (failed task progress message) (lockOf s task).release []
  | watches {left : ℕ} (hplace : task.place = .watching left) (hleft : 1 < left) :
      Move S s e id task { task with place := .watching (left - 1) } (lockOf s task) []
  | completes {left : ℕ} {ports : List SerialPort} (hplace : task.place = .watching left)
      (he : e = .looks id ports) (hseen : isOn task.operation.hardwareSerial ports) :
      Move S s e id task
        { task with
          place := .done
          operation := { task.operation with
            state := .complete
            progress := task.operation.progress ++ ["same_device_reenumerated".toList] } }
        (lockOf s task).release []

/-- The installer after a move. -/
def moved (s : UsbFirmwareInstaller) (id : ℕ) (task : UploadTask) (lock : FairLock ℕ)
    (calls : List Upload) : UsbFirmwareInstaller :=
  { s with
    tasks := s.tasks.set id task
    locks := Function.update s.locks task.operation.hardwareSerial lock
    uploads := s.uploads ++ calls }

/-- **What an event does.** -/
inductive Step (S : Settings) (s : UsbFirmwareInstaller) (e : FirmwareEvent) :
    UsbFirmwareInstaller → Prop
  | stays : Step S s e s
  | refiles (artifact : Text → FirmwareArtifact) :
      Step S s e { s with catalog := { s.catalog with artifact := artifact } }
  | approves {request : LocalRequest} {body : InstallRequest} {ports : List SerialPort}
      {item : FirmwarePackage} {approval : DeveloperApproval}
      (he : e = .approve request body "APPROVE DEVELOPMENT FIRMWARE".toList ports)
      (hlocal : requireLoopback S request = true) (henabled : S.developerApprovalEnabled = true)
      (hitem : s.catalog.packages.lookup body.packageId = some item)
      (happroval : approvalOf item (s.catalog.artifact item.artifactPath) = .ok approval) :
      Step S s e { s with catalog := { s.catalog with
        developerApprovals := (body.packageId, approval) :: s.catalog.developerApprovals } }
  | starts {request : LocalRequest} {body : InstallRequest} {ports : List SerialPort}
      {port : SerialPort} (he : e = .install request body ports)
      (hlocal : requireLoopback S request = true) (hport : port ∈ ports)
      (hserial : port.serialNumber = some body.hardwareSerial) :
      Step S s e { s with tasks := s.tasks ++ [
        { operation := { hardwareSerial := body.hardwareSerial, packageId := body.packageId }
          port := port.device }] }
  | moves {id : ℕ} {task changed : UploadTask} {lock : FairLock ℕ} {calls : List Upload}
      (htask : s.tasks[id]? = some task) (hmove : Move S s e id task changed lock calls) :
      Step S s e (moved s id changed lock calls)

/-! ## Every event is such a step -/

variable {S : Settings} {s : UsbFirmwareInstaller} {e : FirmwareEvent}

/-- A board that is listed is on a port. -/
theorem mem_boards {ports : List SerialPort} {found : List Board} {board : Board}
    (h : boards S s.catalog ports = .ok found) (hboard : board ∈ found) :
    ∃ port ∈ ports, port.vid = some 0x2886 ∧ port.pid = some 0x0062 ∧
      port.serialNumber = board.hardwareSerial ∧ port.device = board.comPort := by
  unfold boards at h
  cases hlist : list S s.catalog with
  | error error =>
    rw [hlist] at h
    cases h
  | ok rows =>
    rw [hlist] at h
    cases h
    obtain ⟨port, hport, rfl⟩ := List.mem_map.mp hboard
    obtain ⟨hmem, hids⟩ := List.mem_filter.mp hport
    rw [Bool.and_eq_true, decide_eq_true_eq, decide_eq_true_eq] at hids
    exact ⟨port, hmem, hids.1, hids.2, rfl, rfl⟩

/-- A move in which the task keeps the lock. -/
theorem moved_lockOf (id : ℕ) (task changed : UploadTask)
    (hserial : changed.operation.hardwareSerial = task.operation.hardwareSerial) :
    moved s id changed (lockOf s task) [] = s.setTask id changed := by
  unfold moved lockOf setTask
  rw [hserial, Function.update_eq_self, List.append_nil]

/-- A move in which the task ends. -/
theorem ends_eq (id : ℕ) (task : UploadTask) :
    s.ends id task = moved s id { task with place := .done } (lockOf s task).release [] := by
  unfold ends moved lockOf setTask setLock
  rw [List.append_nil]

/-- A task that fails. -/
theorem fails_eq (id : ℕ) (task : UploadTask) (message : Text) :
    s.fails id task message =
      moved s id (failed task task.operation.progress message) (lockOf s task).release [] :=
  ends_eq id _

/-- A task that has been granted the lock. -/
theorem move_runs {id : ℕ} {task : UploadTask} {lock : FairLock ℕ}
    (hgranted : Granted (lockOf s task) id task.place lock) (executable : Option Text) :
    ∃ changed lock' calls, Move S s e id task changed lock' calls ∧
      (s.setLock task.operation.hardwareSerial lock).runs S id task executable =
        moved s id changed lock' calls := by
  unfold runs
  have hlock : lockOf (s.setLock task.operation.hardwareSerial lock) task = lock := by
    unfold lockOf setLock
    exact Function.update_self ..
  have hfails (progress : List Text) (message : Text) :
      moved (s.setLock task.operation.hardwareSerial lock) id (failed task progress message)
        lock.release [] = moved s id (failed task progress message) lock.release [] := by
    unfold moved setLock failed
    dsimp only
    rw [Function.update_idem]
  have hcatalog : (s.setLock task.operation.hardwareSerial lock).catalog = s.catalog := rfl
  rw [hcatalog]
  cases hvalid : s.catalog.validate digestUpper task.operation.packageId with
  | error error =>
    refine ⟨_, _, _, .refused hgranted task.operation.progress error.message, ?_⟩
    dsimp only
    rw [fails_eq, hlock, hfails]
  | ok answer =>
    obtain ⟨item, image⟩ := answer
    dsimp only
    by_cases hexecutable : executable.getD [] = []
    · rw [if_pos hexecutable, fails_eq]
      refine ⟨_, _, _, .refused hgranted
        (task.operation.progress ++ ["package_validated".toList])
        "arduino-cli is unavailable".toList, ?_⟩
      exact Eq.trans (congrArg (fun l => moved _ id _ (FairLock.release l) []) hlock) (hfails _ _)
    · rw [if_neg hexecutable]
      exact ⟨_, _, _, .begins hgranted hvalid, rfl⟩

/-- A task at the lock. -/
theorem step_enters {id : ℕ} {task : UploadTask} (htask : s.tasks[id]? = some task)
    (executable : Option Text) : Step S s e (s.enters S id task executable) := by
  have hruns {lock : FairLock ℕ} (hgranted : Granted (lockOf s task) id task.place lock) :
      Step S s e ((s.setLock task.operation.hardwareSerial lock).runs S id task executable) := by
    obtain ⟨changed, lock', calls, hmove, heq⟩ := move_runs (S := S) (e := e) hgranted executable
    rw [heq]
    exact .moves htask hmove
  unfold enters
  dsimp only
  cases hplace : task.place with
  | created =>
    dsimp only
    cases hfree : (lockOf s task).isFree with
    | true =>
      rw [show (s.locks task.operation.hardwareSerial).isFree = true from hfree, if_pos rfl]
      exact hruns (hplace ▸ .free hfree)
    | false =>
      rw [show (s.locks task.operation.hardwareSerial).isFree = false from hfree,
        if_neg Bool.false_ne_true]
      have heq : (s.setLock task.operation.hardwareSerial
          ((lockOf s task).joinLine id)).setTask id { task with place := .inLine } =
          moved s id { task with place := .inLine } ((lockOf s task).joinLine id) [] := by
        unfold moved setTask setLock
        rw [List.append_nil]
      exact heq ▸ .moves htask (.joins hplace hfree)
  | inLine =>
    dsimp only
    cases hturn : (lockOf s task).isTurn id with
    | true =>
      rw [show (s.locks task.operation.hardwareSerial).isTurn id = true from hturn, if_pos rfl]
      exact hruns (hplace ▸ .turn hturn)
    | false =>
      rw [show (s.locks task.operation.hardwareSerial).isTurn id = false from hturn,
        if_neg Bool.false_ne_true]
      exact .stays
  | uploading => exact .stays
  | watching left => exact .stays
  | done => exact .stays

/-- The end of the uploader. -/
theorem step_uploaded {id : ℕ} {task : UploadTask} (htask : s.tasks[id]? = some task)
    (hplace : task.place = .uploading) (outcome : Except Text (ℤ × Text)) :
    Step S s (.uploaded id outcome) (s.uploaded id task outcome) := by
  have hrunning : isRunning task.place = true := by rw [hplace]; rfl
  unfold uploaded
  cases outcome with
  | error message =>
    dsimp only
    rw [fails_eq]
    exact .moves htask (.stops hrunning _ message)
  | ok answer =>
    obtain ⟨returncode, output⟩ := answer
    dsimp only
    split_ifs with hfailed
    · rw [fails_eq]
      exact .moves htask (.stops hrunning _ _)
    · rw [not_or, not_not] at hfailed
      obtain ⟨rfl, hfinished⟩ := hfailed
      have heq := moved_lockOf (s := s) id task
        { task with
          place := .watching 30
          operation := { task.operation with
            state := .reenumerating
            progress := task.operation.progress ++
              ((printedLines (output.drop (output.length - 12000))).drop
                ((printedLines (output.drop (output.length - 12000))).length - 40)).map
                  (·.take 300) ++ ["programming_verified".toList] } } rfl
      rw [← heq]
      exact .moves htask (.programmed hplace rfl hfinished _)

/-- A look for the board. -/
theorem step_looks {id left : ℕ} {task : UploadTask} (htask : s.tasks[id]? = some task)
    (hplace : task.place = .watching left) (ports : List SerialPort) :
    Step S s (.looks id ports) (s.looks S id task left ports) := by
  have hrunning : isRunning task.place = true := by rw [hplace]; rfl
  unfold looks
  cases hboards : boards S s.catalog ports with
  | error error =>
    dsimp only
    rw [fails_eq]
    exact .moves htask (.stops hrunning _ _)
  | ok found =>
    dsimp only
    split_ifs with hany hleft
    · rw [ends_eq]
      obtain ⟨board, hboard, hserial⟩ := List.any_eq_true.mp hany
      obtain ⟨port, hport, hvid, hpid, hnumber, -⟩ := mem_boards hboards hboard
      exact .moves htask
        (.completes hplace rfl ⟨port, hport, hvid, hpid, hnumber.trans (of_decide_eq_true hserial)⟩)
    · rw [fails_eq]
      exact .moves htask (.stops hrunning _ _)
    · rw [← moved_lockOf id task { task with place := .watching (left - 1) } rfl]
      exact .moves htask (.watches hplace (not_le.mp hleft))

/-- An approval. -/
theorem step_approve (request : LocalRequest) (body : InstallRequest) (confirmation : Text)
    (ports : List SerialPort) :
    Step S s (.approve request body confirmation ports)
      (developerApprove S s request body confirmation ports) := by
  unfold developerApprove
  split_ifs with hguard
  · exact .stays
  rw [Bool.or_eq_true, Bool.or_eq_true, not_or, not_or, Bool.not_eq_true', Bool.not_eq_true',
    Bool.not_eq_false, Bool.not_eq_false, decide_eq_true_eq, not_not] at hguard
  obtain ⟨⟨-, hlocal⟩, rfl⟩ := hguard
  cases boards S s.catalog ports with
  | error error => exact .stays
  | ok found =>
    dsimp only
    split_ifs with hone
    · exact .stays
    unfold approveDevelopment
    split_ifs with henabled
    · exact .stays
    rw [Bool.not_eq_true', Bool.not_eq_false] at henabled
    cases hitem : s.catalog.packages.lookup body.packageId with
    | none => exact .stays
    | some item =>
      dsimp only
      cases happroval : approvalOf item (s.catalog.artifact item.artifactPath) with
      | error error => exact .stays
      | ok approval => exact .approves rfl hlocal henabled hitem happroval

/-- A request for an upload. -/
theorem step_install (request : LocalRequest) (body : InstallRequest) (ports : List SerialPort) :
    Step S s (.install request body ports) (install S s request body ports) := by
  unfold install
  split_ifs with hguard
  · exact .stays
  rw [Bool.or_eq_true, not_or, Bool.not_eq_true', Bool.not_eq_true', Bool.not_eq_false,
    Bool.not_eq_false] at hguard
  unfold start
  by_cases hserial : (!isHardwareSerial body.hardwareSerial) = true
  · rw [if_pos hserial]
    exact .stays
  rw [if_neg hserial]
  cases s.catalog.validate digestUpper body.packageId with
  | error error => exact .stays
  | ok package =>
    dsimp only
    cases hboards : boards S s.catalog ports with
    | error error => exact .stays
    | ok found =>
      dsimp only
      generalize hfilter : found.filter (·.hardwareSerial = some body.hardwareSerial) = matching
      match matching, hfilter with
      | [], _ => exact .stays
      | _ :: _ :: _, _ => exact .stays
      | [board], hfilter =>
        have hmem : board ∈ found.filter (·.hardwareSerial = some body.hardwareSerial) :=
          hfilter ▸ List.mem_singleton_self board
        obtain ⟨hboard, hnumber⟩ := List.mem_filter.mp hmem
        obtain ⟨port, hport, -, -, hserial, hdevice⟩ := mem_boards hboards hboard
        dsimp only
        by_cases hlocked : (s.locks body.hardwareSerial).locked = true
        · rw [if_pos hlocked]
          exact .stays
        · rw [if_neg hlocked, ← hdevice]
          exact .starts rfl hguard.2 hport (hserial.trans (of_decide_eq_true hnumber))

/-- **One step.** -/
theorem step_next (S : Settings) (s : UsbFirmwareInstaller) (e : FirmwareEvent) :
    Step S s e (next S s e) := by
  cases e with
  | install request body ports => exact step_install request body ports
  | approve request body confirmation ports => exact step_approve request body confirmation ports
  | files artifact => exact .refiles artifact
  | enters id executable =>
    dsimp only [next]
    cases htask : s.tasks[id]? with
    | none => exact .stays
    | some task => exact step_enters htask executable
  | uploaded id outcome =>
    dsimp only [next]
    cases htask : s.tasks[id]? with
    | none => exact .stays
    | some task =>
      dsimp only
      split_ifs with hplace
      · exact step_uploaded htask hplace outcome
      · exact .stays
  | looks id ports =>
    dsimp only [next]
    cases htask : s.tasks[id]? with
    | none => exact .stays
    | some task =>
      dsimp only
      cases hplace : task.place with
      | watching left => exact step_looks htask hplace ports
      | created => exact .stays
      | inLine => exact .stays
      | uploading => exact .stays
      | done => exact .stays

end InstallerSteps

end SeedMg24.Analysis
