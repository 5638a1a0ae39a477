import SeedMg24.Analysis.InstallerSteps

/-!
# Runs of the firmware installer

What holds however requests, uploads and changes of files follow one another: one operation at most
is busy with a board, an operation is complete only after its upload was reported and its board was
seen again, and none is ever stuck.
-/

set_option autoImplicit false

namespace SeedMg24.Analysis

open Foundation SeedMg24.Model

namespace InstallerRuns

open Installer Installer.UsbFirmwareInstaller InstallerSteps

/-! ## Tasks at their places -/

/-- Whether there is a task with the id that is as described. -/
def IsAt (P : UploadTask → Prop) (tasks : List UploadTask) (id : ℕ) : Prop :=
  ∃ task, tasks[id]? = some task ∧ P task

section Tasks

variable {P : UploadTask → Prop} {tasks : List UploadTask} {id : ℕ} {task changed : UploadTask}

theorem isAt_iff (htask : tasks[id]? = some task) : IsAt P tasks id ↔ P task := by
  constructor
  · rintro ⟨other, hother, hP⟩
    rw [htask] at hother
    cases hother
    exact hP
  · exact fun hP => ⟨task, htask, hP⟩

/-- One task has changed. -/
theorem isAt_set (htask : tasks[id]? = some task) (a : ℕ) :
    IsAt P (tasks.set id changed) a ↔ (IsAt P tasks a ∧ a ≠ id) ∨ (a = id ∧ P changed) := by
  have hlt : id < tasks.length := (List.getElem?_eq_some_iff.mp htask).1
  by_cases ha : a = id
  · subst ha
    rw [isAt_iff (List.getElem?_set_self hlt)]
    simp
  · unfold IsAt
    rw [List.getElem?_set_ne (Ne.symm ha)]
    simp [ha]

theorem isAt_set_pos (htask : tasks[id]? = some task) (hP : P changed) (a : ℕ) :
    IsAt P (tasks.set id changed) a ↔ IsAt P tasks a ∨ a = id := by
  rw [isAt_set htask]
  by_cases ha : a = id <;> simp [ha, hP]

theorem isAt_set_neg (htask : tasks[id]? = some task) (hP : ¬ P changed) (a : ℕ) :
    IsAt P (tasks.set id changed) a ↔ IsAt P tasks a ∧ a ≠ id := by
  rw [isAt_set htask]
  simp [hP]

theorem isAt_set_congr (htask : tasks[id]? = some task) (hP : P changed ↔ P task) (a : ℕ) :
    IsAt P (tasks.set id changed) a ↔ IsAt P tasks a := by
  by_cases hchanged : P changed
  · rw [isAt_set_pos htask hchanged, or_iff_left_of_imp]
    rintro rfl
    exact (isAt_iff htask).mpr (hP.mp hchanged)
  · rw [isAt_set_neg htask hchanged, and_iff_left_of_imp]
    rintro hat rfl
    exact hchanged (hP.mpr ((isAt_iff htask).mp hat))

/-- A task that is new is not as described. -/
theorem isAt_append (hP : ¬ P task) (a : ℕ) : IsAt P (tasks ++ [task]) a ↔ IsAt P tasks a := by
  unfold IsAt
  constructor
  · rintro ⟨other, hother, hPother⟩
    rw [List.getElem?_append] at hother
    split_ifs at hother with hlt
    · exact ⟨other, hother, hPother⟩
    · have hmem := List.mem_of_getElem? hother
      rw [List.mem_singleton] at hmem
      exact absurd (hmem ▸ hPother) hP
  · rintro ⟨other, hother, hPother⟩
    have hlt := (List.getElem?_eq_some_iff.mp hother).1
    exact ⟨other, by rw [List.getElem?_append_left hlt, hother], hPother⟩

end Tasks

/-! ## Locks -/

/-- A task that has the lock of a board. -/
def HasLock (hardwareSerial : Text) (task : UploadTask) : Prop :=
  task.operation.hardwareSerial = hardwareSerial ∧ isRunning task.place = true

/-- A task that waits for the lock of a board. -/
def AwaitsLock (hardwareSerial : Text) (task : UploadTask) : Prop :=
  task.operation.hardwareSerial = hardwareSerial ∧ task.place = .inLine

/-- Every lock serves the tasks of its board. -/
def LocksServe (s : UsbFirmwareInstaller) : Prop :=
  ∀ hardwareSerial, (s.locks hardwareSerial).Serves (IsAt (HasLock hardwareSerial) s.tasks)
    (IsAt (AwaitsLock hardwareSerial) s.tasks)

variable {S : Settings} {s : UsbFirmwareInstaller} {e : FirmwareEvent}

/-- A task that is granted a lock has it, and does not wait any more. -/
theorem granted_serves {lock granted : FairLock ℕ} {holds waits : ℕ → Prop} {id : ℕ} {place : Place}
    (h : lock.Serves holds waits) (hgranted : Granted lock id place granted)
    (hwaits : place = .created → ¬ waits id) :
    granted.Serves (fun a => holds a ∨ a = id) (fun a => waits a ∧ a ≠ id) := by
  cases hgranted with
  | free hfree =>
    refine (h.acquire hfree id).congr (fun _ => Iff.rfl) fun a => ?_
    rw [and_iff_left_of_imp]
    rintro hwaiting rfl
    exact hwaits rfl hwaiting
  | turn hturn => exact h.takeTurn hturn

/-- A move changes neither the board of a task nor its package and port. -/
theorem Move.fixed {id : ℕ} {task changed : UploadTask} {lock : FairLock ℕ} {calls : List Upload}
    (h : Move S s e id task changed lock calls) :
    changed.operation.hardwareSerial = task.operation.hardwareSerial ∧
      changed.operation.packageId = task.operation.packageId ∧ changed.port = task.port := by
  cases h <;> exact ⟨rfl, rfl, rfl⟩

/-- A move calls the uploader only when the task has just been granted the lock, and its package
has just been validated. -/
theorem Move.calls_eq {id : ℕ} {task changed : UploadTask} {lock : FairLock ℕ}
    {calls : List Upload} (h : Move S s e id task changed lock calls) :
    calls = [] ∨ ∃ granted item image executable,
      Granted (lockOf s task) id task.place granted ∧
        s.catalog.validate digestUpper task.operation.packageId = .ok (item, image) ∧
        calls = [⟨id, uploadCommand S executable task.port item, image⟩] := by
  cases h with
  | begins hgranted hvalid => exact .inr ⟨_, _, _, _, hgranted, hvalid, rfl⟩
  | joins hplace hbusy => exact .inl rfl
  | refused hgranted progress message => exact .inl rfl
  | programmed hplace he hfinished progress => exact .inl rfl
  | stops hplace progress message => exact .inl rfl
  | watches hplace hleft => exact .inl rfl
  | completes hplace he hseen => exact .inl rfl

/-- A task that has ended does not move. -/
theorem Move.place_ne_done {id : ℕ} {task changed : UploadTask} {lock : FairLock ℕ}
    {calls : List Upload} (h : Move S s e id task changed lock calls) : task.place ≠ .done := by
  intro hdone
  cases h with
  | joins hplace hbusy => exact Place.noConfusion (hdone.symm.trans hplace)
  | begins hgranted hvalid => rw [hdone] at hgranted; cases hgranted
  | refused hgranted progress message => rw [hdone] at hgranted; cases hgranted
  | programmed hplace he hfinished progress => exact Place.noConfusion (hdone.symm.trans hplace)
  | stops hplace progress message => rw [hdone] at hplace; cases hplace
  | watches hplace hleft => exact Place.noConfusion (hdone.symm.trans hplace)
  | completes hplace he hseen => exact Place.noConfusion (hdone.symm.trans hplace)

/-- The lock of the board of a task that moves. -/
theorem serves_move {id : ℕ} {task changed : UploadTask} {lock : FairLock ℕ} {calls : List Upload}
    (h : LocksServe s) (htask : s.tasks[id]? = some task)
    (hmove : Move S s e id task changed lock calls) :
    lock.Serves (IsAt (HasLock task.operation.hardwareSerial) (s.tasks.set id changed))
      (IsAt (AwaitsLock task.operation.hardwareSerial) (s.tasks.set id changed)) := by
  have hserves := h task.operation.hardwareSerial
  have hwaiting (hplace : task.place = .created) :
      ¬ IsAt (AwaitsLock task.operation.hardwareSerial) s.tasks id := by
    rw [isAt_iff htask]
    rintro ⟨-, hinLine⟩
    rw [hplace] at hinLine
    cases hinLine
  have hholding (hrunning : isRunning task.place = true) :
      IsAt (HasLock task.operation.hardwareSerial) s.tasks id :=
    (isAt_iff htask).mpr ⟨rfl, hrunning⟩
  have hnoWait (hrunning : isRunning task.place = true) :
      ¬ AwaitsLock task.operation.hardwareSerial task := by
    rintro ⟨-, hinLine⟩
    rw [hinLine] at hrunning
    cases hrunning
  have hnoWaitDone {changed : UploadTask} (hplace : changed.place ≠ .inLine) :
      ¬ AwaitsLock task.operation.hardwareSerial changed := fun hwaits => hplace hwaits.2
  have hends {changed : UploadTask} (hplace : changed.place = .done)
      (hrunning : isRunning task.place = true) :
      (lockOf s task).release.Serves
        (IsAt (HasLock task.operation.hardwareSerial) (s.tasks.set id changed))
        (IsAt (AwaitsLock task.operation.hardwareSerial) (s.tasks.set id changed)) := by
    refine (hserves.release (hholding hrunning)).congr (isAt_set_neg htask ?_)
      (isAt_set_congr htask (iff_of_false (hnoWaitDone ?_) (hnoWait hrunning)))
    · rintro ⟨-, hstill⟩
      rw [hplace] at hstill
      cases hstill
    · rw [hplace]
      exact fun h => Place.noConfusion h
  have hkeeps {changed : UploadTask}
      (hserial : changed.operation.hardwareSerial = task.operation.hardwareSerial)
      (hbefore : isRunning task.place = true) (hafter : isRunning changed.place = true) :
      (lockOf s task).Serves
        (IsAt (HasLock task.operation.hardwareSerial) (s.tasks.set id changed))
        (IsAt (AwaitsLock task.operation.hardwareSerial) (s.tasks.set id changed)) := by
    refine hserves.congr (isAt_set_congr htask (iff_of_true ⟨hserial, hafter⟩ ⟨rfl, hbefore⟩))
      (isAt_set_congr htask (iff_of_false (hnoWaitDone fun hinLine => ?_) (hnoWait hbefore)))
    rw [hinLine] at hafter
    cases hafter
  cases hmove with
  | joins hplace hbusy =>
    refine (hserves.joinLine (hwaiting hplace)).congr (isAt_set_congr htask ?_)
      (isAt_set_pos htask ⟨rfl, rfl⟩)
    refine iff_of_false (fun hholds => absurd hholds.2 Bool.false_ne_true) fun hholds => ?_
    have hrunning := hholds.2
    rw [hplace] at hrunning
    cases hrunning
  | begins hgranted hvalid =>
    exact (granted_serves hserves hgranted hwaiting).congr (isAt_set_pos htask ⟨rfl, rfl⟩)
      (isAt_set_neg htask (hnoWaitDone fun h => Place.noConfusion h))
  | refused hgranted progress message =>
    have hrelease := (granted_serves hserves hgranted hwaiting).release (.inr rfl)
    refine hrelease.congr (fun a => ?_)
      (isAt_set_neg htask (hnoWaitDone fun h => Place.noConfusion h))
    rw [isAt_set_neg htask fun hholds => absurd hholds.2 Bool.false_ne_true]
    constructor
    · exact fun h => ⟨.inl h.1, h.2⟩
    · rintro ⟨hat | hid, hne⟩
      · exact ⟨hat, hne⟩
      · exact absurd hid hne
  | programmed hplace he hfinished progress => exact hkeeps rfl (by rw [hplace]; rfl) rfl
  | stops hplace progress message => exact hends rfl hplace
  | watches hplace hleft => exact hkeeps rfl (by rw [hplace]; rfl) rfl
  | completes hplace he hseen => exact hends rfl (by rw [hplace]; rfl)

/-- **The locks go on serving.** -/
theorem locksServe_step {after : UsbFirmwareInstaller} (h : LocksServe s)
    (hstep : Step S s e after) : LocksServe after := by
  cases hstep with
  | stays => exact h
  | refiles artifact => exact h
  | approves he hlocal henabled hitem happroval => exact h
  | starts he hlocal hport hserial =>
    intro hardwareSerial
    exact (h hardwareSerial).congr (isAt_append fun hholds => absurd hholds.2 Bool.false_ne_true)
      (isAt_append fun hwaits => Place.noConfusion hwaits.2)
  | @moves id task changed lock calls htask hmove =>
    intro hardwareSerial
    have hfixed := (Move.fixed hmove).1
    by_cases hsame : task.operation.hardwareSerial = hardwareSerial
    · subst hsame
      have hlock : (moved s id changed lock calls).locks task.operation.hardwareSerial = lock := by
        unfold moved
        dsimp only
        rw [hfixed, Function.update_self]
      rw [hlock]
      exact serves_move h htask hmove
    · have hlock : (moved s id changed lock calls).locks hardwareSerial =
          s.locks hardwareSerial := by
        unfold moved
        exact Function.update_of_ne (by rw [hfixed]; exact Ne.symm hsame) ..
      rw [hlock]
      exact (h hardwareSerial).congr
        (isAt_set_congr htask
          (iff_of_false (fun hP => hsame (hfixed ▸ hP.1)) fun hP => hsame hP.1))
        (isAt_set_congr htask
          (iff_of_false (fun hP => hsame (hfixed ▸ hP.1)) fun hP => hsame hP.1))

/-! ## What a task tells about the run -/

/-- The state of an operation is that of its task. -/
def Agrees (task : UploadTask) : Prop :=
  match task.place with
  | .created => task.operation.state = .queued
  | .inLine => task.operation.state = .queued
  | .uploading => task.operation.state = .uploading
  | .watching _ => task.operation.state = .reenumerating
  | .done => task.operation.state = .complete ∨ task.operation.state = .failed

/-- The uploader reported the end of the programming, without an error. -/
def WasReported (events : List FirmwareEvent) (id : ℕ) : Prop :=
  ∃ output, FirmwareEvent.uploaded id (.ok (0, output)) ∈ events ∧
    Text.strstr "Programming Finished".toList (output.drop (output.length - 12000)) ≠ none

/-- The board was seen again on a port. -/
def WasSeen (events : List FirmwareEvent) (id : ℕ) (hardwareSerial : Text) : Prop :=
  ∃ ports, FirmwareEvent.looks id ports ∈ events ∧ isOn hardwareSerial ports

/-- What a task tells, with the operations the uploader was called for. -/
structure Tells (events : List FirmwareEvent) (called : List ℕ) (id : ℕ) (task : UploadTask) :
    Prop where
  agrees : Agrees task
  notCalled : task.operation.state = .queued → id ∉ called
  called : task.operation.state = .uploading ∨ task.operation.state = .reenumerating ∨
    task.operation.state = .complete → id ∈ called
  reported : task.operation.state = .reenumerating ∨ task.operation.state = .complete →
    WasReported events id
  seen : task.operation.state = .complete → WasSeen events id task.operation.hardwareSerial

/-- The operations the uploader was called for. -/
def calledFor (s : UsbFirmwareInstaller) : List ℕ := s.uploads.map Upload.operation

/-- What holds after a run. -/
structure Invariant (events : List FirmwareEvent) (s : UsbFirmwareInstaller) : Prop where
  locks : LocksServe s
  tells : ∀ id task, s.tasks[id]? = some task → Tells events (calledFor s) id task
  once : (calledFor s).Nodup
  known : ∀ id ∈ calledFor s, id < s.tasks.length

/-- The run goes on, and the uploader is called for other operations. -/
theorem Tells.later {events : List FirmwareEvent} {called others : List ℕ} {id : ℕ}
    {task : UploadTask} (h : Tells events called id task) (e : FirmwareEvent)
    (hothers : id ∉ others) : Tells (events ++ [e]) (called ++ others) id task where
  agrees := h.agrees
  notCalled hqueued := by
    rw [List.mem_append, not_or]
    exact ⟨h.notCalled hqueued, hothers⟩
  called hstate := List.mem_append_left _ (h.called hstate)
  reported hstate := by
    obtain ⟨output, hmem, hfinished⟩ := h.reported hstate
    exact ⟨output, List.mem_append_left _ hmem, hfinished⟩
  seen hstate := by
    obtain ⟨ports, hmem, hon⟩ := h.seen hstate
    exact ⟨ports, List.mem_append_left _ hmem, hon⟩

/-- The task goes on to another place, and its operation stays as it is. -/
theorem Tells.goOn {events : List FirmwareEvent} {called : List ℕ} {id : ℕ} {task : UploadTask}
    (h : Tells events called id task) {place : Place}
    (hagrees : Agrees { task with place := place }) :
    Tells events called id { task with place := place } :=
  ⟨hagrees, h.notCalled, h.called, h.reported, h.seen⟩

/-- Who is granted a lock is queued. -/
theorem queued_of_granted {lock granted : FairLock ℕ} {id : ℕ} {task : UploadTask}
    (hagrees : Agrees task) (hgranted : Granted lock id task.place granted) :
    task.operation.state = .queued := by
  unfold Agrees at hagrees
  generalize task.place = place at hagrees hgranted
  cases hgranted <;> exact hagrees

/-- The operations a move calls the uploader for. -/
theorem calls_of_move {id : ℕ} {task changed : UploadTask} {lock : FairLock ℕ}
    {calls : List Upload} (hmove : Move S s e id task changed lock calls) (hagrees : Agrees task) :
    calls.map Upload.operation = [] ∨
      calls.map Upload.operation = [id] ∧ task.operation.state = .queued := by
  rcases Move.calls_eq hmove with rfl | ⟨granted, item, image, executable, hgranted, -, rfl⟩
  · exact .inl rfl
  · exact .inr ⟨rfl, queued_of_granted hagrees hgranted⟩

/-- What the task that moves tells. -/
theorem tells_move {events : List FirmwareEvent} {called : List ℕ} {id : ℕ}
    {task changed : UploadTask} {lock : FairLock ℕ} {calls : List Upload}
    (h : Tells events called id task) (hmove : Move S s e id task changed lock calls) :
    Tells (events ++ [e]) (called ++ calls.map Upload.operation) id changed := by
  have hagrees := h.agrees
  have hfailed (progress : List Text) (message : Text) :
      Tells (events ++ [e]) (called ++ []) id (failed task progress message) :=
    ⟨.inr rfl, fun h => FirmwareState.noConfusion h,
      fun h => (by rcases h with h | h | h <;> cases h),
      fun h => (by rcases h with h | h <;> cases h),
      fun h => FirmwareState.noConfusion h⟩
  cases hmove with
  | joins hplace hbusy =>
    unfold Agrees at hagrees
    rw [hplace] at hagrees
    exact (h.later e List.not_mem_nil).goOn hagrees
  | begins hgranted hvalid =>
    exact ⟨rfl, fun h => FirmwareState.noConfusion h,
      fun _ => List.mem_append_right _ (List.mem_singleton_self id),
      fun h => (by rcases h with h | h <;> cases h), fun h => FirmwareState.noConfusion h⟩
  | refused hgranted progress message => exact hfailed progress message
  | @programmed output hplace he hfinished progress =>
    unfold Agrees at hagrees
    rw [hplace] at hagrees
    refine ⟨rfl, fun h => FirmwareState.noConfusion h,
      fun _ => List.mem_append_left _ (h.called (.inl hagrees)), fun _ => ?_,
      fun h => FirmwareState.noConfusion h⟩
    exact ⟨output, List.mem_append_right _ (he ▸ List.mem_singleton_self _), hfinished⟩
  | stops hplace progress message => exact hfailed progress message
  | watches hplace hleft =>
    unfold Agrees at hagrees
    rw [hplace] at hagrees
    exact (h.later e List.not_mem_nil).goOn hagrees
  | @completes left ports hplace he hseen =>
    unfold Agrees at hagrees
    rw [hplace] at hagrees
    have hlater := h.later e List.not_mem_nil
    exact ⟨.inl rfl, fun h => FirmwareState.noConfusion h,
      fun _ => hlater.called (.inr (.inl hagrees)), fun _ => hlater.reported (.inl hagrees),
      fun _ => ⟨ports, List.mem_append_right _ (he ▸ List.mem_singleton_self _), hseen⟩⟩

/-- **One step.** -/
theorem Invariant.step {events : List FirmwareEvent} {after : UsbFirmwareInstaller}
    (h : Invariant events s) (hstep : Step S s e after) : Invariant (events ++ [e]) after := by
  have hlater (id : ℕ) (task : UploadTask) (htask : s.tasks[id]? = some task) :
      Tells (events ++ [e]) (calledFor s) id task := by
    have hmore := (h.tells id task htask).later e (List.not_mem_nil (a := id))
    rwa [List.append_nil] at hmore
  have hlocks := locksServe_step h.locks hstep
  cases hstep with
  | stays => exact ⟨hlocks, hlater, h.once, h.known⟩
  | refiles artifact => exact ⟨hlocks, hlater, h.once, h.known⟩
  | approves he hlocal henabled hitem happroval => exact ⟨hlocks, hlater, h.once, h.known⟩
  | starts he hlocal hport hserial =>
    refine ⟨hlocks, fun id task htask => ?_, h.once, fun id hid => ?_⟩
    · rw [List.getElem?_append] at htask
      split_ifs at htask with hlt
      · exact hlater id task htask
      · have hmem := List.mem_of_getElem? htask
        rw [List.mem_singleton] at hmem
        subst hmem
        exact ⟨rfl, fun _ hid => hlt (h.known id hid),
          fun h => (by rcases h with h | h | h <;> cases h),
          fun h => (by rcases h with h | h <;> cases h), fun h => FirmwareState.noConfusion h⟩
    · rw [List.length_append]
      exact Nat.lt_add_right _ (h.known id hid)
  | @moves id task changed lock calls htask hmove =>
    have htells := h.tells id task htask
    have hcalled : calledFor (moved s id changed lock calls) =
        calledFor s ++ calls.map Upload.operation := List.map_append
    have hcalls := calls_of_move hmove htells.agrees
    refine ⟨hlocks, fun a other hother => ?_, ?_, fun a ha => ?_⟩
    · rw [hcalled]
      change (s.tasks.set id changed)[a]? = some other at hother
      by_cases ha : a = id
      · subst ha
        rw [List.getElem?_set_self (List.getElem?_eq_some_iff.mp htask).1] at hother
        cases hother
        exact tells_move htells hmove
      · rw [List.getElem?_set_ne (Ne.symm ha)] at hother
        refine (h.tells a other hother).later e ?_
        rcases hcalls with hcalls | ⟨hcalls, -⟩
        · rw [hcalls]
          exact List.not_mem_nil
        · rw [hcalls, List.mem_singleton]
          exact ha
    · rw [hcalled]
      rcases hcalls with hcalls | ⟨hcalls, hqueued⟩
      · rw [hcalls, List.append_nil]
        exact h.once
      · rw [hcalls, List.nodup_append]
        refine ⟨h.once, List.pairwise_singleton .., fun a ha b hb hab => ?_⟩
        rw [List.mem_singleton] at hb
        exact htells.notCalled hqueued (hb ▸ hab ▸ ha)
    · change a < (s.tasks.set id changed).length
      rw [List.length_set]
      rw [hcalled, List.mem_append] at ha
      rcases ha with ha | ha
      · exact h.known a ha
      · rcases hcalls with hcalls | ⟨hcalls, -⟩
        · rw [hcalls] at ha
          exact absurd ha List.not_mem_nil
        · rw [hcalls, List.mem_singleton] at ha
          exact ha ▸ (List.getElem?_eq_some_iff.mp htask).1

/-- An installer that has just been made. -/
def fresh (packages : List (Text × FirmwarePackage)) (artifact : Text → FirmwareArtifact) :
    UsbFirmwareInstaller :=
  { catalog := { packages := packages, artifact := artifact } }

variable (packages : List (Text × FirmwarePackage)) (artifact : Text → FirmwareArtifact)

theorem invariant_fresh : Invariant [] (fresh packages artifact) := by
  refine ⟨fun hardwareSerial => ?_, fun id task htask => ?_, List.nodup_nil,
    fun id hid => absurd hid List.not_mem_nil⟩
  · exact FairLock.serves_new.congr (fun a => iff_false_intro fun ⟨_, h, _⟩ => by cases h)
      fun a => iff_false_intro fun ⟨_, h, _⟩ => by cases h
  · cases htask

/-- **A run.** -/
theorem invariant_after (S : Settings) (events : List FirmwareEvent) :
    Invariant events (Runs.after (next S) (fresh packages artifact) events) := by
  induction events using List.reverseRecOn with
  | nil => exact invariant_fresh packages artifact
  | append_singleton events e ih =>
    rw [Runs.after_snoc]
    exact ih.step (step_next S _ e)

/-! ## The end of an operation -/

/-- An operation that has ended stays as it is. -/
theorem final_step {after : UsbFirmwareInstaller} {id : ℕ} {task : UploadTask}
    (htask : s.tasks[id]? = some task) (hdone : task.place = .done) (hstep : Step S s e after) :
    after.tasks[id]? = some task := by
  cases hstep with
  | stays => exact htask
  | refiles artifact => exact htask
  | approves he hlocal henabled hitem happroval => exact htask
  | starts he hlocal hport hserial =>
    exact (List.getElem?_append_left (List.getElem?_eq_some_iff.mp htask).1).trans htask
  | @moves other moving changed lock calls hmoving hmove =>
    have hne : other ≠ id := by
      rintro rfl
      rw [htask] at hmoving
      cases hmoving
      exact Move.place_ne_done hmove hdone
    exact (List.getElem?_set_ne hne).trans htask

theorem final_after (events : List FirmwareEvent) {id : ℕ} {task : UploadTask}
    (htask : s.tasks[id]? = some task) (hdone : task.place = .done) :
    (Runs.after (next S) s events).tasks[id]? = some task :=
  Runs.after_invariant (next S) (I := fun s => s.tasks[id]? = some task) htask
    (fun s e h => final_step h hdone (step_next S s e)) events

/-- An operation that has ended is at the end of its task. -/
theorem done_of_state {events : List FirmwareEvent} {id : ℕ} {task : UploadTask}
    {called : List ℕ} (h : Tells events called id task)
    (hstate : task.operation.state = .complete ∨ task.operation.state = .failed) :
    task.place = .done := by
  have hagrees := h.agrees
  unfold Agrees at hagrees
  split at hagrees
  · rw [hagrees] at hstate; rcases hstate with h | h <;> cases h
  · rw [hagrees] at hstate; rcases hstate with h | h <;> cases h
  · rw [hagrees] at hstate; rcases hstate with h | h <;> cases h
  · rw [hagrees] at hstate; rcases hstate with h | h <;> cases h
  · assumption

/-- An operation that is busy with its board has the lock. -/
theorem holds_of_state {events : List FirmwareEvent} {id : ℕ} {task : UploadTask}
    {called : List ℕ} (h : Tells events called id task)
    (hstate : task.operation.state = .uploading ∨ task.operation.state = .reenumerating) :
    isRunning task.place = true := by
  have hagrees := h.agrees
  unfold Agrees at hagrees
  split at hagrees
  · rw [hagrees] at hstate; rcases hstate with h | h <;> cases h
  · rw [hagrees] at hstate; rcases hstate with h | h <;> cases h
  · rename_i hplace; rw [hplace]; rfl
  · rename_i hplace; rw [hplace]; rfl
  · rcases hagrees with hagrees | hagrees <;> rw [hagrees] at hstate <;>
      rcases hstate with h | h <;> cases h

end InstallerRuns

open Installer InstallerSteps InstallerRuns

/-- **An installation is done once, alone, and to its end.**  In every run of the installer, two
operations of one board are never uploading or waiting for it at once, the uploader is called at
most once for an operation, an operation is complete only after it was called for it, reported the
end of the programming without an error, and the board was seen again with its serial number, and
an operation that has ended stays as it is. -/
theorem installations_are_exclusive (S : Settings) (packages : List (Text × FirmwarePackage))
    (artifact : Text → FirmwareArtifact) (events : List FirmwareEvent) :
    let s := Runs.after (next S) (fresh packages artifact) events
    (∀ (a b : ℕ) (task other : UploadTask), s.tasks[a]? = some task → s.tasks[b]? = some other →
      task.operation.hardwareSerial = other.operation.hardwareSerial →
      (task.operation.state = .uploading ∨ task.operation.state = .reenumerating) →
      (other.operation.state = .uploading ∨ other.operation.state = .reenumerating) → a = b) ∧
    (s.uploads.map Upload.operation).Nodup ∧
    (∀ (id : ℕ) (task : UploadTask), s.tasks[id]? = some task →
      task.operation.state = .complete →
      id ∈ s.uploads.map Upload.operation ∧ WasReported events id ∧
        WasSeen events id task.operation.hardwareSerial) ∧
    ∀ (id : ℕ) (task : UploadTask), s.tasks[id]? = some task →
      (task.operation.state = .complete ∨ task.operation.state = .failed) →
      ∀ later, (Runs.after (next S) s later).tasks[id]? = some task := by
  intro s
  have h : Invariant events s := invariant_after packages artifact S events
  refine ⟨fun a b task other ha hb hserial hstate hother => ?_, h.once,
    fun id task htask hstate => ?_, fun id task htask hstate later => ?_⟩
  · have hserves := h.locks other.operation.hardwareSerial
    exact hserves.one a b
      ⟨task, ha, hserial, holds_of_state (h.tells a task ha) hstate⟩
      ⟨other, hb, rfl, holds_of_state (h.tells b other hb) hother⟩
  · have htells := h.tells id task htask
    exact ⟨htells.called (.inr (.inr hstate)), htells.reported (.inr hstate), htells.seen hstate⟩
  · exact final_after later htask (done_of_state (h.tells id task htask) hstate)

end SeedMg24.Analysis
