import SeedMg24.Analysis.InstallerRuns

/-!
# The end of every installation

No operation of the installer waits for ever: whatever has happened, the tasks can all be brought to
their ends.
-/

set_option autoImplicit false

namespace SeedMg24.Analysis

open Foundation SeedMg24.Model

namespace InstallerEnds

open Installer Installer.UsbFirmwareInstaller InstallerSteps InstallerRuns

/-- How many steps a task has before it, at most, once nothing is in its way. -/
def rank : Place → ℕ
  | .created => 2
  | .inLine => 1
  | .uploading => 1
  | .watching left => left + 1
  | .done => 0

/-- The steps before all tasks. -/
def totalRank (tasks : List UploadTask) : ℕ := (tasks.map fun task => rank task.place).sum

theorem totalRank_set_lt {tasks : List UploadTask} {id : ℕ} {task changed : UploadTask}
    (htask : tasks[id]? = some task) (hrank : rank changed.place < rank task.place) :
    totalRank (tasks.set id changed) < totalRank tasks := by
  induction tasks generalizing id with
  | nil => cases htask
  | cons first others ih =>
    unfold totalRank at ih ⊢
    cases id with
    | zero =>
      cases htask
      rw [List.set_cons_zero, List.map_cons, List.map_cons, List.sum_cons, List.sum_cons]
      omega
    | succ id =>
      have hothers := ih htask
      rw [List.set_cons_succ, List.map_cons, List.map_cons, List.sum_cons, List.sum_cons]
      omega

variable (S : Settings) (s : UsbFirmwareInstaller)

/-- An event that brings one task nearer to its end, and leaves the others. -/
def Advances : Prop :=
  ∃ e id task changed, s.tasks[id]? = some task ∧
    (next S s e).tasks = s.tasks.set id changed ∧ rank changed.place < rank task.place

variable {S s} {id : ℕ} {task : UploadTask}

/-- A task that has the lock and finds no uploader ends. -/
theorem runs_none (task : UploadTask) :
    ∃ changed, (s.runs S id task none).tasks = s.tasks.set id changed ∧ changed.place = .done := by
  unfold runs
  cases s.catalog.validate digestUpper task.operation.packageId with
  | error error => exact ⟨_, rfl, rfl⟩
  | ok package =>
    dsimp only
    rw [if_pos (show (none : Option Text).getD [] = [] from rfl)]
    exact ⟨_, rfl, rfl⟩

/-- A task that has the lock of its board. -/
theorem advances_running (htask : s.tasks[id]? = some task)
    (hrunning : isRunning task.place = true) : Advances S s := by
  cases hplace : task.place with
  | created => rw [hplace] at hrunning; cases hrunning
  | inLine => rw [hplace] at hrunning; cases hrunning
  | done => rw [hplace] at hrunning; cases hrunning
  | uploading =>
    have hnext : next S s (.uploaded id (.error [])) = s.fails id task [] := by
      dsimp only [next]
      rw [htask]
      dsimp only
      rw [if_pos hplace]
      rfl
    refine ⟨.uploaded id (.error []), id, task, failed task task.operation.progress [], htask, ?_,
      ?_⟩
    · rw [hnext, fails_eq]
      rfl
    · rw [hplace]
      exact Nat.zero_lt_one
  | watching left =>
    have hnext : next S s (.looks id []) = s.looks S id task left [] := by
      dsimp only [next]
      rw [htask]
      dsimp only
      rw [hplace]
    have hlooks : ∃ changed, (s.looks S id task left []).tasks = s.tasks.set id changed ∧
        rank changed.place < left + 1 := by
      unfold looks
      cases hboards : boards S s.catalog [] with
      | error error => exact ⟨_, rfl, Nat.succ_pos left⟩
      | ok found =>
        dsimp only
        split_ifs with hany hleft
        · exact ⟨_, rfl, Nat.succ_pos left⟩
        · exact ⟨_, rfl, Nat.succ_pos left⟩
        · refine ⟨_, rfl, ?_⟩
          change left - 1 + 1 < left + 1
          omega
    obtain ⟨changed, htasks, hrank⟩ := hlooks
    refine ⟨.looks id [], id, task, changed, htask, by rw [hnext, htasks], ?_⟩
    rw [hplace]
    exact hrank

/-- A task that may take its turn. -/
theorem advances_turn (htask : s.tasks[id]? = some task) (hplace : task.place = .inLine)
    (hturn : (s.locks task.operation.hardwareSerial).isTurn id = true) : Advances S s := by
  have hnext : next S s (.enters id none) = (s.setLock task.operation.hardwareSerial
      (s.locks task.operation.hardwareSerial).takeTurn).runs S id task none := by
    dsimp only [next]
    rw [htask]
    dsimp only [enters]
    rw [hplace]
    dsimp only
    rw [if_pos hturn]
  obtain ⟨changed, htasks, hdone⟩ := @runs_none S (s.setLock task.operation.hardwareSerial
      (s.locks task.operation.hardwareSerial).takeTurn) id task
  exact ⟨.enters id none, id, task, changed, htask, by rw [hnext, htasks]; rfl,
    by rw [hdone, hplace]; exact Nat.zero_lt_one⟩

/-- A task that has not begun. -/
theorem advances_created (htask : s.tasks[id]? = some task) (hplace : task.place = .created) :
    Advances S s := by
  have hnext : next S s (.enters id none) = s.enters S id task none := by
    dsimp only [next]
    rw [htask]
  cases hfree : (s.locks task.operation.hardwareSerial).isFree with
  | true =>
    have henters : s.enters S id task none = (s.setLock task.operation.hardwareSerial
        (s.locks task.operation.hardwareSerial).acquire).runs S id task none := by
      dsimp only [enters]
      rw [hplace]
      dsimp only
      rw [if_pos hfree]
    obtain ⟨changed, htasks, hdone⟩ := @runs_none S (s.setLock task.operation.hardwareSerial
        (s.locks task.operation.hardwareSerial).acquire) id task
    exact ⟨.enters id none, id, task, changed, htask, by rw [hnext, henters, htasks]; rfl,
      by rw [hdone, hplace]; exact Nat.zero_lt_two⟩
  | false =>
    have henters : s.enters S id task none = (s.setLock task.operation.hardwareSerial
        ((s.locks task.operation.hardwareSerial).joinLine id)).setTask id
          { task with place := .inLine } := by
      dsimp only [enters]
      rw [hplace]
      dsimp only
      rw [hfree, if_neg Bool.false_ne_true]
    exact ⟨.enters id none, id, task, { task with place := .inLine }, htask,
      by rw [hnext, henters]; rfl, by rw [hplace]; exact Nat.one_lt_two⟩

/-- **A task that has not ended is not in the way of all.** -/
theorem advances (h : LocksServe s) (htask : s.tasks[id]? = some task)
    (hplace : task.place ≠ .done) : Advances S s := by
  cases hcase : task.place with
  | created => exact advances_created htask hcase
  | inLine =>
    have hwaits : IsAt (AwaitsLock task.operation.hardwareSerial) s.tasks id :=
      ⟨task, htask, rfl, hcase⟩
    rcases (h task.operation.hardwareSerial).moves hwaits with
      ⟨a, holder, hholder, -, hrunning⟩ | ⟨a, ⟨first, hfirst, hserial, hinLine⟩, hturn⟩
    · exact advances_running hholder hrunning
    · exact advances_turn hfirst hinLine (hserial ▸ hturn)
  | uploading => exact advances_running htask (by rw [hcase]; rfl)
  | watching left => exact advances_running htask (by rw [hcase]; rfl)
  | done => exact absurd hcase hplace

/-- **The tasks can be brought to their ends**, by induction on the steps before them. -/
theorem exists_ends (S : Settings) (n : ℕ) : ∀ s : UsbFirmwareInstaller, LocksServe s →
    totalRank s.tasks = n → ∃ later, (Runs.after (next S) s later).tasks.length = s.tasks.length ∧
      ∀ task ∈ (Runs.after (next S) s later).tasks, task.place = .done := by
  induction n using Nat.strong_induction_on with
  | _ n ih =>
    intro s h hrank
    by_cases hall : ∀ task ∈ s.tasks, task.place = .done
    · exact ⟨[], rfl, hall⟩
    · push Not at hall
      obtain ⟨task, hmem, hplace⟩ := hall
      obtain ⟨id, htask⟩ := List.mem_iff_getElem?.mp hmem
      obtain ⟨e, a, moving, changed, hmoving, htasks, hless⟩ :=
        advances (S := S) h htask hplace
      have hlower : totalRank (next S s e).tasks < n := by
        rw [htasks, ← hrank]
        exact totalRank_set_lt hmoving hless
      obtain ⟨later, hlength, hends⟩ :=
        ih _ hlower (next S s e) (locksServe_step h (step_next S s e)) rfl
      refine ⟨e :: later, ?_, hends⟩
      rw [Runs.after_cons, hlength, htasks, List.length_set]

end InstallerEnds

open Installer InstallerRuns InstallerEnds

/-- **No installation is stuck.**  After every run of the installer, the run can go on, without
another request, so that every operation is complete or has failed: no task waits for a lock that
is never released. -/
theorem installations_can_end (S : Settings) (packages : List (Text × FirmwarePackage))
    (artifact : Text → FirmwareArtifact) (events : List FirmwareEvent) :
    let s := Runs.after (next S) (fresh packages artifact) events
    ∃ later, (Runs.after (next S) s later).tasks.length = s.tasks.length ∧
      ∀ task ∈ (Runs.after (next S) s later).tasks,
        task.operation.state = .complete ∨ task.operation.state = .failed := by
  intro s
  obtain ⟨later, hlength, hends⟩ :=
    exists_ends S _ s (invariant_after packages artifact S events).locks rfl
  refine ⟨later, hlength, fun task htask => ?_⟩
  have h := invariant_after packages artifact S (events ++ later)
  rw [Runs.after_append] at h
  obtain ⟨id, hid⟩ := List.mem_iff_getElem?.mp htask
  have hagrees := (h.tells id task hid).agrees
  unfold Agrees at hagrees
  rw [hends task htask] at hagrees
  exact hagrees

end SeedMg24.Analysis
