import Mathlib.Tactic
import SeedMg24.Foundation.EventLogs
import SeedMg24.Model.CommandQueue

/-!
# Commands nobody waits for

Commands are written in the order in which they were queued, each at most once, and a caller is told
so only of a command that was written.  But nothing takes a command out of the queue when its caller
has given up, and the loop that writes the commands does not look.
-/

set_option autoImplicit false

namespace SeedMg24.Analysis

open Foundation SeedMg24.Model.DeviceCommands

namespace StaleCommands

/-! ## What is written -/

/-- The command an entry says was written. -/
def Entry.written : Entry → Option ℕ
  | .wrote id => some id
  | _ => none

/-- The commands that were written, oldest first. -/
def written (log : List Entry) : List ℕ := log.filterMap Entry.written

theorem written_snoc (log : List Entry) (entry : Entry) :
    written (log ++ [entry]) = written log ++ (Entry.written entry).toList := by
  unfold written
  rw [List.filterMap_append, List.filterMap_cons, List.filterMap_nil]
  cases Entry.written entry <;> rfl

/-- Entries other than the first write do not count. -/
theorem count_wrote (log : List Entry) (id : ℕ) :
    log.count (.wrote id) = (written log).count id := by
  induction log with
  | nil => rfl
  | cons entry log ih =>
    rw [List.count_cons, ih]
    cases entry with
    | wrote other =>
      show _ = (other :: written log).count id
      rw [List.count_cons]
      simp
    | returned other =>
      show _ = (written log).count id
      simp
    | raised other =>
      show _ = (written log).count id
      simp

/-! ## The claim and its condition -/

/-- A command whose caller was told of a failure is not written afterwards, one whose caller was
told of a success was written once, and commands are written in the order in which they were
queued. -/
structure IsOrderly (s : CommandQueue) : Prop where
  neverStale : ∀ id, NeverAfter (.raised id) (.wrote id) s.log
  once : ∀ id, .returned id ∈ s.log → s.log.count (.wrote id) = 1
  ordered : (written s.log).Pairwise (· < ·)

/-- The command that comes next, if it can be written. -/
def head (s : CommandQueue) : Option ℕ :=
  match s.commands with
  | [] => none
  | (id, command) :: _ => if CommandQueue.isAscii command then some id else none

/-- The command the loop takes from the queue and writes in a step of the task. -/
def pulls (s : CommandQueue) : Event → Option ℕ
  | .polls => match s.point with
    | .polling => if s.polling then head s else none
    | _ => none
  | .writeEnds true => match s.point with
    | .writing _ => head s
    | _ => none
  | _ => none

def takes (s : CommandQueue) (event : Event) : Option ℕ :=
  if s.cancelling then none else pulls s event

/-- The caller of a command the loop takes from the queue has not been told of a failure. -/
def TakesLive (s : CommandQueue) (event : Event) : Prop :=
  ∀ id, takes s event = some id → .raised id ∉ s.log

/-! ## The invariant -/

/-- What the writes, the queue and the futures have to do with each other. -/
structure Sound (point : TaskPoint) (futures : List FutureState) (commands : List (ℕ × Text))
    (log : List Entry) : Prop where
  order : (written log ++ commands.map Prod.fst).Pairwise (· < ·)
  bound : ∀ id ∈ written log ++ commands.map Prod.fst, id < futures.length
  writing : ∀ id, point = .writing id → id ∈ written log
  resolved : ∀ id, futures[id]? = some .result → id ∈ written log
  returned : ∀ id, .returned id ∈ log → futures[id]? = some .result

def IsSound (s : CommandQueue) : Prop := Sound s.point s.futures s.commands s.log

theorem Sound.moved {point after : TaskPoint} {futures : List FutureState}
    {commands : List (ℕ × Text)} {log : List Entry} (h : Sound point futures commands log)
    (hafter : ∀ id, after ≠ .writing id) : Sound after futures commands log :=
  { h with writing := fun id hid => absurd hid (hafter id) }

theorem Sound.dropped {point : TaskPoint} {futures : List FutureState}
    {commands rest : List (ℕ × Text)} {log : List Entry} (h : Sound point futures commands log)
    (hrest : rest.Sublist commands) : Sound point futures rest log :=
  { h with
    order := h.order.sublist ((List.Sublist.refl _).append (hrest.map Prod.fst))
    bound := fun id hid =>
      h.bound id (((List.Sublist.refl _).append (hrest.map Prod.fst)).subset hid) }

/-! ## What the operations do to it -/

/-- A future that gets a result is that of a command that was written. -/
theorem IsSound.settle {s : CommandQueue} (h : IsSound s) (id : ℕ) {outcome : FutureState}
    (houtcome : outcome = .result → id ∈ written s.log) : IsSound (s.settle id outcome) := by
  have hget : ∀ k, (s.settle id outcome).futures[k]? =
      (fun future => if id = k then if future = .pending then outcome else future else future) <$>
        s.futures[k]? := fun k => List.getElem?_modify ..
  refine ⟨h.order, fun k hk => ?_, h.writing, fun k hk => ?_, fun k hk => ?_⟩
  · show k < (s.futures.modify id _).length
    rw [List.length_modify]
    exact h.bound k hk
  · rw [hget] at hk
    obtain ⟨future, hfuture, hresult⟩ := Option.map_eq_some_iff.mp hk
    split_ifs at hresult with hsame hpending
    · exact hsame ▸ houtcome hresult
    · exact h.resolved k (hresult ▸ hfuture)
    · exact h.resolved k (hresult ▸ hfuture)
  · rw [hget, h.returned k hk]
    simp

/-- The first command of the queue is written, or is dropped. -/
theorem IsSound.drainCommands {s : CommandQueue} (h : IsSound s) : IsSound s.drainCommands := by
  unfold CommandQueue.drainCommands
  cases hcommands : s.commands with
  | nil =>
    have hmoved : Sound .polling s.futures s.commands s.log :=
      Sound.moved h fun id hid => by cases hid
    rw [hcommands] at hmoved
    exact hmoved
  | cons first rest =>
    obtain ⟨id, command⟩ := first
    have hrest : List.Sublist rest s.commands := hcommands ▸ List.sublist_cons_self _ _
    by_cases hascii : CommandQueue.isAscii command = true
    · have hwritten : written (s.log ++ [.wrote id]) = written s.log ++ [id] := written_snoc _ _
      have hsame : written (s.log ++ [.wrote id]) ++ rest.map Prod.fst =
          written s.log ++ s.commands.map Prod.fst := by
        rw [hwritten, hcommands, List.append_assoc, List.map_cons, List.singleton_append]
      simp only [hascii, if_true]
      refine ⟨hsame ▸ h.order, fun k hk => h.bound k (hsame ▸ hk), fun k hk => ?_, fun k hk => ?_,
        fun k hk => ?_⟩
      · obtain rfl := TaskPoint.writing.inj hk
        rw [hwritten]
        exact List.mem_append_right _ (List.mem_singleton_self _)
      · rw [hwritten]
        exact List.mem_append_left _ (h.resolved k hk)
      · rcases List.mem_append.mp hk with hk | hk
        · exact h.returned k hk
        · cases List.mem_singleton.mp hk
    · simp only [hascii]
      have hsettled : IsSound (s.settle id .exception) :=
        h.settle id fun hresult => by cases hresult
      exact (Sound.dropped hsettled hrest).moved fun id hid => by cases hid

theorem IsSound.flush {s : CommandQueue} (h : IsSound s) : IsSound s.flush := by
  have hfold : ∀ (commands : List (ℕ × Text)) (s : CommandQueue), IsSound s →
      IsSound (commands.foldl (fun s command => s.settle command.1 .exception) s) := by
    intro commands
    induction commands with
    | nil => exact fun s hs => hs
    | cons command commands ih =>
      exact fun s hs => ih _ (hs.settle command.1 fun hresult => by cases hresult)
  exact Sound.dropped (hfold s.commands s h) (List.nil_sublist _)

/-- An answer says that the command was written only if its future has a result. -/
theorem IsSound.answer {s : CommandQueue} (h : IsSound s) (id : ℕ) {entry : Entry}
    (hwrote : ∀ k, entry ≠ .wrote k)
    (hreturned : ∀ k, entry = .returned k → s.futures[k]? = some .result) :
    IsSound (s.answer id entry) := by
  have hwritten : written (s.log ++ [entry]) = written s.log := by
    rw [written_snoc]
    cases entry with
    | wrote k => exact absurd rfl (hwrote k)
    | returned k => exact List.append_nil _
    | raised k => exact List.append_nil _
  have horder := h.order
  have hbound := h.bound
  rw [← hwritten] at horder hbound
  refine ⟨horder, hbound, fun k hk => ?_, fun k hk => ?_, fun k hk => ?_⟩
  · exact hwritten.symm ▸ h.writing k hk
  · exact hwritten.symm ▸ h.resolved k hk
  · rcases List.mem_append.mp hk with hk | hk
    · exact h.returned k hk
    · exact hreturned k (List.mem_singleton.mp hk).symm

theorem IsSound.resume {s : CommandQueue} (h : IsSound s) (id : ℕ) (late : Bool) :
    IsSound (s.resume id late) := by
  unfold CommandQueue.resume
  by_cases hid : id ∈ s.awaiting
  · rw [if_pos hid]
    cases hfuture : s.futures[id]? with
    | none => exact h
    | some future =>
      cases future with
      | pending => exact h
      | result =>
        cases late with
        | false =>
          exact h.answer id (fun k hk => by cases hk) fun k hk => Entry.returned.inj hk ▸ hfuture
        | true => exact h.answer id (fun k hk => by cases hk) fun k hk => by cases hk
      | exception => exact h.answer id (fun k hk => by cases hk) fun k hk => by cases hk
      | cancelled => exact h.answer id (fun k hk => by cases hk) fun k hk => by cases hk
  · rw [if_neg hid]
    exact h

/-- A new command comes behind all others. -/
theorem IsSound.sendCommand {s : CommandQueue} (h : IsSound s) (command : Text) :
    IsSound (s.sendCommand command) := by
  unfold CommandQueue.sendCommand
  split_ifs
  · have hsame : written s.log ++ (s.commands ++ [(s.futures.length, command)]).map Prod.fst =
        (written s.log ++ s.commands.map Prod.fst) ++ [s.futures.length] := by
      rw [List.map_append, List.append_assoc, List.map_singleton]
    refine ⟨?_, fun k hk => ?_, h.writing, fun k hk => ?_, fun k hk => ?_⟩
    · rw [hsame]
      refine List.pairwise_append.mpr ⟨h.order, List.pairwise_singleton _ _, ?_⟩
      intro k hk last hlast
      rw [List.mem_singleton.mp hlast]
      exact h.bound k hk
    · rw [hsame] at hk
      rw [List.length_append, List.length_singleton]
      rcases List.mem_append.mp hk with hk | hk
      · exact Nat.lt_succ_of_lt (h.bound k hk)
      · exact List.mem_singleton.mp hk ▸ Nat.lt_succ_self _
    · rw [List.getElem?_append] at hk
      split_ifs at hk with hlt
      · exact h.resolved k hk
      · have hnew := List.mem_of_getElem? hk
        cases List.mem_singleton.mp hnew
    · have hold := h.returned k hk
      rw [List.getElem?_append_left (List.getElem?_eq_some_iff.mp hold).1]
      exact hold
  · exact h

theorem IsSound.taskStep {s : CommandQueue} (h : IsSound s) (event : Event) :
    IsSound (s.taskStep event) := by
  cases event with
  | runs =>
    simp only [CommandQueue.taskStep]
    split
    · split_ifs
      · exact Sound.moved h fun id hid => by cases hid
      · exact Sound.moved h fun id hid => by cases hid
    · exact h
  | connects =>
    simp only [CommandQueue.taskStep]
    split
    · exact Sound.moved h fun id hid => by cases hid
    · exact h
  | fails =>
    simp only [CommandQueue.taskStep]
    split
    · exact Sound.moved h fun id hid => by cases hid
    · exact Sound.moved h fun id hid => by cases hid
    · exact Sound.moved h fun id hid => by cases hid
    · exact Sound.moved h fun id hid => by cases hid
    · exact h
  | polls =>
    simp only [CommandQueue.taskStep]
    split
    · split_ifs
      · exact h.drainCommands
      · exact Sound.moved h fun id hid => by cases hid
    · exact h
  | writeEnds succeeds =>
    simp only [CommandQueue.taskStep]
    split
    · rename_i id hpoint
      split_ifs
      · exact (h.settle id fun _ => h.writing id hpoint).drainCommands
      · exact Sound.moved (h.settle id fun hresult => by cases hresult) fun k hk => by cases hk
    · exact h
  | closes =>
    simp only [CommandQueue.taskStep]
    split
    · split_ifs
      · exact Sound.moved h fun id hid => by cases hid
      · exact Sound.moved h fun id hid => by cases hid
    · exact Sound.moved h fun id hid => by cases hid
    · exact Sound.moved h fun id hid => by cases hid
    · exact h
  | _ => exact h

theorem IsSound.notice {s : CommandQueue} (h : IsSound s) : IsSound s.notice := by
  unfold CommandQueue.notice
  split
  · exact Sound.moved (h.settle _ fun hresult => by cases hresult) fun id hid => by cases hid
  · exact h
  · exact Sound.moved h fun id hid => by cases hid
  · exact Sound.moved h fun id hid => by cases hid

/-- A task that was cancelled takes no other step. -/
theorem IsSound.unlessCancelled {s : CommandQueue} (h : IsSound s) (event : Event) :
    IsSound (if s.cancelling then s else s.taskStep event) := by
  split_ifs
  · exact h
  · exact h.taskStep event

/-- **Every event keeps it.** -/
theorem IsSound.next {s : CommandQueue} (h : IsSound s) (event : Event) :
    IsSound (CommandQueue.next s event) := by
  cases event with
  | start =>
    simp only [CommandQueue.next]
    split_ifs
    · exact Sound.moved h fun id hid => by cases hid
    · exact h
  | sendCommand command => exact h.sendCommand command
  | expires id =>
    simp only [CommandQueue.next]
    split_ifs
    · exact h.settle id fun hresult => by cases hresult
    · exact h
  | resumes id late => exact h.resume id late
  | onDisconnect => exact h
  | disconnect => exact h
  | cancelled =>
    simp only [CommandQueue.next]
    split_ifs
    · exact h.notice
    · exact h
  | stopBegins =>
    simp only [CommandQueue.next]
    split_ifs
    · exact h.flush
    · exact h
  | stopEnds index =>
    simp only [CommandQueue.next]
    split
    · split_ifs
      · exact h.flush
      · exact h
    · exact h
  | runs => exact h.unlessCancelled .runs
  | connects => exact h.unlessCancelled .connects
  | fails => exact h.unlessCancelled .fails
  | polls => exact h.unlessCancelled .polls
  | writeEnds succeeds => exact h.unlessCancelled (.writeEnds succeeds)
  | closes => exact h.unlessCancelled .closes

/-! ## What an event adds to the log -/

/-- The log after an event that takes a command from the queue, or takes none. -/
inductive LogStep (log : List Entry) : Option ℕ → List Entry → Prop where
  | silent : LogStep log none log
  | wrote (id : ℕ) : LogStep log (some id) (log ++ [.wrote id])
  | returned (id : ℕ) : LogStep log none (log ++ [.returned id])
  | raised (id : ℕ) : LogStep log none (log ++ [.raised id])

theorem logStep_drainCommands (s : CommandQueue) :
    LogStep s.log (head s) s.drainCommands.log := by
  unfold CommandQueue.drainCommands head
  cases s.commands with
  | nil => exact .silent
  | cons first rest =>
    obtain ⟨id, command⟩ := first
    by_cases hascii : CommandQueue.isAscii command = true
    · simp only [hascii, if_true]
      exact .wrote id
    · simp only [hascii]
      exact .silent

theorem log_flush (s : CommandQueue) : s.flush.log = s.log := by
  have hfold : ∀ (commands : List (ℕ × Text)) (s : CommandQueue),
      (commands.foldl (fun s command => s.settle command.1 .exception) s).log = s.log := by
    intro commands
    induction commands with
    | nil => exact fun s => rfl
    | cons command commands ih => exact fun s => ih _
  exact hfold s.commands s

theorem logStep_resume (s : CommandQueue) (id : ℕ) (late : Bool) :
    LogStep s.log none (s.resume id late).log := by
  unfold CommandQueue.resume
  by_cases hid : id ∈ s.awaiting
  · rw [if_pos hid]
    cases s.futures[id]? with
    | none => exact .silent
    | some future =>
      cases future with
      | pending => exact .silent
      | result =>
        cases late with
        | false => exact .returned id
        | true => exact .raised id
      | exception => exact .raised id
      | cancelled => exact .raised id
  · rw [if_neg hid]
    exact .silent

theorem logStep_taskStep (s : CommandQueue) (event : Event) :
    LogStep s.log (pulls s event) (s.taskStep event).log := by
  cases event with
  | polls =>
    simp only [CommandQueue.taskStep, pulls]
    cases s.point with
    | polling =>
      cases s.polling with
      | true => exact logStep_drainCommands s
      | false => exact .silent
    | _ => exact .silent
  | writeEnds succeeds =>
    cases succeeds with
    | true =>
      simp only [CommandQueue.taskStep, pulls]
      cases s.point with
      | writing id => exact logStep_drainCommands (s.settle id .result)
      | _ => exact .silent
    | false =>
      simp only [CommandQueue.taskStep, pulls]
      cases s.point <;> exact .silent
  | runs =>
    simp only [CommandQueue.taskStep, pulls]
    split
    · split_ifs <;> exact .silent
    · exact .silent
  | closes =>
    simp only [CommandQueue.taskStep, pulls]
    split
    · split_ifs <;> exact .silent
    all_goals exact .silent
  | connects =>
    simp only [CommandQueue.taskStep, pulls]
    split <;> exact .silent
  | fails =>
    simp only [CommandQueue.taskStep, pulls]
    split <;> exact .silent
  | _ => exact .silent

theorem logStep_unlessCancelled (s : CommandQueue) (event : Event) :
    LogStep s.log (takes s event) (if s.cancelling then s else s.taskStep event).log := by
  unfold takes
  cases s.cancelling with
  | true => exact .silent
  | false => exact logStep_taskStep s event

/-- What is not a step of the task takes no command. -/
theorem takes_eq_none {s : CommandQueue} {event : Event} (h : pulls s event = none) :
    takes s event = none := by
  unfold takes
  split_ifs
  · rfl
  · exact h

/-- **One event writes at most the command it takes.** -/
theorem logStep_next (s : CommandQueue) (event : Event) :
    LogStep s.log (takes s event) (CommandQueue.next s event).log := by
  cases event with
  | runs => exact logStep_unlessCancelled s .runs
  | connects => exact logStep_unlessCancelled s .connects
  | fails => exact logStep_unlessCancelled s .fails
  | polls => exact logStep_unlessCancelled s .polls
  | writeEnds succeeds => exact logStep_unlessCancelled s (.writeEnds succeeds)
  | closes => exact logStep_unlessCancelled s .closes
  | resumes id late =>
    rw [takes_eq_none rfl]
    exact logStep_resume s id late
  | start =>
    rw [takes_eq_none rfl]
    simp only [CommandQueue.next]
    split_ifs <;> exact .silent
  | sendCommand command =>
    rw [takes_eq_none rfl]
    simp only [CommandQueue.next, CommandQueue.sendCommand]
    split_ifs <;> exact .silent
  | expires id =>
    rw [takes_eq_none rfl]
    simp only [CommandQueue.next]
    split_ifs <;> exact .silent
  | onDisconnect =>
    rw [takes_eq_none rfl]
    exact .silent
  | disconnect =>
    rw [takes_eq_none rfl]
    exact .silent
  | cancelled =>
    rw [takes_eq_none rfl]
    simp only [CommandQueue.next, CommandQueue.notice]
    split_ifs
    · split <;> exact .silent
    · exact .silent
  | stopBegins =>
    rw [takes_eq_none rfl]
    simp only [CommandQueue.next]
    split_ifs
    · exact (log_flush s).symm ▸ .silent
    · exact .silent
  | stopEnds index =>
    rw [takes_eq_none rfl]
    simp only [CommandQueue.next]
    split
    · split_ifs
      · exact (log_flush s).symm ▸ .silent
      · exact .silent
    · exact .silent

/-! ## The property and its condition -/

theorem IsSound.ordered {s : CommandQueue} (h : IsSound s) : (written s.log).Pairwise (· < ·) :=
  h.order.sublist (List.sublist_append_left _ _)

/-- A command is written once if its caller is told of a success. -/
theorem IsSound.once {s : CommandQueue} (h : IsSound s) (id : ℕ)
    (hreturned : .returned id ∈ s.log) : s.log.count (.wrote id) = 1 := by
  have hmem : id ∈ written s.log := h.resolved id (h.returned id hreturned)
  have hnodup : (written s.log).Nodup := h.ordered.imp fun hlt => Nat.ne_of_lt hlt
  rw [count_wrote]
  exact List.count_eq_one_of_mem hnodup hmem

/-- **One event keeps the property exactly when the command it takes is one whose caller has not
been told of a failure.** -/
theorem isOrderly_next_iff {s : CommandQueue} (hsound : IsSound s) (h : IsOrderly s)
    (event : Event) :
    IsOrderly (CommandQueue.next s event) ↔ TakesLive s event := by
  have hnext := hsound.next event
  have hstale : IsOrderly (CommandQueue.next s event) ↔
      ∀ id, NeverAfter (.raised id) (.wrote id) (CommandQueue.next s event).log :=
    ⟨fun horderly => horderly.neverStale, fun hstale => ⟨hstale, hnext.once, hnext.ordered⟩⟩
  rw [hstale]
  unfold TakesLive
  have hlog := logStep_next s event
  generalize takes s event = taken at hlog ⊢
  generalize (CommandQueue.next s event).log = log at hlog ⊢
  cases hlog with
  | silent => exact ⟨fun _ id hid => (Option.some_ne_none id hid.symm).elim, fun _ => h.neverStale⟩
  | wrote written =>
    constructor
    · intro hnever id hid
      obtain rfl := Option.some.inj hid
      exact (neverAfter_snoc.mp (hnever _)).2 rfl
    · intro hlive id
      refine neverAfter_snoc.mpr ⟨h.neverStale id, fun hsame => ?_⟩
      exact hlive id (congrArg some (Entry.wrote.inj hsame))
  | returned told =>
    refine ⟨fun _ id hid => (Option.some_ne_none id hid.symm).elim, fun _ id => ?_⟩
    exact neverAfter_snoc.mpr ⟨h.neverStale id, fun hsame => by cases hsame⟩
  | raised told =>
    refine ⟨fun _ id hid => (Option.some_ne_none id hid.symm).elim, fun _ id => ?_⟩
    exact neverAfter_snoc.mpr ⟨h.neverStale id, fun hsame => by cases hsame⟩

end StaleCommands

end SeedMg24.Analysis
