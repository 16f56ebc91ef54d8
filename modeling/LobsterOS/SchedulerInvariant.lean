import LobsterOS.SchedulerSwap

/-! The scheduler's invariant over whole runs: at most one RUNNING task, at `current_task`, and
fresh pids; from there no call panics on a task that falsely claims to run. -/

namespace LobsterOS.Scheduler

variable {P : Type}

structure SchedInv (s : Scheduler P) : Prop where
  running : RunningAtCurrent s
  pids : PidsFresh s

theorem runningAtCurrent_setState {s : Scheduler P} (h : RunningAtCurrent s) (i : Nat)
    {st : TaskState} (hst : st ≠ .RUNNING) :
    RunningAtCurrent { s with tasks := setState s.tasks i st } := by
  intro j t hj hrun
  rcases running_of_setState hj hrun with ⟨-, hr⟩ | ⟨-, ht0⟩
  · exact absurd hr hst
  · exact h j t ht0 hrun

/-- The swap at the end of `tick`, `block_current` and `end_current_task` starts from a
queue where the current task was just overwritten with a state other than RUNNING. -/
theorem swapTasks_setState_ok {s s' : Scheduler P} {fuel : Nat} {act : Option Nat}
    (hi : SchedInv s) {st : TaskState} (hst : st ≠ .RUNNING) (ticks : Nat)
    (h : swapTasks fuel
      { s with
        currentTaskTicks := ticks
        tasks := setState s.tasks s.currentTask st } = some (.ok (s', act))) : SchedInv s' := by
  have hp : PidsFresh
      { s with
        currentTaskTicks := ticks
        tasks := setState s.tasks s.currentTask st } :=
    ⟨(pidsFresh_setState hi.pids s.currentTask st).nodup,
      (pidsFresh_setState hi.pids s.currentTask st).le_next⟩
  obtain ⟨hr', hp'⟩ := swapTasks_ok (noneRunning_setState hi.running hst) hp h
  exact ⟨hr', hp'⟩

theorem swapTasks_setState_error {s : Scheduler P} {fuel : Nat} {e : String}
    (hi : SchedInv s) {st : TaskState} (hst : st ≠ .RUNNING) (ticks : Nat)
    (h : swapTasks fuel
      { s with
        currentTaskTicks := ticks
        tasks := setState s.tasks s.currentTask st } = some (.error e)) : ScanPanic e :=
  swapTasks_error (noneRunning_setState hi.running hst) h

theorem pushTask_inv {s s' : Scheduler P} {p : P} {pid : Nat} (hi : SchedInv s)
    (h : pushTask p s = .ok (s', pid)) : SchedInv s' := by
  simp only [pushTask] at h
  split at h
  · cases h
  split at h
  · cases h
  cases h
  have hfresh : s.nextTaskId+1 ∉ s.tasks.map Task.pid := by
    intro hm
    obtain ⟨t, ht, he⟩ := List.mem_map.mp hm
    have := hi.pids.le_next t ht
    omega
  refine ⟨?_, ?_, ?_⟩
  · intro j t hj hrun
    rw [List.getElem?_append] at hj
    split at hj
    · exact hi.running j t hj hrun
    · rw [List.mem_singleton.mp (List.mem_of_getElem? hj)] at hrun
      cases hrun
  · rw [List.map_append, List.nodup_append]
    refine ⟨hi.pids.nodup, by simp, ?_⟩
    intro a ha b hb hab
    simp only [List.map_cons, List.map_nil, List.mem_singleton] at hb
    rw [hab, hb] at ha
    exact hfresh ha
  · intro t ht
    rcases List.mem_append.mp ht with ht | ht
    · have := hi.pids.le_next t ht
      simp only
      omega
    · simp only [List.mem_singleton] at ht
      subst ht
      simp only
      omega

theorem endTask_inv {s s' : Scheduler P} {pid : Nat} (hi : SchedInv s)
    (h : endTask pid s = .ok s') : SchedInv s' := by
  unfold endTask at h
  split at h
  · rename_i i _
    cases h
    exact ⟨runningAtCurrent_setState hi.running i (by decide), pidsFresh_setState hi.pids i _⟩
  · cases h

/-- Every call that comes back keeps the invariant. -/
theorem exec_inv {s s' : Scheduler P} {fuel : Nat} {op : Op P} {act : Option Nat}
    (hi : SchedInv s) (h : exec fuel op s = some (.ok (s', act))) : SchedInv s' := by
  cases op with
  | pushTask p =>
    simp only [exec] at h
    cases hp : pushTask p s with
    | error e => rw [hp] at h; cases h
    | ok r =>
      rw [hp] at h
      cases h
      exact pushTask_inv hi hp
  | enable =>
    cases h
    exact ⟨hi.running, hi.pids.nodup, hi.pids.le_next⟩
  | tick =>
    simp only [exec, tick] at h
    split at h
    · cases h
      exact hi
    split at h
    · cases h
    split at h
    · exact swapTasks_setState_ok hi (by decide) _ h
    · cases h
      exact ⟨hi.running, hi.pids.nodup, hi.pids.le_next⟩
  | blockCurrent =>
    simp only [exec, blockCurrent] at h
    exact swapTasks_setState_ok hi (by decide) s.currentTaskTicks h
  | endTask pid =>
    simp only [exec] at h
    split at h
    · cases h
      exact endTask_inv hi ‹_›
    · cases h
      exact hi
  | endCurrentTask =>
    simp only [exec, endCurrentTask] at h
    split at h
    · cases h
    · exact swapTasks_setState_ok hi (by decide) s.currentTaskTicks h

/-- The messages a call can panic with from an invariant state. -/
theorem exec_error {s : Scheduler P} {fuel : Nat} {op : Op P} {e : String}
    (hi : SchedInv s) (h : exec fuel op s = some (.error e)) :
    ScanPanic e ∨ e = "failed to get current task" := by
  cases op with
  | pushTask p =>
    simp only [exec, pushTask] at h
    split at h
    · cases h
      exact .inl (.inl rfl)
    split at h
    · cases h
      exact .inl (.inl rfl)
    · cases h
  | enable => cases h
  | tick =>
    simp only [exec, tick] at h
    split at h
    · cases h
    split at h
    · cases h
      exact .inl (.inl rfl)
    split at h
    · exact .inl (swapTasks_setState_error hi (by decide) _ h)
    · cases h
  | blockCurrent =>
    simp only [exec, blockCurrent] at h
    exact .inl (swapTasks_setState_error hi (by decide) s.currentTaskTicks h)
  | endTask pid =>
    simp only [exec] at h
    split at h <;> cases h
  | endCurrentTask =>
    simp only [exec, endCurrentTask] at h
    split at h
    · cases h
      exact .inr rfl
    · exact .inl (swapTasks_setState_error hi (by decide) s.currentTaskTicks h)

theorem schedInv_scheduler : SchedInv (scheduler : Scheduler P) where
  running j t hj := by simp [scheduler] at hj
  pids := ⟨List.nodup_nil, fun t ht => by simp [scheduler] at ht⟩

theorem schedInv_of_reachable {s : Scheduler P} (h : Reachable s) : SchedInv s :=
  LobsterOS.Reachable.invariant SchedInv schedInv_scheduler
    (fun _ _ hi ⟨_, _, _, hs⟩ => exec_inv hi hs) h

/-- In every reachable state at most one task is RUNNING, and only at `current_task`; the
pids are distinct and none is past `next_task_id`; no call panics with "Process falsely
claims to be running"; and while a task runs, `end_current_task` finds it. -/
theorem reachable_scheduler_safe {s : Scheduler P} (h : Reachable s) :
    (∀ (i j : Nat) (t t' : Task P), s.tasks[i]? = some t → s.tasks[j]? = some t' → t.state = .RUNNING →
      t'.state = .RUNNING → i = j) ∧
    (∀ (i : Nat) (t : Task P), s.tasks[i]? = some t → t.state = .RUNNING →
      i = s.currentTask ∧ s.currentTask < s.tasks.length) ∧
    (s.tasks.map Task.pid).Nodup ∧ (∀ t ∈ s.tasks, t.pid ≤ s.nextTaskId) ∧
    (∀ fuel op, exec fuel op s ≠ some (.error "Process falsely claims to be running")) ∧
    ((∃ t ∈ s.tasks, t.state = .RUNNING) →
      ∀ fuel, endCurrentTask fuel s ≠ some (.error "failed to get current task")) := by
  have hi := schedInv_of_reachable h
  refine ⟨?_, ?_, hi.pids.nodup, hi.pids.le_next, ?_, ?_⟩
  · intro i j t t' hi' hj' hr hr'
    rw [hi.running i t hi' hr, hi.running j t' hj' hr']
  · intro i t hi' hr
    refine ⟨hi.running i t hi' hr, ?_⟩
    rw [← hi.running i t hi' hr]
    exact (List.getElem?_eq_some_iff.mp hi').1
  · intro fuel op he
    rcases exec_error hi he with (he | he) | he <;> simp at he
  · rintro ⟨t, ht, hr⟩ fuel he
    obtain ⟨i, hlt, rfl⟩ := List.getElem_of_mem ht
    have hc := hi.running i _ (List.getElem?_eq_getElem hlt) hr
    subst hc
    simp only [endCurrentTask, List.getElem?_eq_getElem hlt] at he
    have hd : TaskState.DONE ≠ .RUNNING := by decide
    rcases swapTasks_setState_error hi hd s.currentTaskTicks he with he | he <;> simp at he

theorem reachable_run {s s' : Scheduler P} {fuel : Nat} {ops : List (Op P)}
    {acts : List (Option Nat)} (h : Reachable s) (hr : run fuel ops s = some (.ok (s', acts))) :
    Reachable s' := by
  induction ops generalizing s acts with
  | nil =>
    cases hr
    exact h
  | cons op ops ih =>
    simp only [run] at hr
    split at hr
    · rename_i s₁ act hex
      obtain ⟨r, hr', he⟩ := Option.map_eq_some_iff.mp hr
      cases r with
      | error e => cases he
      | ok r => exact ih (h.tail ⟨op, act, fuel, hex⟩) (by cases he; exact hr')
    · cases hr
    · cases hr

/-- The witness: after `push_task`, `enable` and a full quantum of ticks the shell runs. -/
theorem reachable_scheduler_safe_after_first_quantum :
    Reachable (⟨[⟨.RUNNING, (), 1⟩], 0, 2, 0, true⟩ : Scheduler Unit) ∧
    (∀ (i j : Nat) (t t' : Task Unit), [⟨.RUNNING, (), 1⟩][i]? = some t →
      [(⟨.RUNNING, (), 1⟩ : Task Unit)][j]? = some t' → t.state = .RUNNING →
      t'.state = .RUNNING → i = j) ∧
    (∀ (i : Nat) (t : Task Unit), [⟨.RUNNING, (), 1⟩][i]? = some t → t.state = .RUNNING →
      i = 0 ∧ 0 < [(⟨.RUNNING, (), 1⟩ : Task Unit)].length) ∧
    ([(⟨.RUNNING, (), 1⟩ : Task Unit)].map Task.pid).Nodup ∧
    (∀ t ∈ [(⟨.RUNNING, (), 1⟩ : Task Unit)], t.pid ≤ 2) ∧
    (∀ fuel op, exec fuel op (⟨[⟨.RUNNING, (), 1⟩], 0, 2, 0, true⟩ : Scheduler Unit) ≠
      some (.error "Process falsely claims to be running")) ∧
    ((∃ t ∈ [(⟨.RUNNING, (), 1⟩ : Task Unit)], t.state = .RUNNING) →
      ∀ fuel, endCurrentTask fuel (⟨[⟨.RUNNING, (), 1⟩], 0, 2, 0, true⟩ : Scheduler Unit) ≠
        some (.error "failed to get current task")) := by
  -- the operations are written with their constructors' full names, which elaborate at once
  -- in a chain of appends
  have hr : run 1 ([Op.pushTask (), Op.enable] ++ List.replicate 20 Op.tick) scheduler =
      some (.ok ((⟨[⟨.RUNNING, (), 1⟩], 0, 2, 0, true⟩ : Scheduler Unit),
        List.replicate 21 none ++ [some 1])) := rfl
  have h := reachable_run LobsterOS.Reachable.refl hr
  exact ⟨h, reachable_scheduler_safe h⟩

/-! ### A killed task comes back -/

/-- At a quantum expiry `tick` writes READY over the current task whatever state it is in,
and when it is the only task the scan picks it again: a task that `end_task` marked DONE
while it ran is set RUNNING and activated. -/
theorem tick_runs_lone_current_task {s : Scheduler P} {t : Task P} (he : s.isEnabled = true)
    (ht : s.currentTaskTicks+1 = quantum) (hq : s.tasks = [t]) (hc : s.currentTask = 0) :
    tick 1 s = some (.ok ({ s with tasks := [{ t with state := .RUNNING }], currentTaskTicks := 0 },
      some t.pid)) := by
  have h19 : s.currentTaskTicks = 19 := by
    simp only [quantum] at ht
    omega
  simp [tick, he, h19, hq, hc, quantum, u32Max, swapTasks, getNextTask, setState, loop,
    getNextTaskBody, usizeMax]

/-- `push_task`, `enable`, a quantum of ticks, then `end_task(1)` marks the running shell
DONE; a second quantum of ticks sets it RUNNING again and activates it. -/
theorem end_task_then_quantum_revives :
    run 1 ([.pushTask (), .enable] ++ List.replicate 20 .tick ++ [.endTask 1]) scheduler =
      some (.ok (⟨[⟨.DONE, (), 1⟩], 0, 2, 0, true⟩, List.replicate 21 none ++ [some 1, none])) ∧
    run 1 (List.replicate 20 .tick) (⟨[⟨.DONE, (), 1⟩], 0, 2, 0, true⟩ : Scheduler Unit) =
      some (.ok (⟨[⟨.RUNNING, (), 1⟩], 0, 2, 0, true⟩, List.replicate 19 none ++ [some 1])) := by
  refine ⟨rfl, ?_⟩
  -- nineteen ticks only count, and the twentieth swaps the lone DONE task back in
  have hcount := run_ticks_of_lt_quantum 1 19
    (s := (⟨[⟨.DONE, (), 1⟩], 0, 2, 0, true⟩ : Scheduler Unit)) rfl (by decide)
  have hlast : exec 1 .tick (⟨[⟨.DONE, (), 1⟩], 19, 2, 0, true⟩ : Scheduler Unit) =
      some (.ok (⟨[⟨.RUNNING, (), 1⟩], 0, 2, 0, true⟩, some 1)) :=
    tick_runs_lone_current_task (s := ⟨[⟨.DONE, (), 1⟩], 19, 2, 0, true⟩) (t := ⟨.DONE, (), 1⟩)
      rfl rfl rfl rfl
  rw [run_eq_runSteps] at hcount ⊢
  rw [List.replicate_succ', runSteps_append_ok hcount (runSteps_cons_ok hlast rfl)]

end LobsterOS.Scheduler
