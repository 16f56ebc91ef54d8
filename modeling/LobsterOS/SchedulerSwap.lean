import LobsterOS.Scheduler

/-! What one pass of `get_next_task` can do, and from it what the scan, `swap_tasks` and the ticks
of a quantum leave behind. -/

namespace LobsterOS.Scheduler

variable {P : Type}

/-- No task of the queue claims to be RUNNING. -/
def NoneRunning (tasks : List (Task P)) : Prop := ∀ t ∈ tasks, t.state ≠ .RUNNING

/-- A RUNNING task can only sit at `current_task`. -/
def RunningAtCurrent (s : Scheduler P) : Prop :=
  ∀ j t, s.tasks[j]? = some t → t.state = .RUNNING → j = s.currentTask

/-- The pids of the queue are pairwise distinct and none is past `next_task_id`. -/
structure PidsFresh (s : Scheduler P) : Prop where
  nodup : (s.tasks.map Task.pid).Nodup
  le_next : ∀ t ∈ s.tasks, t.pid ≤ s.nextTaskId

/-- The messages a scan can panic with when no task claims to be running. -/
def ScanPanic (e : String) : Prop :=
  e = "attempt to add with overflow" ∨ e = "attempt to subtract with overflow"

theorem noneRunning_of_sublist {l l' : List (Task P)} (hs : l.Sublist l') (h : NoneRunning l') :
    NoneRunning l :=
  fun t ht => h t (hs.subset ht)

/-- A RUNNING task after `setState` was either written RUNNING there, or sat at the same
place before. -/
theorem running_of_setState {tasks : List (Task P)} {i j : Nat} {st : TaskState} {t : Task P}
    (hj : (setState tasks i st)[j]? = some t) (hr : t.state = .RUNNING) :
    (i = j ∧ st = .RUNNING) ∨ (i ≠ j ∧ tasks[j]? = some t) := by
  rw [getElem?_setState] at hj
  obtain ⟨t0, ht0, he⟩ := Option.map_eq_some_iff.mp hj
  split at he
  · rename_i hij
    subst he
    exact .inl ⟨hij, hr⟩
  · rename_i hij
    subst he
    exact .inr ⟨hij, ht0⟩

/-- Overwriting the state at the only place a RUNNING task can be clears every RUNNING. -/
theorem noneRunning_setState {s : Scheduler P} (h : RunningAtCurrent s) {st : TaskState}
    (hst : st ≠ .RUNNING) : NoneRunning (setState s.tasks s.currentTask st) := by
  intro t ht hr
  obtain ⟨j, hj, rfl⟩ := List.getElem_of_mem ht
  rcases running_of_setState (List.getElem?_eq_getElem hj) hr with ⟨-, hr'⟩ | ⟨hne, ht0⟩
  · exact hst hr'
  · exact hne (h j _ ht0 hr).symm

theorem pidsFresh_of_sublist {s s' : Scheduler P} (h : PidsFresh s) (hs : s'.tasks.Sublist s.tasks)
    (hn : s'.nextTaskId = s.nextTaskId) : PidsFresh s' where
  nodup := h.nodup.sublist (hs.map _)
  le_next t ht := hn ▸ h.le_next t (hs.subset ht)

theorem pidsFresh_setState {s : Scheduler P} (h : PidsFresh s) (i : Nat) (st : TaskState) :
    PidsFresh { s with tasks := setState s.tasks i st } where
  nodup := by simpa using h.nodup
  le_next t ht := by
    have hp : t.pid ∈ (setState s.tasks i st).map Task.pid := List.mem_map_of_mem ht
    rw [map_pid_setState] at hp
    obtain ⟨t0, ht0, he⟩ := List.mem_map.mp hp
    exact he ▸ h.le_next t0 ht0

/-! ### One pass of the scan -/

/-- A pass that continues either moves the cursor or removes the task under it, at a
nonzero index, and steps the cursor back. -/
theorem getNextTaskBody_next {s s' : Scheduler P} (h : getNextTaskBody s = .next s') :
    ∃ c, s' = { s with currentTask := c } ∨
      (0 < c ∧ s' = { s with tasks := s.tasks.eraseIdx c, currentTask := c-1 }) := by
  simp only [getNextTaskBody] at h
  generalize (if s.currentTask+1 ≥ s.tasks.length then 0 else s.currentTask+1) = c at h
  split at h
  · cases h
  · split at h
    · cases h
      exact ⟨c, .inl rfl⟩
    · split at h
      · split at h
        · cases h
        · cases h
          exact ⟨c, .inr ⟨by omega, rfl⟩⟩
      · cases h
        exact ⟨c, .inl rfl⟩
      · cases h
      · cases h

/-- A pass leaves the loop only at a READY task, which becomes `current_task`. -/
theorem getNextTaskBody_done {s s' : Scheduler P} {i : Nat}
    (h : getNextTaskBody s = .done (i, s')) :
    s' = { s with currentTask := i } ∧ ∃ t, s.tasks[i]? = some t ∧ t.state = .READY := by
  simp only [getNextTaskBody] at h
  split at h
  · cases h
  · split at h
    · cases h
    · rename_i t ht
      split at h
      · split at h <;> cases h
      · cases h
      · cases h
      · cases h
        exact ⟨rfl, t, ht, ‹_›⟩

/-- A pass panics on an overflow of the cursor, or at a task that claims to be running. -/
theorem getNextTaskBody_fail {s : Scheduler P} {e : String} (h : getNextTaskBody s = .fail e) :
    ScanPanic e ∨ (e = "Process falsely claims to be running" ∧ ∃ t ∈ s.tasks, t.state = .RUNNING) := by
  simp only [getNextTaskBody] at h
  split at h
  · cases h
    exact .inl (.inl rfl)
  · split at h
    · cases h
    · rename_i t ht
      split at h
      · split at h
        · cases h
          exact .inl (.inr rfl)
        · cases h
      · cases h
      · cases h
        exact .inr ⟨rfl, t, List.mem_of_getElem? ht, ‹_›⟩
      · cases h

/-! ### The whole scan -/

/-- What the scan keeps from the scheduler it started on: no task claims to be running,
the queue only lost tasks, and the pid counter is untouched. -/
def ScanInv (s₀ s : Scheduler P) : Prop :=
  NoneRunning s.tasks ∧ s.tasks.Sublist s₀.tasks ∧ s.nextTaskId = s₀.nextTaskId

theorem scanInv_next {s₀ s s' : Scheduler P} (hi : ScanInv s₀ s)
    (h : getNextTaskBody s = .next s') : ScanInv s₀ s' := by
  obtain ⟨hr, hs, hn⟩ := hi
  obtain ⟨c, rfl | ⟨-, rfl⟩⟩ := getNextTaskBody_next h
  · exact ⟨hr, hs, hn⟩
  · have he := List.eraseIdx_sublist s.tasks c
    exact ⟨noneRunning_of_sublist he hr, he.trans hs, hn⟩

/-- The scan's answer: with no task running, it panics only on an overflow, and a state it
comes back with keeps `ScanInv`. -/
def ScanResult (s₀ : Scheduler P) : Except String (Nat × Scheduler P) → Prop
  | .ok (_, s) => ScanInv s₀ s
  | .error e => ScanPanic e

theorem getNextTask_result {s : Scheduler P} {fuel : Nat} {r : Except String (Nat × Scheduler P)}
    (hr : NoneRunning s.tasks) (h : getNextTask fuel s = some r) : ScanResult s r := by
  unfold getNextTask at h
  split at h
  · cases h
    exact ⟨hr, List.Sublist.refl _, rfl⟩
  · refine loop_invariant (ScanInv s) (ScanResult s) (fun _ _ hi hb => scanInv_next hi hb)
      ?_ ?_ ⟨hr, List.Sublist.refl _, rfl⟩ h
    · rintro s' ⟨i, s''⟩ hi hb
      obtain ⟨rfl, -⟩ := getNextTaskBody_done hb
      exact hi
    · intro s' e hi hb
      rcases getNextTaskBody_fail hb with he | ⟨-, t, ht, hrun⟩
      · exact he
      · exact absurd hrun (hi.1 t ht)

/-! ### The swap -/

/-- A swap that comes back from a queue where nothing runs leaves at most one RUNNING
task, at `current_task`, and keeps the pids fresh. -/
theorem swapTasks_ok {s s' : Scheduler P} {fuel : Nat} {act : Option Nat}
    (hr : NoneRunning s.tasks) (hp : PidsFresh s)
    (h : swapTasks fuel s = some (.ok (s', act))) : RunningAtCurrent s' ∧ PidsFresh s' := by
  unfold swapTasks at h
  split at h
  · cases h
  · cases h
  · rename_i i s'' hg
    obtain ⟨hr'', hs'', hn''⟩ : ScanInv _ s'' := getNextTask_result (by exact hr) hg
    have hp'' : PidsFresh s'' :=
      pidsFresh_of_sublist (by exact ⟨hp.nodup, hp.le_next⟩) hs'' hn''
    split at h
    · cases h
      refine ⟨?_, pidsFresh_setState hp'' _ _⟩
      intro j t hj hrun
      -- the only RUNNING task is the one just picked
      rcases running_of_setState hj hrun with ⟨hc, -⟩ | ⟨-, ht0⟩
      · exact hc.symm
      · exact absurd hrun (hr'' t (List.mem_of_getElem? ht0))
    · cases h
      exact ⟨fun j t hj hrun => absurd hrun (hr'' t (List.mem_of_getElem? hj)), hp''⟩

theorem swapTasks_error {s : Scheduler P} {fuel : Nat} {e : String}
    (hr : NoneRunning s.tasks) (h : swapTasks fuel s = some (.error e)) : ScanPanic e := by
  unfold swapTasks at h
  split at h
  · cases h
  · rename_i e' hg
    cases h
    exact getNextTask_result (by exact hr) hg
  · split at h <;> cases h

/-! ### The task a call switches to -/

/-- The task a swap has switched to, by its pid: the one at `current_task`, now RUNNING, or
none when `current_task` names no task. -/
def SwitchedTo (s : Scheduler P) (act : Option Nat) : Prop :=
  act = s.tasks[s.currentTask]?.map Task.pid ∧
    ∀ t, s.tasks[s.currentTask]? = some t → t.state = .RUNNING

/-- Whether `tick` preempts the current task: the scheduler is on and the quantum is up. -/
def preempts (s : Scheduler P) : Bool := s.isEnabled && decide (quantum ≤ s.currentTaskTicks+1)

/-- A swap answers with the task it has just set RUNNING at `current_task`. -/
theorem swapTasks_switchedTo {s s' : Scheduler P} {fuel : Nat} {act : Option Nat}
    (h : swapTasks fuel s = some (.ok (s', act))) : SwitchedTo s' act := by
  unfold swapTasks at h
  split at h
  · cases h
  · cases h
  · rename_i i s'' hg
    split at h
    · rename_i t ht
      cases h
      have hget : (setState s''.tasks s''.currentTask .RUNNING)[s''.currentTask]? =
          some { t with state := .RUNNING } := by
        rw [getElem?_setState, ht]
        simp
      refine ⟨by simp [hget], fun t' ht' => ?_⟩
      rw [hget] at ht'
      cases ht'
      rfl
    · rename_i ht
      cases h
      exact ⟨by simp [ht], fun t ht' => by simp [ht] at ht'⟩

/-- A tick that comes back answers with the task it switches to when it preempts, and with
none otherwise. -/
theorem tick_switchedTo {s s' : Scheduler P} {fuel : Nat} {act : Option Nat}
    (h : tick fuel s = some (.ok (s', act))) :
    if preempts s then SwitchedTo s' act else act = none := by
  unfold tick at h
  by_cases he : s.isEnabled = true
  · by_cases hmax : s.currentTaskTicks = u32Max
    · simp [he, hmax] at h
    · by_cases hq : s.currentTaskTicks+1 ≥ quantum
      · -- the quantum is up: the swap
        simp only [he, hmax, hq, Bool.not_true, Bool.false_eq_true, if_false, if_true] at h
        rw [if_pos (by simpa [preempts, he] using hq)]
        exact swapTasks_switchedTo h
      · simp only [he, hmax, hq, Bool.not_true, Bool.false_eq_true, if_false, Option.some.injEq,
          Except.ok.injEq, Prod.mk.injEq] at h
        rw [if_neg (by simpa [preempts, he] using hq)]
        exact h.2.symm
  · have he' : s.isEnabled = false := by simpa using he
    simp only [he', Bool.not_false, if_true, Option.some.injEq, Except.ok.injEq,
      Prod.mk.injEq] at h
    rw [if_neg (by simp [preempts, he'])]
    exact h.2.symm

/-- `end_current_task` answers with the task its swap switches to. -/
theorem endCurrentTask_switchedTo {s s' : Scheduler P} {fuel : Nat} {act : Option Nat}
    (h : endCurrentTask fuel s = some (.ok (s', act))) : SwitchedTo s' act := by
  unfold endCurrentTask at h
  split at h
  · cases h
  · exact swapTasks_switchedTo h

/-! ### Ticks inside a quantum -/

/-- A tick before the end of the quantum only counts. -/
theorem tick_of_lt_quantum {s : Scheduler P} (fuel : Nat) (he : s.isEnabled = true)
    (hq : s.currentTaskTicks+1 < quantum) :
    tick fuel s = some (.ok ({ s with currentTaskTicks := s.currentTaskTicks+1 }, none)) := by
  have hmax : s.currentTaskTicks ≠ u32Max := by
    unfold quantum at hq
    unfold u32Max
    omega
  have hlt : ¬ s.currentTaskTicks+1 ≥ quantum := by omega
  simp only [tick, he, Bool.not_true, Bool.false_eq_true, if_false, hmax, hlt]

/-- The ticks of a quantum before its last only count. -/
theorem run_ticks_of_lt_quantum (fuel : Nat) :
    ∀ (k : Nat) {s : Scheduler P}, s.isEnabled = true → s.currentTaskTicks+k < quantum →
      run fuel (List.replicate k .tick) s =
        some (.ok ({ s with currentTaskTicks := s.currentTaskTicks+k }, List.replicate k none))
  | 0, s, _, _ => rfl
  | k+1, s, he, hq => by
    have hstep : exec fuel .tick s =
        some (.ok ({ s with currentTaskTicks := s.currentTaskTicks+1 }, none)) :=
      tick_of_lt_quantum fuel he (by omega)
    -- the rest of the ticks, from the count the first left
    have hrest := run_ticks_of_lt_quantum fuel k
      (s := { s with currentTaskTicks := s.currentTaskTicks+1 }) he (by simp only; omega)
    rw [run_eq_runSteps] at hrest ⊢
    rw [List.replicate_succ, runSteps_cons_ok hstep hrest,
      show s.currentTaskTicks+1+k = s.currentTaskTicks+(k+1) by omega]
    rfl

/-! ### Where the scan goes wrong -/

theorem getNextTask_mono {s : Scheduler P} {fuel fuel' : Nat}
    {r : Except String (Nat × Scheduler P)} (hle : fuel ≤ fuel')
    (h : getNextTask fuel s = some r) : getNextTask fuel' s = some r := by
  unfold getNextTask at h ⊢
  split
  · rwa [if_pos ‹_›] at h
  · rw [if_neg ‹_›] at h
    exact loop_mono hle h

/-- The index a pass looks at: one past the cursor, wrapping to 0 at the end of the queue. -/
def nextIndex (s : Scheduler P) : Nat :=
  if s.currentTask+1 ≥ s.tasks.length then 0 else s.currentTask+1

theorem nextIndex_lt {s : Scheduler P} (hne : s.tasks ≠ []) : nextIndex s < s.tasks.length := by
  have hpos : 0 < s.tasks.length := List.length_pos_iff.mpr hne
  unfold nextIndex
  split <;> omega

theorem getNextTaskBody_waiting {s : Scheduler P} {t : Task P} (hc : s.currentTask ≠ usizeMax)
    (ht : s.tasks[nextIndex s]? = some t) (hw : t.state = .WAITING) :
    getNextTaskBody s = .next { s with currentTask := nextIndex s } := by
  unfold nextIndex at ht ⊢
  simp only [getNextTaskBody, hc, ht, hw, if_false]

theorem getNextTaskBody_done_zero {s : Scheduler P} {t : Task P} (hc : s.currentTask ≠ usizeMax)
    (h0 : nextIndex s = 0) (ht : s.tasks[0]? = some t) (hd : t.state = .DONE) :
    getNextTaskBody s = .fail "attempt to subtract with overflow" := by
  unfold nextIndex at h0
  simp only [getNextTaskBody, hc, h0, ht, hd, if_false, if_true]

/-- On a queue where every task waits, the scan never comes back, whatever the fuel. -/
theorem getNextTask_spins_of_waiting {s : Scheduler P} (hne : s.tasks ≠ [])
    (hw : ∀ t ∈ s.tasks, t.state = .WAITING) (hc : s.currentTask < usizeMax)
    (hlen : s.tasks.length ≤ usizeMax) (fuel : Nat) : getNextTask fuel s = none := by
  unfold getNextTask
  rw [if_neg hne]
  -- the queue never changes and the cursor stays a real index
  refine loop_diverges (fun s' => s'.tasks = s.tasks ∧ s'.currentTask < usizeMax)
    ?_ ⟨rfl, hc⟩ fuel
  rintro s' ⟨hq, hc'⟩
  have hne' : s'.tasks ≠ [] := hq ▸ hne
  have hlt := nextIndex_lt hne'
  obtain ⟨t, ht⟩ : ∃ t, s'.tasks[nextIndex s']? = some t :=
    ⟨_, List.getElem?_eq_getElem hlt⟩
  refine ⟨_, getNextTaskBody_waiting (by omega) ht (hw t (hq ▸ List.mem_of_getElem? ht)),
    hq, ?_⟩
  show nextIndex s' < usizeMax
  rw [hq] at hlt
  omega

/-- When every task after the cursor waits and the task at index 0 is DONE, the scan
wraps round to index 0, removes it, and `current_task -= 1` underflows. -/
theorem getNextTask_underflows {s : Scheduler P} {t₀ : Task P} (h0 : s.tasks[0]? = some t₀)
    (hd : t₀.state = .DONE)
    (hw : ∀ (j : Nat) (t : Task P), s.currentTask < j → s.tasks[j]? = some t → t.state = .WAITING)
    (hc : s.currentTask < s.tasks.length) (hlen : s.tasks.length ≤ usizeMax) :
    getNextTask (s.tasks.length-s.currentTask) s = some (.error "attempt to subtract with overflow") := by
  have hne : s.tasks ≠ [] := by
    intro h
    simp [h] at h0
  unfold getNextTask
  rw [if_neg hne]
  -- induction on how many waiting tasks are left between the cursor and the end
  induction hk : s.tasks.length-1-s.currentTask generalizing s with
  | zero =>
    have h0' : nextIndex s = 0 := by unfold nextIndex; rw [if_pos (by omega)]
    rw [show s.tasks.length-s.currentTask = 0+1 by omega]
    exact loop_succ_of_fail 0 (getNextTaskBody_done_zero (by omega) h0' h0 hd)
  | succ k ih =>
    have hi : nextIndex s = s.currentTask+1 := by unfold nextIndex; rw [if_neg (by omega)]
    have hlt : s.currentTask+1 < s.tasks.length := by omega
    obtain ⟨t, ht⟩ : ∃ t, s.tasks[s.currentTask+1]? = some t := ⟨_, List.getElem?_eq_getElem hlt⟩
    have hwt := hw _ _ (by omega) ht
    rw [← hi] at ht
    have hb := getNextTaskBody_waiting (by omega) ht hwt
    rw [show s.tasks.length-s.currentTask = (s.tasks.length-(s.currentTask+1))+1 by omega,
      loop_succ_of_next _ hb, hi]
    exact @ih { s with currentTask := s.currentTask+1 } h0
      (fun j t hj => hw j t (by simp only at hj; omega))
      (show s.currentTask+1 < s.tasks.length by omega) hlen hne
      (show s.tasks.length-1-(s.currentTask+1) = k by omega)

/-- The last task's `end_current_task` leaves one DONE task at `current_task = 0`: the scan
wraps to index 0, removes it and underflows, so it never returns `usize::MAX`. A queue of
waiting tasks makes the scan spin for ever instead. -/
theorem getNextTask_last_task_or_all_waiting :
    (∀ fuel, getNextTask (fuel+1)
      ({ tasks := [⟨.DONE, (), 1⟩]
         currentTaskTicks := 0
         nextTaskId := 2
         currentTask := 0
         isEnabled := true } : Scheduler Unit) = some (.error "attempt to subtract with overflow")) ∧
    (∀ fuel, getNextTask fuel
      ({ tasks := [⟨.WAITING, (), 1⟩]
         currentTaskTicks := 0
         nextTaskId := 2
         currentTask := 0
         isEnabled := true } : Scheduler Unit) = none) := by
  refine ⟨fun fuel => getNextTask_mono (by simp) (getNextTask_underflows rfl rfl ?_ ?_ ?_),
    getNextTask_spins_of_waiting (by simp) (by simp) (by decide) (by decide)⟩
  · intro j t hj ht
    simp only [List.getElem?_cons, List.getElem?_nil] at ht
    split at ht <;> simp_all
  · decide
  · decide

end LobsterOS.Scheduler
