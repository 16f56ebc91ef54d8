import LobsterOS.SchedulerSwap

/-! Round robin: every task of a ready queue of `n` runs once in every `n` quanta of timer ticks. -/

namespace LobsterOS.Scheduler

variable {P : Type}

/-- The scheduler at the start of a quantum over a queue where every task but the current one
is ready: it is enabled, no tick of the quantum has passed, and the cursor is on a task. -/
structure RoundRobin (s : Scheduler P) : Prop where
  enabled : s.isEnabled = true
  ticks : s.currentTaskTicks = 0
  current_lt : s.currentTask < s.tasks.length
  length_le : s.tasks.length ≤ usizeMax
  ready : ∀ i t, s.tasks[i]? = some t → i ≠ s.currentTask → t.state = .READY

/-- The first pass of `get_next_task` stops at a ready task after the cursor. -/
theorem getNextTaskBody_ready {s : Scheduler P} {t : Task P} (hc : s.currentTask ≠ usizeMax)
    (ht : s.tasks[nextIndex s]? = some t) (hr : t.state = .READY) :
    getNextTaskBody s = .done (nextIndex s, { s with currentTask := nextIndex s }) := by
  unfold nextIndex at ht ⊢
  simp only [getNextTaskBody, hc, ht, hr, if_false]

/-- The cursor moves to the next task of the queue, in cyclic order. -/
theorem nextIndex_eq_mod {s : Scheduler P} (hc : s.currentTask < s.tasks.length) :
    nextIndex s = (s.currentTask+1) % s.tasks.length := by
  unfold nextIndex
  split
  · rename_i h
    rw [show s.currentTask+1 = s.tasks.length by omega, Nat.mod_self]
  · rw [Nat.mod_eq_of_lt (by omega)]

/-- The scheduler after the last tick of a round-robin quantum: `swap_tasks` has put the current
task back as READY, moved the cursor to the next task and marked it RUNNING, and the count
starts again. -/
def afterQuantum (s : Scheduler P) : Scheduler P :=
  { s with
    tasks := setState (setState s.tasks s.currentTask .READY) (nextIndex s) .RUNNING
    currentTask := nextIndex s
    currentTaskTicks := 0 }

@[simp] theorem length_afterQuantum (s : Scheduler P) :
    (afterQuantum s).tasks.length = s.tasks.length := by
  simp only [afterQuantum, length_setState]

@[simp] theorem map_pid_afterQuantum (s : Scheduler P) :
    (afterQuantum s).tasks.map Task.pid = s.tasks.map Task.pid := by
  simp only [afterQuantum, map_pid_setState]

theorem tasks_ne_nil {s : Scheduler P} (hrr : RoundRobin s) : s.tasks ≠ [] :=
  List.ne_nil_of_length_pos (Nat.lt_of_le_of_lt (Nat.zero_le _) hrr.current_lt)

/-- Once the current task is back in the queue, the task after the cursor is ready, whether it
is another task or, in a queue of one, the current task itself. -/
theorem setState_ready_nextIndex {s : Scheduler P} (hrr : RoundRobin s) :
    ∃ t, (setState s.tasks s.currentTask .READY)[nextIndex s]? = some t ∧ t.state = .READY ∧
      (s.tasks.map Task.pid)[nextIndex s]? = some t.pid := by
  obtain ⟨t₀, ht₀⟩ : ∃ t₀, s.tasks[nextIndex s]? = some t₀ :=
    ⟨_, List.getElem?_eq_getElem (nextIndex_lt (tasks_ne_nil hrr))⟩
  rw [getElem?_setState, List.getElem?_map, ht₀, Option.map_some, Option.map_some]
  by_cases hc : s.currentTask = nextIndex s
  · exact ⟨_, rfl, by simp [hc], by simp [hc]⟩
  · exact ⟨_, rfl, by simp [hc, hrr.ready _ t₀ ht₀ (Ne.symm hc)], by simp [hc]⟩

/-- The last tick of a quantum ends it with one pass of the loop of `get_next_task`. -/
theorem tick_at_quantum {s : Scheduler P} {fuel : Nat} (hrr : RoundRobin s) (hfuel : 0 < fuel) :
    tick fuel { s with currentTaskTicks := quantum-1 } =
      some (.ok (afterQuantum s, (s.tasks.map Task.pid)[nextIndex s]?)) := by
  obtain ⟨f, rfl⟩ : ∃ f, fuel = f+1 := ⟨fuel-1, by omega⟩
  have hne : setState s.tasks s.currentTask .READY ≠ [] := by
    rw [← List.length_pos_iff, length_setState, List.length_pos_iff]
    exact tasks_ne_nil hrr
  have hcmax : s.currentTask ≠ usizeMax := by
    have := hrr.current_lt
    have := hrr.length_le
    omega
  obtain ⟨t, ht, hr, hpid⟩ := setState_ready_nextIndex hrr
  -- the scheduler `swap_tasks` hands to `get_next_task`, and its first pass
  have hbody := getNextTaskBody_ready
    (s := ⟨setState s.tasks s.currentTask .READY, 0, s.nextTaskId, s.currentTask, true⟩)
    hcmax (by unfold nextIndex at ht ⊢; simpa using ht) hr
  have hidx : nextIndex (⟨setState s.tasks s.currentTask .READY, 0, s.nextTaskId, s.currentTask,
      true⟩ : Scheduler P) = nextIndex s := by
    simp only [nextIndex, length_setState]
  rw [hidx] at hbody
  have hmax : quantum - 1 ≠ u32Max := by decide
  have hge : quantum - 1 + 1 ≥ quantum := by decide
  simp only [tick, hrr.enabled, Bool.not_true, Bool.false_eq_true, if_false, hmax, hge, if_true,
    swapTasks, getNextTask, hne, loop_succ_of_done f hbody, ht, afterQuantum, hpid]

/-- A quantum keeps the round robin going: every task off the cursor is still ready. -/
theorem roundRobin_afterQuantum {s : Scheduler P} (hrr : RoundRobin s) :
    RoundRobin (afterQuantum s) where
  enabled := hrr.enabled
  ticks := rfl
  current_lt := by
    rw [length_afterQuantum]
    exact nextIndex_lt (tasks_ne_nil hrr)
  length_le := by
    rw [length_afterQuantum]
    exact hrr.length_le
  ready := by
    intro i t ht hi
    simp only [afterQuantum] at ht hi
    rw [getElem?_setState, getElem?_setState, Option.map_map] at ht
    obtain ⟨t₀, ht₀, rfl⟩ := Option.map_eq_some_iff.mp ht
    have hni : nextIndex s ≠ i := Ne.symm hi
    -- the task the quantum preempted is READY again; every other one was READY before
    by_cases hc : s.currentTask = i
    · simp [hc, hni]
    · simp [hc, hni, hrr.ready i t₀ ht₀ (Ne.symm hc)]

/-- The ticks of one quantum: nineteen that count and one that activates the next task. -/
theorem run_quantum {s : Scheduler P} {fuel : Nat} (hrr : RoundRobin s) (hfuel : 0 < fuel) :
    run fuel (List.replicate quantum .tick) s =
      some (.ok (afterQuantum s,
        List.replicate (quantum-1) none ++ [(s.tasks.map Task.pid)[nextIndex s]?])) := by
  have hcount := run_ticks_of_lt_quantum fuel (quantum-1) (s := s) hrr.enabled
    (by rw [hrr.ticks]; decide)
  rw [hrr.ticks, Nat.zero_add] at hcount
  have hlast : exec fuel .tick { s with currentTaskTicks := quantum-1 } =
      some (.ok (afterQuantum s, (s.tasks.map Task.pid)[nextIndex s]?)) :=
    tick_at_quantum hrr hfuel
  rw [run_eq_runSteps] at hcount ⊢
  rw [show quantum = (quantum-1)+1 from rfl, List.replicate_succ']
  exact runSteps_append_ok hcount (runSteps_cons_ok hlast rfl)

/-- After `m` quanta the round robin still holds over the same queue of pids, and the cursor
has moved `m` places around it. -/
theorem roundRobin_iterate_afterQuantum {s : Scheduler P} (hrr : RoundRobin s) :
    ∀ m, RoundRobin (afterQuantum^[m] s) ∧
      (afterQuantum^[m] s).tasks.map Task.pid = s.tasks.map Task.pid ∧
      (afterQuantum^[m] s).currentTask = (s.currentTask+m) % s.tasks.length
  | 0 => ⟨hrr, rfl, (Nat.mod_eq_of_lt hrr.current_lt).symm⟩
  | m+1 => by
    obtain ⟨hrr', hpid, hcur⟩ := roundRobin_iterate_afterQuantum hrr m
    have hlen : (afterQuantum^[m] s).tasks.length = s.tasks.length := by
      rw [← List.length_map (f := Task.pid), hpid, List.length_map]
    rw [Function.iterate_succ_apply']
    refine ⟨roundRobin_afterQuantum hrr', by rw [map_pid_afterQuantum, hpid], ?_⟩
    -- one more place around the queue, from where the first `m` quanta left the cursor
    show nextIndex _ = _
    rw [nextIndex_eq_mod hrr'.current_lt, hcur, hlen, Nat.mod_add_mod, Nat.add_assoc]

/-- The activations of `m` round-robin quanta from `s`, as the pid each tick returns: the
`j`-th quantum ends in the task `j+1` places after the cursor, around the queue. -/
def roundRobinActivations (s : Scheduler P) (m : Nat) : List (Option Nat) :=
  (List.range m).flatMap fun j =>
    List.replicate (quantum-1) none ++
      [(s.tasks.map Task.pid)[(s.currentTask+j+1) % s.tasks.length]?]

theorem roundRobinActivations_succ (s : Scheduler P) (m : Nat) :
    roundRobinActivations s (m+1) = roundRobinActivations s m ++
      (List.replicate (quantum-1) none ++
        [(s.tasks.map Task.pid)[(s.currentTask+m+1) % s.tasks.length]?]) := by
  simp only [roundRobinActivations, List.range_succ, List.flatMap_append, List.flatMap_singleton]

/-- `m` quanta of ticks from a round robin, by induction on `m` with one quantum a step. -/
theorem run_quanta {s : Scheduler P} {fuel : Nat} (hrr : RoundRobin s) (hfuel : 0 < fuel) :
    ∀ m, run fuel (List.replicate (quantum*m) .tick) s =
      some (.ok (afterQuantum^[m] s, roundRobinActivations s m))
  | 0 => rfl
  | m+1 => by
    obtain ⟨hrr', hpid, hcur⟩ := roundRobin_iterate_afterQuantum hrr m
    have hlen : (afterQuantum^[m] s).tasks.length = s.tasks.length := by
      rw [← List.length_map (f := Task.pid), hpid, List.length_map]
    -- the quantum after the first `m` ends in the task `m+1` places after the cursor
    have hnext : ((afterQuantum^[m] s).tasks.map Task.pid)[nextIndex (afterQuantum^[m] s)]? =
        (s.tasks.map Task.pid)[(s.currentTask+m+1) % s.tasks.length]? := by
      rw [hpid, nextIndex_eq_mod hrr'.current_lt, hcur, hlen, Nat.mod_add_mod]
    have hlast := run_quantum hrr' hfuel
    rw [hnext] at hlast
    have hfirst := run_quanta hrr hfuel m
    rw [run_eq_runSteps] at hfirst hlast ⊢
    rw [Nat.mul_succ, List.replicate_add, Function.iterate_succ_apply',
      roundRobinActivations_succ]
    exact runSteps_append_ok hfirst hlast

/-- Within as many quanta as there are tasks, every task of the queue is activated. -/
theorem mem_roundRobinActivations {s : Scheduler P} {m : Nat} {t : Task P}
    (hc : s.currentTask < s.tasks.length) (hm : s.tasks.length ≤ m) (ht : t ∈ s.tasks) :
    some t.pid ∈ roundRobinActivations s m := by
  obtain ⟨i, hi, rfl⟩ := List.mem_iff_getElem.mp ht
  -- the quantum that ends at index `i`: `j+1` places after the cursor, around the queue
  let j := (i + s.tasks.length - (s.currentTask+1)) % s.tasks.length
  have hj : j < m := Nat.lt_of_lt_of_le (Nat.mod_lt _ (by omega)) hm
  have hidx : (s.currentTask+j+1) % s.tasks.length = i := by
    calc (s.currentTask+j+1) % s.tasks.length
        = (s.currentTask+1 + (i + s.tasks.length - (s.currentTask+1))) % s.tasks.length := by
          rw [Nat.add_right_comm, Nat.add_mod_mod]
      _ = (i + s.tasks.length) % s.tasks.length := by congr 1; omega
      _ = i := by rw [Nat.add_mod_right, Nat.mod_eq_of_lt hi]
  simp only [roundRobinActivations, List.mem_flatMap, List.mem_range]
  refine ⟨j, hj, ?_⟩
  rw [hidx, List.getElem?_map, List.getElem?_eq_getElem hi, Option.map_some]
  exact List.mem_append_right _ (List.mem_singleton_self _)

/-- Round robin over the timer: from a queue whose tasks off the cursor are all ready, `m`
quanta of ticks come back on one pass of `get_next_task` each, activate the tasks one after
another in queue order, keep every task in the queue and the round robin going, and, once `m`
reaches the number of tasks, have activated every task. -/
theorem ticks_round_robin {s : Scheduler P} {fuel : Nat} (hrr : RoundRobin s) (hfuel : 0 < fuel)
    (m : Nat) :
    ∃ s', run fuel (List.replicate (quantum*m) .tick) s =
        some (.ok (s', roundRobinActivations s m)) ∧
      RoundRobin s' ∧ s'.tasks.map Task.pid = s.tasks.map Task.pid ∧
      (s.tasks.length ≤ m → ∀ t ∈ s.tasks, some t.pid ∈ roundRobinActivations s m) := by
  obtain ⟨hrr', hpid, -⟩ := roundRobin_iterate_afterQuantum hrr m
  refine ⟨afterQuantum^[m] s, run_quanta hrr hfuel m, hrr', hpid, ?_⟩
  intro hm t ht
  exact mem_roundRobinActivations hrr.current_lt hm ht

/-- Three tasks, the first on the cursor and running, the quantum just begun. -/
def threeTasks : Scheduler Unit :=
  { tasks := [⟨.RUNNING, (), 1⟩, ⟨.READY, (), 2⟩, ⟨.READY, (), 3⟩]
    currentTaskTicks := 0
    nextTaskId := 4
    currentTask := 0
    isEnabled := true }

theorem roundRobin_threeTasks : RoundRobin threeTasks where
  enabled := rfl
  ticks := rfl
  current_lt := by decide
  length_le := by decide
  ready := by
    intro i t ht hi
    rcases i with _ | _ | _ | i
    · exact absurd rfl hi
    all_goals simp [threeTasks] at ht
    all_goals rw [← ht]

example : roundRobinActivations threeTasks 3 =
    List.replicate 19 none ++ [some 2] ++ List.replicate 19 none ++ [some 3] ++
      List.replicate 19 none ++ [some 1] := by decide

theorem ticks_round_robin_threeTasks :
    RoundRobin threeTasks ∧ 0 < 1 ∧
      ∃ s', run 1 (List.replicate (quantum*3) .tick) threeTasks =
          some (.ok (s', roundRobinActivations threeTasks 3)) ∧
        RoundRobin s' ∧ s'.tasks.map Task.pid = threeTasks.tasks.map Task.pid ∧
        (threeTasks.tasks.length ≤ 3 →
          ∀ t ∈ threeTasks.tasks, some t.pid ∈ roundRobinActivations threeTasks 3) :=
  ⟨roundRobin_threeTasks, by decide, ticks_round_robin roundRobin_threeTasks (by decide) 3⟩

end LobsterOS.Scheduler
