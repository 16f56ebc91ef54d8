import LobsterOS.Loop

/-! The round-robin process scheduler of `threading/scheduler.rs`, with `get_next_task` on a
fuel budget. -/

namespace LobsterOS

/-- `usize::MAX`. -/
def usizeMax : Nat := 2^64-1

/-- `u64::MAX`. -/
def u64Max : Nat := 2^64-1

/-- `u32::MAX`. -/
def u32Max : Nat := 2^32-1

/-- `QUANTUM`: timer ticks a task runs before it is preempted. -/
def quantum : Nat := 20

inductive TaskState where
  | READY
  | RUNNING
  | WAITING
  | DONE
  deriving DecidableEq, Repr

structure Task (P : Type) where
  state : TaskState
  process : P
  pid : Nat
  deriving DecidableEq, Repr

inductive TaskKillError where
  | DoesNotExist
  deriving DecidableEq, Repr

structure Scheduler (P : Type) where
  tasks : List (Task P)
  currentTaskTicks : Nat
  nextTaskId : Nat
  currentTask : Nat
  isEnabled : Bool
  deriving DecidableEq, Repr

namespace Scheduler

variable {P : Type}

/-- The static `SCHEDULER`: no tasks, and `current_task` at the sentinel `usize::MAX-1`. -/
def scheduler : Scheduler P :=
  { tasks := []
    currentTaskTicks := 0
    nextTaskId := 0
    currentTask := usizeMax-1
    isEnabled := false }

/-- `if let Some(task) = self.tasks.get_mut(i) { task.state = st; }`: every write of a task
state in the scheduler has this shape, and an index past the end writes nothing. -/
def setState (tasks : List (Task P)) (i : Nat) (st : TaskState) : List (Task P) :=
  tasks.modify i fun t => { t with state := st }

def enable (s : Scheduler P) : Scheduler P :=
  { s with isEnabled := true }

/-- One pass of the `loop` of `get_next_task`. -/
def getNextTaskBody (s : Scheduler P) : LoopStep (Scheduler P) String (Nat × Scheduler P) :=
  if s.currentTask = usizeMax then .fail "attempt to add with overflow" else
  let c := if s.currentTask+1 ≥ s.tasks.length then 0 else s.currentTask+1
  match s.tasks[c]? with
  | none => .next { s with currentTask := c }
  | some t =>
    match t.state with
    | .DONE =>
      -- `self.tasks.remove(c); self.current_task -= 1;`
      if c = 0 then .fail "attempt to subtract with overflow"
      else .next { s with tasks := s.tasks.eraseIdx c, currentTask := c-1 }
    | .WAITING => .next { s with currentTask := c }
    | .RUNNING => .fail "Process falsely claims to be running"
    | .READY => .done (c, { s with currentTask := c })

def getNextTask (fuel : Nat) (s : Scheduler P) : Option (Except String (Nat × Scheduler P)) :=
  if s.tasks = [] then some (.ok (usizeMax, s)) else loop getNextTaskBody fuel s

/-- `swap_tasks`, returning the pid of the task whose process it activates. -/
def swapTasks (fuel : Nat) (s : Scheduler P) :
    Option (Except String (Scheduler P × Option Nat)) :=
  -- `deactivate` saves the registers and returns false, so the swap goes ahead
  match getNextTask fuel { s with currentTaskTicks := 0 } with
  | none => none
  | some (.error e) => some (.error e)
  | some (.ok (_, s')) =>
    match s'.tasks[s'.currentTask]? with
    | some t => some (.ok ({ s' with tasks := setState s'.tasks s'.currentTask .RUNNING },
        some t.pid))
    | none => some (.ok (s', none))

def tick (fuel : Nat) (s : Scheduler P) : Option (Except String (Scheduler P × Option Nat)) :=
  if !s.isEnabled then some (.ok (s, none))
  else if s.currentTaskTicks = u32Max then some (.error "attempt to add with overflow")
  else if s.currentTaskTicks+1 ≥ quantum then
    -- preempt the process
    swapTasks fuel
      { s with
        currentTaskTicks := s.currentTaskTicks+1
        tasks := setState s.tasks s.currentTask .READY }
  else some (.ok ({ s with currentTaskTicks := s.currentTaskTicks+1 }, none))

def blockCurrent (fuel : Nat) (s : Scheduler P) :
    Option (Except String (Scheduler P × Option Nat)) :=
  swapTasks fuel { s with tasks := setState s.tasks s.currentTask .WAITING }

/-- `push_task`, returning the new scheduler and the pid it hands out. -/
def pushTask (process : P) (s : Scheduler P) : Except String (Scheduler P × Nat) :=
  if s.nextTaskId = u64Max then .error "attempt to add with overflow" else
  let pid := s.nextTaskId+1
  if pid = u64Max then .error "attempt to add with overflow" else
  .ok ({ s with tasks := s.tasks ++ [{ process, state := .READY, pid }], nextTaskId := pid+1 },
    pid)

/-- `end_task`: mark the first task with this pid DONE. On an error nothing changes. -/
def endTask (pid : Nat) (s : Scheduler P) : Except TaskKillError (Scheduler P) :=
  match s.tasks.findIdx? (fun t => t.pid = pid) with
  | some i => .ok { s with tasks := setState s.tasks i .DONE }
  | none => .error .DoesNotExist

/-- `end_current_task` up to its `hlt_loop`: the scheduler it leaves behind while the CPU
halts and waits for the next interrupt. -/
def endCurrentTask (fuel : Nat) (s : Scheduler P) :
    Option (Except String (Scheduler P × Option Nat)) :=
  match s.tasks[s.currentTask]? with
  | none => some (.error "failed to get current task")
  | some _ => swapTasks fuel { s with tasks := setState s.tasks s.currentTask .DONE }

/-- The calls the rest of the kernel makes on `SCHEDULER`. -/
inductive Op (P : Type) where
  | pushTask (process : P)
  | enable
  | tick
  | blockCurrent
  | endTask (pid : Nat)
  | endCurrentTask

/-- Run one call, with the pid of the task it activates, if any. -/
def exec (fuel : Nat) : Op P → Scheduler P → Option (Except String (Scheduler P × Option Nat))
  | .pushTask p, s => some ((pushTask p s).map fun r => (r.1, none))
  | .enable, s => some (.ok (enable s, none))
  | .tick, s => tick fuel s
  | .blockCurrent, s => blockCurrent fuel s
  | .endTask pid, s =>
    match endTask pid s with
    | .ok s' => some (.ok (s', none))
    | .error _ => some (.ok (s, none))
  | .endCurrentTask, s => endCurrentTask fuel s

/-- A call that comes back, on some budget, without panicking. -/
def Step (s : Scheduler P) (op : Op P) (act : Option Nat) (s' : Scheduler P) : Prop :=
  ∃ fuel, exec fuel op s = some (.ok (s', act))

/-- Reachable from `SCHEDULER` by calls that came back. -/
def Reachable (s : Scheduler P) : Prop :=
  LobsterOS.Reachable (fun s s' => ∃ op act, Step s op act s') scheduler s

/-- Run calls one after another on one budget, collecting what each activates. -/
def run (fuel : Nat) : List (Op P) → Scheduler P →
    Option (Except String (Scheduler P × List (Option Nat)))
  | [], s => some (.ok (s, []))
  | op :: ops, s =>
    match exec fuel op s with
    | some (.ok (s', act)) => (run fuel ops s').map (Except.map fun r => (r.1, act :: r.2))
    | some (.error e) => some (.error e)
    | none => none

section SetState

variable {tasks : List (Task P)} {i : Nat} {st : TaskState}

@[simp] theorem length_setState : (setState tasks i st).length = tasks.length :=
  List.length_modify _ _ _

theorem getElem?_setState (j : Nat) :
    (setState tasks i st)[j]? = tasks[j]?.map fun t => if i = j then { t with state := st } else t :=
  List.getElem?_modify _ _ _ _

/-- Writing a state never touches a pid. -/
@[simp] theorem map_pid_setState : (setState tasks i st).map Task.pid = tasks.map Task.pid := by
  apply List.ext_getElem?
  intro j
  simp only [List.getElem?_map, getElem?_setState, Option.map_map]
  congr 1
  funext t
  simp only [Function.comp_apply]
  split <;> rfl

end SetState

/-- A run of calls is the run of their steps. -/
theorem run_eq_runSteps (fuel : Nat) (ops : List (Op P)) (s : Scheduler P) :
    run fuel ops s = runSteps (exec fuel) ops s := by
  induction ops generalizing s with
  | nil => rfl
  | cons op ops ih =>
    unfold run runSteps
    rcases exec fuel op s with _ | _ | ⟨s', act⟩ <;> simp only [ih]

end Scheduler

end LobsterOS
