import Mathlib

/-! The cooperative executor of `task/executor.rs` and the task ids of `task.rs`, as steps that
interleave in any order. -/

namespace LobsterOS.Async

/-- `TASK_QUEUE_SIZE`. -/
def taskQueueSize : Nat := 100

/-- `ArrayQueue::push`: fails on a full queue. -/
def queuePush (q : List Nat) (x : Nat) : Option (List Nat) :=
  if q.length < taskQueueSize then some (q ++ [x]) else none

structure Task (F : Type) where
  id : Nat
  future : F

inductive Poll where
  | Ready
  | Pending
  deriving DecidableEq, Repr

structure TaskWaker where
  taskId : Nat
  deriving DecidableEq, Repr

structure Executor (F : Type) where
  tasks : Nat → Option (Task F)
  taskQueue : List Nat
  wakerCache : Nat → Option TaskWaker

/-- What a step shows: a spawn, a wake, a poll with the waker it used, a stale id skipped,
or an empty queue. -/
inductive Event where
  | spawned (taskId : Nat)
  | woke (taskId : Nat)
  | polled (taskId : Nat) (waker : TaskWaker) (result : Poll)
  | skipped (taskId : Nat)
  | idle
  deriving DecidableEq, Repr

namespace Executor

variable {F : Type}

def new : Executor F := ⟨fun _ => none, [], fun _ => none⟩

def spawn (task : Task F) (e : Executor F) : Except String (Executor F) :=
  if (e.tasks task.id).isSome then .error "Task with same ID already in tasks" else
  match queuePush e.taskQueue task.id with
  | none => .error "Task queue full"
  | some q => .ok { e with tasks := Function.update e.tasks task.id (some task), taskQueue := q }

/-- One pass of the `while let` of `run_ready_tasks`, with `result` the outcome of the poll:
the id it popped and the waker it polled with, if it found the task. `none` when the queue
is empty and the loop ends. -/
def runReadyStep (result : Poll) (e : Executor F) :
    Option (Executor F × Nat × Option TaskWaker) :=
  match e.taskQueue with
  | [] => none
  | taskId :: q =>
    match e.tasks taskId with
    | none => some ({ e with taskQueue := q }, taskId, none)
    | some _ =>
      let waker := (e.wakerCache taskId).getD ⟨taskId⟩
      match result with
      | .Ready =>
        some ({ tasks := Function.update e.tasks taskId none
                taskQueue := q
                wakerCache := Function.update e.wakerCache taskId none }, taskId, some waker)
      | .Pending =>
        some ({ e with
                taskQueue := q
                wakerCache := Function.update e.wakerCache taskId (some waker) }, taskId, some waker)

end Executor

/-- The executor and the static `NEXT_ID` of `TaskId::new`. -/
structure System (F : Type) where
  executor : Executor F
  nextId : Nat

inductive Op (F : Type) where
  | spawn (future : F)
  | wake (taskId : Nat)
  | runStep (result : Poll)

namespace System

variable {F : Type}

def init : System F := ⟨Executor.new, 0⟩

/-- `Executor::spawn(Task::new(future))`, `TaskWaker::wake_task`, or one pass of
`run_ready_tasks`. -/
def exec : Op F → System F → Except String (System F × Event)
  | .spawn future, s =>
    -- `TaskId::new`: `NEXT_ID.fetch_add(1)`, which wraps
    let taskId := s.nextId
    (s.executor.spawn ⟨taskId, future⟩).map fun e => (⟨e, (taskId+1)%2^64⟩, .spawned taskId)
  | .wake taskId, s =>
    match queuePush s.executor.taskQueue taskId with
    | none => .error "task_queue full"
    | some q => .ok ({ s with executor := { s.executor with taskQueue := q } }, .woke taskId)
  | .runStep result, s =>
    match s.executor.runReadyStep result with
    | none => .ok (s, .idle)
    | some (e, taskId, none) => .ok ({ s with executor := e }, .skipped taskId)
    | some (e, taskId, some waker) => .ok ({ s with executor := e }, .polled taskId waker result)

def runOps : List (Op F) → System F → Except String (System F × List Event)
  | [], s => .ok (s, [])
  | op :: ops, s => do
    let (s, ev) ← exec op s
    let (s, evs) ← runOps ops s
    pure (s, ev :: evs)

end System

end LobsterOS.Async
