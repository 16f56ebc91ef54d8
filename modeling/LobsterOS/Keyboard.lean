import LobsterOS.Loop

/-! The keyboard input path of `task/keyboard.rs`: `add_scancode` and `poll_next` of the
`ScancodeStream`, as steps that interleave in any order. -/

namespace LobsterOS.Keyboard

/-- `QUEUE_SIZE`. -/
def queueSize : Nat := 100

/-- Where the stream's current `poll_next` call is. -/
inductive PollNext where
  /-- no call in progress -/
  | idle
  /-- the first pop found nothing; `WAKER.register` comes next -/
  | popped (waker : Nat)
  /-- the second pop comes next -/
  | registered (waker : Nat)
  /-- the second pop found a scancode; `WAKER.take()` comes next -/
  | taking
  deriving DecidableEq, Repr

structure State where
  /-- `SCANCODE_QUEUE`, `none` until `ScancodeStream::new` initializes it -/
  scancodeQueue : Option (List UInt8)
  /-- `WAKER` -/
  waker : Option Nat
  /-- the stream once created, and where its `poll_next` is -/
  stream : Option PollNext
  /-- `add_scancode` calls that have pushed and not yet called `WAKER.wake()` -/
  pendingWakes : Nat
  deriving DecidableEq, Repr

inductive Op where
  | addScancode (scancode : UInt8)
  | wake
  | new
  | pollNext (waker : Nat)
  | register
  | popAgain
  | take
  deriving DecidableEq, Repr

/-- What a step shows. A scancode is `yielded` by the pop that takes it off the queue; the
call then returns it as `Poll::Ready(Some(scancode))`. -/
inductive Event where
  | pushed (scancode : UInt8)
  | dropped (scancode : UInt8)
  | uninitialized (scancode : UInt8)
  | woke (waker : Option Nat)
  | created
  | yielded (scancode : UInt8)
  | empty
  | registered (waker : Nat)
  | pending (waker : Nat)
  | took
  deriving DecidableEq, Repr

def init : State := ⟨none, none, none, 0⟩

/-- The push of `add_scancode`. -/
def addScancode (scancode : UInt8) (s : State) : State × Event :=
  match s.scancodeQueue with
  -- "WARNING: scancode queue is uninitialized"
  | none => (s, .uninitialized scancode)
  | some q =>
    if q.length < queueSize then
      ({ s with scancodeQueue := some (q ++ [scancode]), pendingWakes := s.pendingWakes+1 },
        .pushed scancode)
    -- "WARNING: scancode queue is full; input dropped"
    else (s, .dropped scancode)

/-- The `WAKER.wake()` of an `add_scancode` whose push succeeded: empty the cell and wake the
waker it held. -/
def wake (s : State) : Option (State × Event) :=
  if s.pendingWakes = 0 then none
  else some ({ s with waker := none, pendingWakes := s.pendingWakes-1 }, .woke s.waker)

/-- `ScancodeStream::new`; there is one stream. -/
def new (s : State) : Option (Except String (State × Event)) :=
  match s.stream with
  | some _ => none
  | none =>
    match s.scancodeQueue with
    | some _ => some (.error "Scancode stream already initialized")
    | none => some (.ok ({ s with scancodeQueue := some [], stream := some .idle }, .created))

/-- The first pop of `poll_next`, whose context carries `waker`. -/
def pollNext (waker : Nat) (s : State) : Option (Except String (State × Event)) :=
  match s.stream with
  | some .idle =>
    match s.scancodeQueue with
    | none => some (.error "Scancode stream not initialized")
    | some (scancode :: q) => some (.ok ({ s with scancodeQueue := some q }, .yielded scancode))
    | some [] => some (.ok ({ s with stream := some (.popped waker) }, .empty))
  | _ => none

/-- `WAKER.register(cx.waker())`. -/
def register (s : State) : Option (State × Event) :=
  match s.stream with
  | some (.popped w) => some ({ s with waker := some w, stream := some (.registered w) }, .registered w)
  | _ => none

/-- The second pop of `poll_next`. The call found the queue initialized when it began, so a
state without it has no second pop. -/
def popAgain (s : State) : Option (State × Event) :=
  match s.stream, s.scancodeQueue with
  | some (.registered _), some (scancode :: q) =>
    some ({ s with scancodeQueue := some q, stream := some .taking }, .yielded scancode)
  | some (.registered w), some [] => some ({ s with stream := some .idle }, .pending w)
  | _, _ => none

/-- `WAKER.take()` before returning the scancode of the second pop. -/
def take (s : State) : Option (State × Event) :=
  match s.stream with
  | some .taking => some ({ s with waker := none, stream := some .idle }, .took)
  | _ => none

def exec : Op → State → Option (Except String (State × Event))
  | .addScancode scancode, s => some (.ok (addScancode scancode s))
  | .wake, s => (wake s).map .ok
  | .new, s => new s
  | .pollNext waker, s => pollNext waker s
  | .register, s => (register s).map .ok
  | .popAgain, s => (popAgain s).map .ok
  | .take, s => (take s).map .ok

end LobsterOS.Keyboard
