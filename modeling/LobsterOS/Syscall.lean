import LobsterOS.Acpi
import LobsterOS.VgaLayout
import LobsterOS.SchedulerInvariant

/-! The system calls of `syscall.rs` and the timer interrupt of `interrupts.rs`, over the VGA
`WRITER` and `SCHEDULER`. -/

namespace LobsterOS.Syscall

open Vga
open Fs (utf8Valid)
open Acpi (bytesAt)

/-- How a system call or the timer interrupt can stop: a panic of the writer or of the
scheduler. -/
inductive Panic where
  | vga (p : Vga.Panic)
  | scheduler (msg : String)
  deriving DecidableEq, Repr

/-- The statics `WRITER` and `SCHEDULER`. -/
structure Kernel (P : Type) where
  writer : Writer
  scheduler : Scheduler P

/-- What the process or the CPU gets back: the value a system call returns, or the task that
the scheduler activates when `exit` ends the process or a timer tick preempts it. -/
inductive Outcome where
  | returned (value : Int)
  | exited (activated : Option Nat)
  | switched (activated : Option Nat)
  deriving DecidableEq, Repr

variable {P : Type}

/-- `print!`: `write_string` on each piece the format arguments produce. -/
def print (k : Kernel P) (pieces : List (List UInt8)) : Except Panic (Kernel P) :=
  match pieces.foldlM writeString k.writer with
  | .ok w => .ok { k with writer := w }
  | .error p => .error (.vga p)

/-- The bytes of an ASCII string. -/
def asciiBytes (s : String) : List UInt8 := s.toList.map fun c => c.toNat.toUInt8

/-- `print_vga_text(text_addr, length)`: 0 once the text is printed, -1 when it is not
UTF-8. -/
def printVgaText (mem : Nat → UInt8) (k : Kernel P) (textAddr length : UInt64) :
    Except Panic (Kernel P × Int) :=
  let bytes := bytesAt mem textAddr.toNat length.toNat
  if utf8Valid bytes then do
    let k ← print k [bytes]
    pure (k, 0)
  else pure (k, -1)

/-- `default_syscall(syscall_id)`: `println!("unknown syscall: {}", syscall_id)`, whose
pieces are the text, the decimal digits and the newline, and then 0. -/
def defaultSyscall (k : Kernel P) (syscallId : UInt64) : Except Panic (Kernel P × Int) := do
  let k ← print k [asciiBytes "unknown syscall: ",
    (Nat.toDigits 10 syscallId.toNat).map (fun c => c.toNat.toUInt8), asciiBytes "\n"]
  pure (k, 0)

/-- A call on `SCHEDULER`, its panic a panic of the kernel. -/
def onScheduler (k : Kernel P) (r : Option (Except String (Scheduler P × Option Nat))) :
    Option (Except Panic (Kernel P × Option Nat)) :=
  r.map fun
    | .ok (s, act) => .ok ({ k with scheduler := s }, act)
    | .error msg => .error (.scheduler msg)

/-- `exit(exit_code, stack_addr)`: `end_current_task`, after which the CPU halts until the
next interrupt; the process is never resumed. -/
def exit (fuel : Nat) (k : Kernel P) : Option (Except Panic (Kernel P × Option Nat)) :=
  onScheduler k (Scheduler.endCurrentTask fuel k.scheduler)

/-- `syscall_handler(syscall_id, arg0, arg1, ..)`. -/
def syscallHandler (fuel : Nat) (mem : Nat → UInt8) (k : Kernel P)
    (syscallId arg0 arg1 : UInt64) : Option (Except Panic (Kernel P × Outcome)) :=
  if syscallId = 0 then
    some ((printVgaText mem k arg0 arg1).map fun r => (r.1, .returned r.2))
  else if syscallId = 1 then
    (exit fuel k).map (Except.map fun r => (r.1, .exited r.2))
  else some ((defaultSyscall k syscallId).map fun r => (r.1, .returned r.2))

/-- `timer_interrupt_handler`: the end of interrupt to the PIC, and a tick of `SCHEDULER`. -/
def timerInterruptHandler (fuel : Nat) (k : Kernel P) :
    Option (Except Panic (Kernel P × Option Nat)) :=
  onScheduler k (Scheduler.tick fuel k.scheduler)

/-- What enters the kernel: a system call from a process, with that process's memory, or the
timer interrupt. -/
inductive Event where
  | syscall (mem : Nat → UInt8) (syscallId arg0 arg1 : UInt64)
  | timer

/-- The kernel's answer to one event. -/
def step (fuel : Nat) : Event → Kernel P → Option (Except Panic (Kernel P × Outcome))
  | .syscall mem syscallId arg0 arg1, k => syscallHandler fuel mem k syscallId arg0 arg1
  | .timer, k => (timerInterruptHandler fuel k).map (Except.map fun r => (r.1, .switched r.2))

/-! ### What each event prints and answers -/

/-- The text of `println!("unknown syscall: {}", syscall_id)`. -/
def unknownSyscallText (syscallId : UInt64) : List UInt8 :=
  asciiBytes "unknown syscall: " ++ (Nat.toDigits 10 syscallId.toNat).map (fun c => c.toNat.toUInt8) ++
    asciiBytes "\n"

/-- The bytes an event writes to the screen: the text of a `print_vga_text` that is UTF-8, the
message of an unknown call, and nothing for `exit` and the timer. -/
def printed : Event → List UInt8
  | .syscall mem syscallId arg0 arg1 =>
    if syscallId = 0 then
      if utf8Valid (bytesAt mem arg0.toNat arg1.toNat) then bytesAt mem arg0.toNat arg1.toNat
      else []
    else if syscallId = 1 then []
    else unknownSyscallText syscallId
  | .timer => []

/-- What an event answers, from the kernel `k` it meets to the kernel `k'` it leaves:
`print_vga_text` 0 or -1 as its text is UTF-8, an unknown call 0, `exit` the task the
scheduler switches to, and the timer that task when the tick preempts and none otherwise. -/
def Answers (k : Kernel P) : Event → Outcome → Kernel P → Prop
  | .syscall mem syscallId arg0 arg1, o, k' =>
    if syscallId = 0 then
      o = .returned (if utf8Valid (bytesAt mem arg0.toNat arg1.toNat) then 0 else -1)
    else if syscallId = 1 then ∃ act, o = .exited act ∧ Scheduler.SwitchedTo k'.scheduler act
    else o = .returned 0
  | .timer, o, k' =>
    ∃ act, o = .switched act ∧
      if Scheduler.preempts k.scheduler then Scheduler.SwitchedTo k'.scheduler act else act = none

/-! ### One event at a time -/

section Step

variable {fuel : Nat} {k k' : Kernel P} {l : Layout}

/-- A call on the scheduler that comes back changes only the scheduler. -/
theorem onScheduler_ok {r : Option (Except String (Scheduler P × Option Nat))}
    {act : Option Nat} (h : onScheduler k r = some (.ok (k', act))) :
    ∃ s, r = some (.ok (s, act)) ∧ k' = { k with scheduler := s } := by
  rcases r with _ | _ | ⟨s, act'⟩
  · cases h
  · cases h
  · simp only [onScheduler, Option.map_some, Option.some.injEq, Except.ok.injEq,
      Prod.mk.injEq] at h
    obtain ⟨rfl, rfl⟩ := h
    exact ⟨s, rfl, rfl⟩

/-- A call on the scheduler only ever panics with the scheduler's message. -/
theorem onScheduler_error {r : Option (Except String (Scheduler P × Option Nat))}
    {p : Panic} (h : onScheduler k r = some (.error p)) :
    ∃ msg, r = some (.error msg) ∧ p = .scheduler msg := by
  rcases r with _ | _ | ⟨s, act'⟩
  · cases h
  · rename_i msg
    simp only [onScheduler, Option.map_some, Option.some.injEq, Except.error.injEq] at h
    exact ⟨msg, rfl, h.symm⟩
  · cases h

/-- `print!` from a writer that shows `l` never panics: the screen then shows the pieces laid
out after `l`, and the scheduler stays. -/
theorem print_cursor (hw : Cursor k.writer l) (pieces : List (List UInt8)) :
    ∃ k', print k pieces = .ok k' ∧ k'.scheduler = k.scheduler ∧
      Cursor k'.writer (pieces.flatten.foldl (fun l b => l.push (printable b)) l) := by
  obtain ⟨w', hw', hc⟩ := writeString_cursor pieces.flatten hw
  refine ⟨{ k with writer := w' }, ?_, rfl, hc⟩
  simp only [print, foldlM_writeString, hw']

/-- A call or tick that the scheduler comes back from keeps it reachable. -/
theorem reachable_of_exec {s s' : Scheduler P} {op : Scheduler.Op P} {act : Option Nat}
    (hs : Scheduler.Reachable s) (h : Scheduler.exec fuel op s = some (.ok (s', act))) :
    Scheduler.Reachable s' :=
  LobsterOS.Reachable.tail hs ⟨op, act, fuel, h⟩

/-- What one event the kernel comes back from does: it answers as `Answers` says, and it
either prints its text through `print!`, leaving the scheduler, or prints nothing and makes
one call on the scheduler, leaving the writer. A `print_vga_text` of text that is not UTF-8
prints no pieces. -/
theorem step_cases {e : Event} {o : Outcome} (h : step fuel e k = some (.ok (k', o))) :
    Answers k e o k' ∧
      ((∃ pieces, pieces.flatten = printed e ∧ print k pieces = .ok k') ∨
        (printed e = [] ∧ k'.writer = k.writer ∧
          ∃ op act, Scheduler.exec fuel op k.scheduler = some (.ok (k'.scheduler, act)))) := by
  cases e with
  | timer =>
    obtain ⟨⟨k₁, act⟩, h₁, hk⟩ := option_map_except_map_eq_ok h
    obtain ⟨rfl, rfl⟩ := Prod.mk.inj hk
    obtain ⟨s, hs, rfl⟩ := onScheduler_ok h₁
    exact ⟨⟨act, rfl, Scheduler.tick_switchedTo hs⟩, .inr ⟨rfl, rfl, .tick, act, hs⟩⟩
  | syscall mem syscallId arg0 arg1 =>
    by_cases h0 : syscallId = 0
    · -- `print_vga_text`
      simp only [step, syscallHandler, if_pos h0, printVgaText] at h
      by_cases hv : utf8Valid (bytesAt mem arg0.toNat arg1.toNat)
      · rw [if_pos hv] at h
        cases hp : print k [bytesAt mem arg0.toNat arg1.toNat] with
        | error p => simp [hp, bind, Except.bind, Except.map] at h
        | ok k₁ =>
          simp only [hp, bind, Except.bind, pure, Except.pure, Except.map, Option.some.injEq,
            Except.ok.injEq, Prod.mk.injEq] at h
          obtain ⟨rfl, rfl⟩ := h
          exact ⟨by simp [Answers, h0, hv], .inl ⟨_, by simp [printed, h0, hv], hp⟩⟩
      · simp only [hv, Bool.false_eq_true, if_false, pure, Except.pure, Except.map,
          Option.some.injEq, Except.ok.injEq, Prod.mk.injEq] at h
        obtain ⟨rfl, rfl⟩ := h
        exact ⟨by simp [Answers, h0, hv], .inl ⟨[], by simp [printed, h0, hv], rfl⟩⟩
    · by_cases h1 : syscallId = 1
      · -- `exit`
        simp only [step, syscallHandler, if_neg h0, if_pos h1] at h
        obtain ⟨⟨k₁, act⟩, h₁, hk⟩ := option_map_except_map_eq_ok h
        obtain ⟨rfl, rfl⟩ := Prod.mk.inj hk
        obtain ⟨s, hs, rfl⟩ := onScheduler_ok h₁
        have hans : Answers k (.syscall mem syscallId arg0 arg1) (.exited act)
            { k with scheduler := s } := by
          simp only [Answers, if_neg h0, if_pos h1]
          exact ⟨act, rfl, Scheduler.endCurrentTask_switchedTo hs⟩
        exact ⟨hans, .inr ⟨by simp [printed, h1], rfl, .endCurrentTask, act, hs⟩⟩
      · -- `default_syscall`
        simp only [step, syscallHandler, if_neg h0, if_neg h1, defaultSyscall] at h
        cases hp : print k [asciiBytes "unknown syscall: ",
            (Nat.toDigits 10 syscallId.toNat).map (fun c => c.toNat.toUInt8),
            asciiBytes "\n"] with
        | error p => simp [hp, bind, Except.bind, Except.map] at h
        | ok k₁ =>
          simp only [hp, bind, Except.bind, pure, Except.pure, Except.map, Option.some.injEq,
            Except.ok.injEq, Prod.mk.injEq] at h
          obtain ⟨rfl, rfl⟩ := h
          exact ⟨by simp [Answers, h0, h1],
            .inl ⟨_, by simp [printed, unknownSyscallText, h0, h1], hp⟩⟩

/-- Where an event stops: in `print!`, or in a call on the scheduler, with its message. -/
theorem step_error {e : Event} {p : Panic} (h : step fuel e k = some (.error p)) :
    (∃ pieces, print k pieces = .error p) ∨
      ∃ op msg, Scheduler.exec fuel op k.scheduler = some (.error msg) ∧ p = .scheduler msg := by
  cases e with
  | timer =>
    cases hr : timerInterruptHandler fuel k with
    | none => simp [step, hr] at h
    | some r =>
      cases r with
      | ok r => simp [step, hr, Except.map] at h
      | error p' =>
        simp only [step, hr, Option.map_some, Except.map, Option.some.injEq,
          Except.error.injEq] at h
        subst h
        obtain ⟨msg, hmsg, rfl⟩ := onScheduler_error hr
        exact .inr ⟨.tick, msg, hmsg, rfl⟩
  | syscall mem syscallId arg0 arg1 =>
    by_cases h0 : syscallId = 0
    · simp only [step, syscallHandler, if_pos h0, printVgaText] at h
      by_cases hv : utf8Valid (bytesAt mem arg0.toNat arg1.toNat)
      · rw [if_pos hv] at h
        cases hp : print k [bytesAt mem arg0.toNat arg1.toNat] with
        | ok k₁ => simp [hp, bind, Except.bind, pure, Except.pure, Except.map] at h
        | error p' =>
          simp only [hp, bind, Except.bind, Except.map, Option.some.injEq,
            Except.error.injEq] at h
          exact .inl ⟨_, h ▸ hp⟩
      · simp [hv, pure, Except.pure, Except.map] at h
    · by_cases h1 : syscallId = 1
      · simp only [step, syscallHandler, if_neg h0, if_pos h1] at h
        cases hr : exit fuel k with
        | none => simp [hr] at h
        | some r =>
          cases r with
          | ok r => simp [hr, Except.map] at h
          | error p' =>
            simp only [hr, Option.map_some, Except.map, Option.some.injEq,
              Except.error.injEq] at h
            subst h
            obtain ⟨msg, hmsg, rfl⟩ := onScheduler_error hr
            exact .inr ⟨.endCurrentTask, msg, hmsg, rfl⟩
      · simp only [step, syscallHandler, if_neg h0, if_neg h1, defaultSyscall] at h
        cases hp : print k [asciiBytes "unknown syscall: ",
            (Nat.toDigits 10 syscallId.toNat).map (fun c => c.toNat.toUInt8),
            asciiBytes "\n"] with
        | ok k₁ => simp [hp, bind, Except.bind, pure, Except.pure, Except.map] at h
        | error p' =>
          simp only [hp, bind, Except.bind, Except.map, Option.some.injEq,
            Except.error.injEq] at h
          exact .inl ⟨_, h ▸ hp⟩

/-- Every event the kernel comes back from keeps the screen showing what it printed after
`l`, and a reachable scheduler reachable. -/
theorem step_cursor {e : Event} {o : Outcome} (hw : Cursor k.writer l)
    (hs : Scheduler.Reachable k.scheduler) (h : step fuel e k = some (.ok (k', o))) :
    Cursor k'.writer ((printed e).foldl (fun l b => l.push (printable b)) l) ∧
      Scheduler.Reachable k'.scheduler := by
  rcases (step_cases h).2 with ⟨pieces, hflat, hp⟩ | ⟨hnone, hwriter, op, act, hexec⟩
  · obtain ⟨k₁, hk₁, hsched, hc⟩ := print_cursor hw pieces
    -- `print!` is a function, so its writer is the one `print_cursor` describes
    obtain rfl : k₁ = k' := Except.ok.inj (hk₁.symm.trans hp)
    exact ⟨hflat ▸ hc, hsched ▸ hs⟩
  · rw [hnone, hwriter]
    exact ⟨hw, reachable_of_exec hs hexec⟩

/-- From a writer that shows a layout and a reachable scheduler, an event can stop only in
the scheduler: on an overflow check of its scan, or with no current task to end. -/
theorem step_error_scheduler {e : Event} {p : Panic} (hw : Cursor k.writer l)
    (hs : Scheduler.Reachable k.scheduler) (h : step fuel e k = some (.error p)) :
    ∃ msg, p = .scheduler msg ∧ (Scheduler.ScanPanic msg ∨ msg = "failed to get current task") := by
  rcases step_error h with ⟨pieces, hp⟩ | ⟨op, msg, hexec, rfl⟩
  · -- `print!` from a writer that shows a layout always comes back
    obtain ⟨k₁, hk₁, -⟩ := print_cursor hw pieces
    rw [hk₁] at hp
    cases hp
  · exact ⟨msg, rfl, Scheduler.exec_error (Scheduler.schedInv_of_reachable hs) hexec⟩

end Step

/-! ### Whole runs -/

section Run

variable {fuel : Nat}

/-- Over a run the kernel comes back from, from a writer that shows `l` and a reachable
scheduler: the screen shows everything the run printed laid out after `l`, the scheduler
stays reachable, and every event answers as `Answers` says, from the kernel the run has
reached to the one the event leaves. -/
theorem run_cursor : ∀ {events : List Event} {k k' : Kernel P} {outs : List Outcome}
    {l : Layout}, Cursor k.writer l → Scheduler.Reachable k.scheduler →
    runSteps (step fuel) events k = some (.ok (k', outs)) →
    Cursor k'.writer ((events.flatMap printed).foldl (fun l b => l.push (printable b)) l) ∧
      Scheduler.Reachable k'.scheduler ∧ Trace Answers k events outs k'
  | [], k, k', outs, l, hw, hs, h => by
    simp only [runSteps, Option.some.injEq, Except.ok.injEq, Prod.mk.injEq] at h
    obtain ⟨rfl, rfl⟩ := h
    exact ⟨hw, hs, .nil k⟩
  | e :: events, k, k', outs, l, hw, hs, h => by
    obtain ⟨k₁, o, outs', hstep, hrest, rfl⟩ := runSteps_cons h
    obtain ⟨hw₁, hs₁⟩ := step_cursor hw hs hstep
    obtain ⟨hw', hs', hans⟩ := run_cursor hw₁ hs₁ hrest
    refine ⟨?_, hs', .cons (step_cases hstep).1 hans⟩
    rwa [List.flatMap_cons, List.foldl_append]

/-- A run from a writer that shows a layout and a reachable scheduler stops only in the
scheduler: on an overflow check of its scan, or at `exit` with no current task. -/
theorem run_error_scheduler : ∀ {events : List Event} {k : Kernel P} {l : Layout} {p : Panic},
    Cursor k.writer l → Scheduler.Reachable k.scheduler →
    runSteps (step fuel) events k = some (.error p) →
    ∃ msg, p = .scheduler msg ∧ (Scheduler.ScanPanic msg ∨ msg = "failed to get current task")
  | [], _, _, _, _, _, h => by simp [runSteps] at h
  | e :: events, k, l, p, hw, hs, h => by
    rcases runSteps_cons_error h with hstep | ⟨k₁, o, hstep, hrest⟩
    · exact step_error_scheduler hw hs hstep
    · -- the first event came back, and the rest of the run stopped
      obtain ⟨hw₁, hs₁⟩ := step_cursor hw hs hstep
      exact run_error_scheduler hw₁ hs₁ hrest

/-- From a cleared screen with the cursor at the top left and a reachable scheduler, a run of
system calls and timer interrupts that the kernel comes back from leaves every cell showing
the character of the layout of all the text the run printed, in order; the scheduler is still
reachable; and each event answers as `Answers` says: `print_vga_text` 0 or -1 as its text is
UTF-8, an unknown call 0, and `exit` and a preempting tick the task the scheduler switches
to. -/
theorem run_shows_printed {w : Writer} {s : Scheduler P} {k' : Kernel P}
    {events : List Event} {outs : List Outcome} (hrow : w.row = 0) (hcol : w.col = 0)
    (hs : Scheduler.Reachable s)
    (h : runSteps (step fuel) events ⟨clearScreen w, s⟩ = some (.ok (k', outs))) :
    (∀ r < bufferHeight, ∀ c < bufferWidth,
      (k'.writer.buffer r c).char = (layout (events.flatMap printed)).screenChar r c) ∧
      Scheduler.Reachable k'.scheduler ∧ Trace Answers ⟨clearScreen w, s⟩ events outs k' := by
  obtain ⟨hw, hs', hans⟩ :=
    run_cursor (k := ⟨clearScreen w, s⟩) (clearScreen_cursor hrow hcol) hs h
  refine ⟨fun r hr c hc => ?_, hs', hans⟩
  rw [hw.cells r hr c hc, layout]

/-- "Hi" printed from a process's memory, an unknown call 7 and a tick of the scheduler before
it is enabled, on a new writer: row 0 shows the "i" at column 1. -/
theorem run_shows_printed_hi :
    ∃ (k' : Kernel Unit) (outs : List Outcome), (Writer.new fun _ _ => ⟨0, 0⟩).row = 0 ∧
      (Writer.new fun _ _ => ⟨0, 0⟩).col = 0 ∧
      Scheduler.Reachable (Scheduler.scheduler : Scheduler Unit) ∧
      runSteps (step 1) [Event.syscall (fun a => if a = 0 then 0x48 else 0x69) 0 0 2,
          Event.syscall (fun _ => 0) 7 0 0, Event.timer]
        ⟨clearScreen (Writer.new fun _ _ => ⟨0, 0⟩), Scheduler.scheduler⟩ = some (.ok (k', outs)) ∧
      (k'.writer.buffer 0 1).char = 0x69 := by
  obtain ⟨k', outs, hrun⟩ : ∃ (k' : Kernel Unit) (outs : List Outcome),
      runSteps (step 1) [Event.syscall (fun a => if a = 0 then 0x48 else 0x69) 0 0 2,
          Event.syscall (fun _ => 0) 7 0 0, Event.timer]
        ⟨clearScreen (Writer.new fun _ _ => ⟨0, 0⟩), Scheduler.scheduler⟩ = some (.ok (k', outs)) :=
    ⟨_, _, rfl⟩
  refine ⟨k', outs, rfl, rfl, LobsterOS.Reachable.refl, hrun, ?_⟩
  rw [(run_shows_printed rfl rfl LobsterOS.Reachable.refl hrun).1 0 (by decide) 1 (by decide)]
  decide

/-- From a cleared screen and a reachable scheduler, no run of system calls and timer
interrupts ever panics in the writer: a run that stops, stops in the scheduler, on an overflow
check of its scan or at an `exit` with no current task. -/
theorem run_never_panics_in_writer {w : Writer} {s : Scheduler P} {events : List Event}
    {p : Panic} (hrow : w.row = 0) (hcol : w.col = 0) (hs : Scheduler.Reachable s)
    (h : runSteps (step fuel) events ⟨clearScreen w, s⟩ = some (.error p)) :
    ∃ msg, p = .scheduler msg ∧ (Scheduler.ScanPanic msg ∨ msg = "failed to get current task") :=
  run_error_scheduler (k := ⟨clearScreen w, s⟩) (clearScreen_cursor hrow hcol) hs h

/-- An `exit` before any task has run stops in the scheduler, with no current task to end. -/
theorem run_never_panics_in_writer_exit :
    (Writer.new fun _ _ => ⟨0, 0⟩).row = 0 ∧ (Writer.new fun _ _ => ⟨0, 0⟩).col = 0 ∧
      Scheduler.Reachable (Scheduler.scheduler : Scheduler Unit) ∧
      runSteps (step 1) [Event.syscall (fun _ => 0) 1 0 0]
        ⟨clearScreen (Writer.new fun _ _ => ⟨0, 0⟩), (Scheduler.scheduler : Scheduler Unit)⟩ =
          some (.error (.scheduler "failed to get current task")) ∧
      ∃ msg, Panic.scheduler "failed to get current task" = .scheduler msg ∧
        (Scheduler.ScanPanic msg ∨ msg = "failed to get current task") := by
  have hrun : runSteps (step 1) [Event.syscall (fun _ => 0) 1 0 0]
      ⟨clearScreen (Writer.new fun _ _ => ⟨0, 0⟩), (Scheduler.scheduler : Scheduler Unit)⟩ =
        some (.error (.scheduler "failed to get current task")) := rfl
  exact ⟨rfl, rfl, LobsterOS.Reachable.refl, hrun,
    run_never_panics_in_writer rfl rfl LobsterOS.Reachable.refl hrun⟩

end Run

end LobsterOS.Syscall
