import LobsterOS.Executor

/-! What every interleaving of spawns, wakes and `run_ready_tasks` steps keeps: the waker cache,
the wakers polls use, and ids that no spawn reuses. -/

namespace LobsterOS.Async

variable {F : Type}

def Op.isSpawn : Op F → Bool
  | .spawn _ => true
  | _ => false

def Event.spawnedId? : Event → Option Nat
  | .spawned taskId => some taskId
  | _ => none

/-- An event whose spawned id is `n` if anything is a spawn of `n`. -/
theorem Event.spawned_of_spawnedId? {ev : Event} {b : Bool} {n taskId : Nat}
    (hev : ev.spawnedId? = (if b then some n else none)) (he : ev = .spawned taskId) :
    b ∧ taskId = n := by
  subst he
  cases b with
  | false => cases hev
  | true =>
    simp only [spawnedId?, if_true, Option.some.injEq] at hev
    exact ⟨rfl, hev⟩

/-- The waker cache holds a waker only for a live task, and that waker is for its key. -/
def CacheInv (e : Executor F) : Prop :=
  ∀ taskId w, e.wakerCache taskId = some w → w.taskId = taskId ∧ (e.tasks taskId).isSome

/-! ### What each call can do -/

namespace Executor

theorem spawn_ok {task : Task F} {e e' : Executor F} (h : e.spawn task = .ok e') :
    e.tasks task.id = none ∧ ∃ q, queuePush e.taskQueue task.id = some q ∧
      e' = { e with tasks := Function.update e.tasks task.id (some task), taskQueue := q } := by
  unfold spawn at h
  cases ht : e.tasks task.id with
  | some t => simp [ht] at h
  | none =>
    cases hq : queuePush e.taskQueue task.id with
    | none => simp [ht, hq] at h
    | some q =>
      simp only [ht, hq, Option.isSome_none, Bool.false_eq_true, if_false, Except.ok.injEq] at h
      exact ⟨rfl, q, rfl, h.symm⟩

theorem spawn_error {task : Task F} {e : Executor F}
    (h : e.spawn task = .error "Task with same ID already in tasks") : (e.tasks task.id).isSome := by
  unfold spawn at h
  cases ht : e.tasks task.id with
  | some t => rfl
  | none =>
    cases hq : queuePush e.taskQueue task.id with
    | none => simp [ht, hq] at h
    | some q => simp [ht, hq] at h

/-- A pass of `run_ready_tasks` pops the front id; a stale id is skipped, and a live task
is polled with its cached waker or a new one for its id, and removed with it on `Ready`. -/
theorem runReadyStep_some {result : Poll} {e e' : Executor F} {taskId : Nat}
    {w : Option TaskWaker} (h : e.runReadyStep result = some (e', taskId, w)) :
    ∃ q, e.taskQueue = taskId :: q ∧
      ((e.tasks taskId = none ∧ w = none ∧ e' = { e with taskQueue := q }) ∨
       ((e.tasks taskId).isSome ∧ w = some ((e.wakerCache taskId).getD ⟨taskId⟩) ∧
        ((result = .Ready ∧ e' = ⟨Function.update e.tasks taskId none, q,
            Function.update e.wakerCache taskId none⟩) ∨
         (result = .Pending ∧ e' = ⟨e.tasks, q,
            Function.update e.wakerCache taskId (some ((e.wakerCache taskId).getD ⟨taskId⟩))⟩)))) := by
  unfold runReadyStep at h
  cases hq : e.taskQueue with
  | nil => simp [hq] at h
  | cons id q =>
    cases ht : e.tasks id with
    | none =>
      simp only [hq, ht, Option.some.injEq, Prod.mk.injEq] at h
      obtain ⟨rfl, rfl, rfl⟩ := h
      exact ⟨q, rfl, .inl ⟨ht, rfl, rfl⟩⟩
    | some t =>
      cases result with
      | Ready =>
        simp only [hq, ht, Option.some.injEq, Prod.mk.injEq] at h
        obtain ⟨rfl, rfl, rfl⟩ := h
        exact ⟨q, rfl, .inr ⟨by simp [ht], rfl, .inl ⟨rfl, rfl⟩⟩⟩
      | Pending =>
        simp only [hq, ht, Option.some.injEq, Prod.mk.injEq] at h
        obtain ⟨rfl, rfl, rfl⟩ := h
        exact ⟨q, rfl, .inr ⟨by simp [ht], rfl, .inr ⟨rfl, rfl⟩⟩⟩

end Executor

namespace System

theorem exec_spawn_ok {future : F} {s s' : System F} {ev : Event}
    (h : exec (.spawn future) s = .ok (s', ev)) :
    s.executor.spawn ⟨s.nextId, future⟩ = .ok s'.executor ∧ s'.nextId = (s.nextId+1)%2^64 ∧
      ev = .spawned s.nextId := by
  simp only [exec] at h
  cases hs : s.executor.spawn ⟨s.nextId, future⟩ with
  | error e => simp [hs, Except.map] at h
  | ok e =>
    simp only [hs, Except.map, Except.ok.injEq, Prod.mk.injEq] at h
    obtain ⟨rfl, rfl⟩ := h
    exact ⟨rfl, rfl, rfl⟩

theorem exec_wake_ok {taskId : Nat} {s s' : System F} {ev : Event}
    (h : exec (.wake taskId) s = .ok (s', ev)) :
    ∃ q, s' = ⟨⟨s.executor.tasks, q, s.executor.wakerCache⟩, s.nextId⟩ ∧ ev = .woke taskId := by
  simp only [exec] at h
  cases hq : queuePush s.executor.taskQueue taskId with
  | none => simp [hq] at h
  | some q =>
    simp only [hq, Except.ok.injEq, Prod.mk.injEq] at h
    exact ⟨q, h.1.symm, h.2.symm⟩

theorem exec_runStep_ok {result : Poll} {s s' : System F} {ev : Event}
    (h : exec (.runStep result) s = .ok (s', ev)) :
    s'.nextId = s.nextId ∧
      ((s' = s ∧ ev = .idle) ∨
       (∃ taskId, s.executor.runReadyStep result = some (s'.executor, taskId, none) ∧
         ev = .skipped taskId) ∨
       (∃ taskId w, s.executor.runReadyStep result = some (s'.executor, taskId, some w) ∧
         ev = .polled taskId w result)) := by
  simp only [exec] at h
  cases hr : s.executor.runReadyStep result with
  | none =>
    simp only [hr, Except.ok.injEq, Prod.mk.injEq] at h
    obtain ⟨rfl, rfl⟩ := h
    exact ⟨rfl, .inl ⟨rfl, rfl⟩⟩
  | some r =>
    obtain ⟨e, taskId, w⟩ := r
    cases w with
    | none =>
      simp only [hr, Except.ok.injEq, Prod.mk.injEq] at h
      obtain ⟨rfl, rfl⟩ := h
      exact ⟨rfl, .inr (.inl ⟨taskId, rfl, rfl⟩)⟩
    | some w =>
      simp only [hr, Except.ok.injEq, Prod.mk.injEq] at h
      obtain ⟨rfl, rfl⟩ := h
      exact ⟨rfl, .inr (.inr ⟨taskId, w, rfl, rfl⟩)⟩

theorem exec_spawn_error {future : F} {s : System F} {e : String}
    (h : exec (.spawn future) s = .error e) : s.executor.spawn ⟨s.nextId, future⟩ = .error e := by
  simp only [exec] at h
  cases hs : s.executor.spawn ⟨s.nextId, future⟩ with
  | error e' => simpa [hs, Except.map] using h
  | ok e' => simp [hs, Except.map] at h

/-! ### One step -/

/-- Only a spawn makes an id live. -/
theorem exec_live {op : Op F} {s s' : System F} {ev : Event} (h : exec op s = .ok (s', ev))
    {taskId : Nat} (hl : (s'.executor.tasks taskId).isSome) :
    (s.executor.tasks taskId).isSome ∨ ev = .spawned taskId := by
  cases op with
  | spawn future =>
    obtain ⟨hs, -, rfl⟩ := exec_spawn_ok h
    obtain ⟨-, q, -, he⟩ := Executor.spawn_ok hs
    rw [he] at hl
    by_cases hid : taskId = s.nextId
    · exact .inr (by rw [hid])
    · exact .inl (by simpa [Function.update_of_ne hid] using hl)
  | wake id =>
    obtain ⟨q, rfl, -⟩ := exec_wake_ok h
    exact .inl hl
  | runStep r =>
    obtain ⟨-, ⟨rfl, -⟩ | ⟨id, hr, -⟩ | ⟨id, w, hr, -⟩⟩ := exec_runStep_ok h
    · exact .inl hl
    · obtain ⟨q, -, ⟨-, -, he⟩ | ⟨-, hw, -⟩⟩ := Executor.runReadyStep_some hr
      · rw [he] at hl
        exact .inl hl
      · cases hw
    · obtain ⟨q, -, ⟨-, hw, -⟩ | ⟨-, -, ⟨-, he⟩ | ⟨-, he⟩⟩⟩ := Executor.runReadyStep_some hr
      · cases hw
      · rw [he] at hl
        left
        by_cases hid : taskId = id
        · simp [hid] at hl
        · simpa [Function.update_of_ne hid] using hl
      · rw [he] at hl
        exact .inl hl

/-- A poll is of a live task, with its cached waker or a new one for its id, and `Ready`
takes the task out of `tasks`. -/
theorem exec_polled {op : Op F} {s s' : System F} {taskId : Nat} {w : TaskWaker} {r : Poll}
    (h : exec op s = .ok (s', .polled taskId w r)) :
    (s.executor.tasks taskId).isSome ∧ w = (s.executor.wakerCache taskId).getD ⟨taskId⟩ ∧
      (r = .Ready → s'.executor.tasks taskId = none) := by
  cases op with
  | spawn future =>
    obtain ⟨-, -, he⟩ := exec_spawn_ok h
    cases he
  | wake id =>
    obtain ⟨q, -, he⟩ := exec_wake_ok h
    cases he
  | runStep r' =>
    obtain ⟨-, ⟨-, he⟩ | ⟨id, -, he⟩ | ⟨id, w', hr, he⟩⟩ := exec_runStep_ok h
    · cases he
    · cases he
    · cases he
      obtain ⟨q, -, ⟨-, hw, -⟩ | ⟨hl, hw, ⟨-, he⟩ | ⟨hp, -⟩⟩⟩ := Executor.runReadyStep_some hr
      · cases hw
      · cases hw
        refine ⟨hl, rfl, fun _ => ?_⟩
        rw [he]
        simp
      · cases hw
        refine ⟨hl, rfl, fun hr' => ?_⟩
        rw [hr'] at hp
        cases hp

theorem getD_taskId {e : Executor F} (hi : CacheInv e) (taskId : Nat) :
    ((e.wakerCache taskId).getD ⟨taskId⟩).taskId = taskId := by
  cases hc : e.wakerCache taskId with
  | none => rfl
  | some w => exact (hi taskId w hc).1

/-- Every call keeps the waker cache to live tasks, each waker under its own id. -/
theorem exec_cacheInv {op : Op F} {s s' : System F} {ev : Event} (hi : CacheInv s.executor)
    (h : exec op s = .ok (s', ev)) : CacheInv s'.executor := by
  cases op with
  | spawn future =>
    obtain ⟨hs, -, -⟩ := exec_spawn_ok h
    obtain ⟨-, q, -, he⟩ := Executor.spawn_ok hs
    intro id w hw
    rw [he] at hw ⊢
    obtain ⟨hid, hl⟩ := hi id w hw
    refine ⟨hid, ?_⟩
    by_cases hn : id = s.nextId
    · simp [hn]
    · simpa [Function.update_of_ne hn] using hl
  | wake id =>
    obtain ⟨q, rfl, -⟩ := exec_wake_ok h
    exact hi
  | runStep r =>
    obtain ⟨-, ⟨rfl, -⟩ | ⟨id, hr, -⟩ | ⟨id, w, hr, -⟩⟩ := exec_runStep_ok h
    · exact hi
    · obtain ⟨q, -, ⟨-, -, he⟩ | ⟨-, hw, -⟩⟩ := Executor.runReadyStep_some hr
      · rw [he]
        exact hi
      · cases hw
    · obtain ⟨q, -, ⟨-, hw, -⟩ | ⟨hl, -, ⟨-, he⟩ | ⟨-, he⟩⟩⟩ := Executor.runReadyStep_some hr
      · cases hw
      · -- `Ready` drops the task and its waker together
        intro id' w' hw'
        rw [he] at hw' ⊢
        by_cases hn : id' = id
        · simp [hn] at hw'
        · simp only [Function.update_of_ne hn] at hw' ⊢
          exact hi id' w' hw'
      · -- `Pending` caches the waker it polled with, which is for this id
        intro id' w' hw'
        rw [he] at hw' ⊢
        by_cases hn : id' = id
        · subst hn
          simp only [Function.update_self, Option.some.injEq] at hw'
          rw [← hw']
          exact ⟨getD_taskId hi id', hl⟩
        · simp only [Function.update_of_ne hn] at hw'
          exact hi id' w' hw'

/-- What a call does to `NEXT_ID` and which id it spawns, while `NEXT_ID` stays below
`2^64`: a spawn draws the next id, which no live task has, and nothing else moves it. -/
theorem exec_nextId {op : Op F} {s s' : System F} {ev : Event} (h : exec op s = .ok (s', ev))
    (hf : ∀ taskId, (s.executor.tasks taskId).isSome → taskId < s.nextId)
    (hb : s.nextId+(if op.isSpawn then 1 else 0) < 2^64) :
    s'.nextId = s.nextId+(if op.isSpawn then 1 else 0) ∧
    ev.spawnedId? = (if op.isSpawn then some s.nextId else none) ∧
    ∀ taskId, (s'.executor.tasks taskId).isSome → taskId < s'.nextId := by
  have hn : s'.nextId = s.nextId+(if op.isSpawn then 1 else 0) := by
    cases op with
    | spawn future =>
      obtain ⟨-, hn, -⟩ := exec_spawn_ok h
      simp only [Op.isSpawn, if_true] at hb ⊢
      rw [hn, Nat.mod_eq_of_lt hb]
    | wake id =>
      obtain ⟨q, rfl, -⟩ := exec_wake_ok h
      simp [Op.isSpawn]
    | runStep r =>
      obtain ⟨hn, -⟩ := exec_runStep_ok h
      simp [Op.isSpawn, hn]
  have hev : ev.spawnedId? = (if op.isSpawn then some s.nextId else none) := by
    cases op with
    | spawn future =>
      obtain ⟨-, -, rfl⟩ := exec_spawn_ok h
      rfl
    | wake id =>
      obtain ⟨q, -, rfl⟩ := exec_wake_ok h
      rfl
    | runStep r =>
      obtain ⟨-, ⟨-, rfl⟩ | ⟨id, -, rfl⟩ | ⟨id, w, -, rfl⟩⟩ := exec_runStep_ok h
      all_goals rfl
  refine ⟨hn, hev, fun taskId hl => ?_⟩
  rcases exec_live h hl with hl | rfl
  · have := hf taskId hl
    omega
  · -- the spawned id is the one `NEXT_ID` held
    obtain ⟨hsp, rfl⟩ := Event.spawned_of_spawnedId? hev rfl
    rw [hn, if_pos hsp]
    omega

/-- An id that is not live stays so through a step that does not spawn it. -/
theorem exec_not_live {op : Op F} {s s' : System F} {ev : Event} (h : exec op s = .ok (s', ev))
    {taskId : Nat} (hn : s.executor.tasks taskId = none) (hns : ev ≠ .spawned taskId) :
    s'.executor.tasks taskId = none := by
  rcases hl : s'.executor.tasks taskId with _ | t
  · rfl
  · rcases exec_live h (by rw [hl]; rfl) with hl' | hs
    · rw [hn] at hl'
      cases hl'
    · exact absurd hs hns

/-- A step never polls a task that is not live. -/
theorem exec_not_polled {op : Op F} {s s' : System F} {ev : Event} (h : exec op s = .ok (s', ev))
    {taskId : Nat} (hn : s.executor.tasks taskId = none) {w : TaskWaker} {r : Poll} :
    ev ≠ .polled taskId w r := by
  rintro rfl
  have := (exec_polled h).1
  rw [hn] at this
  cases this

/-! ### Whole runs -/

theorem runOps_cons {op : Op F} {ops : List (Op F)} {s s' : System F} {evs : List Event}
    (h : runOps (op :: ops) s = .ok (s', evs)) :
    ∃ s₁ ev evs', exec op s = .ok (s₁, ev) ∧ runOps ops s₁ = .ok (s', evs') ∧ evs = ev :: evs' := by
  cases he : exec op s with
  | error e => simp [runOps, he, bind, Except.bind] at h
  | ok r =>
    obtain ⟨s₁, ev⟩ := r
    cases hr : runOps ops s₁ with
    | error e => simp [runOps, he, hr, bind, Except.bind] at h
    | ok r' =>
      obtain ⟨s₂, evs'⟩ := r'
      simp only [runOps, he, hr, bind, Except.bind, pure, Except.pure, Except.ok.injEq] at h
      cases h
      exact ⟨s₁, ev, evs', rfl, hr, rfl⟩

/-- A run from a state where `taskId` is not live polls it only after spawning it. -/
theorem runOps_polled_after_spawn {ops : List (Op F)} {s s' : System F} {evs : List Event}
    {taskId : Nat} (h : runOps ops s = .ok (s', evs)) (hn : s.executor.tasks taskId = none)
    {j : Nat} {w : TaskWaker} {r : Poll} (hj : evs[j]? = some (.polled taskId w r)) :
    ∃ k, k < j ∧ evs[k]? = some (.spawned taskId) := by
  induction ops generalizing s evs j with
  | nil =>
    cases h
    simp at hj
  | cons op ops ih =>
    obtain ⟨s₁, ev, evs', hex, hrest, rfl⟩ := runOps_cons h
    by_cases hsp : ev = .spawned taskId
    · -- the spawn comes first, and the poll cannot be this same step
      cases j with
      | zero =>
        rw [hsp] at hj
        cases hj
      | succ j => exact ⟨0, by omega, by rw [hsp]; rfl⟩
    · have hn₁ := exec_not_live hex hn hsp
      cases j with
      | zero => exact absurd (Option.some.inj hj) (exec_not_polled hex hn)
      | succ j =>
        obtain ⟨k, hk, hke⟩ := ih hrest hn₁ (by simpa using hj)
        exact ⟨k+1, by omega, by simpa using hke⟩

/-- A run from a state where `taskId` is not live and already drawn, with `NEXT_ID` never
reaching `2^64`, never polls it. -/
theorem runOps_never_polled {ops : List (Op F)} {s s' : System F} {evs : List Event}
    {taskId : Nat} (h : runOps ops s = .ok (s', evs)) (hn : s.executor.tasks taskId = none)
    (hlt : taskId < s.nextId) (hf : ∀ id, (s.executor.tasks id).isSome → id < s.nextId)
    (hb : s.nextId+ops.countP Op.isSpawn < 2^64) {j : Nat} {w : TaskWaker} {r : Poll} :
    evs[j]? ≠ some (.polled taskId w r) := by
  induction ops generalizing s evs j with
  | nil =>
    cases h
    simp
  | cons op ops ih =>
    obtain ⟨s₁, ev, evs', hex, hrest, rfl⟩ := runOps_cons h
    rw [List.countP_cons] at hb
    obtain ⟨hn₁, hev, hf₁⟩ := exec_nextId hex hf (by omega)
    -- a spawn draws `NEXT_ID`, which is past `taskId`
    have hns : ev ≠ .spawned taskId := by
      intro he
      obtain ⟨-, rfl⟩ := Event.spawned_of_spawnedId? hev he
      omega
    have hnl := exec_not_live hex hn hns
    cases j with
    | zero => exact fun hj => exec_not_polled hex hn (Option.some.inj hj)
    | succ j =>
      simpa using ih hrest hnl (by omega) hf₁ (by omega)

theorem runOps_cons_ok {op : Op F} {ops : List (Op F)} {s s₁ s' : System F} {ev : Event}
    {evs : List Event} (hex : exec op s = .ok (s₁, ev)) (hr : runOps ops s₁ = .ok (s', evs)) :
    runOps (op :: ops) s = .ok (s', ev :: evs) := by
  simp only [runOps, hex, hr, bind, Except.bind, pure, Except.pure]

/-- The `j`-th step of a run polls only a task that is in `tasks` after the first `j` steps. -/
theorem runOps_polled_live {ops : List (Op F)} {s s' : System F} {evs : List Event}
    (h : runOps ops s = .ok (s', evs)) {j taskId : Nat} {w : TaskWaker} {r : Poll}
    (hj : evs[j]? = some (.polled taskId w r)) :
    ∃ sj evsj, runOps (ops.take j) s = .ok (sj, evsj) ∧ (sj.executor.tasks taskId).isSome := by
  induction ops generalizing s evs j with
  | nil =>
    cases h
    simp at hj
  | cons op ops ih =>
    obtain ⟨s₁, ev, evs', hex, hrest, rfl⟩ := runOps_cons h
    cases j with
    | zero =>
      simp only [List.getElem?_cons_zero, Option.some.injEq] at hj
      subst hj
      exact ⟨s, [], rfl, (exec_polled hex).1⟩
    | succ j =>
      obtain ⟨sj, evsj, hrun, hl⟩ := ih hrest (by simpa using hj)
      exact ⟨sj, ev :: evsj, runOps_cons_ok hex hrun, hl⟩

/-- The waker cache stays consistent along a run, and every poll uses a waker for its task. -/
theorem runOps_cacheInv {ops : List (Op F)} {s s' : System F} {evs : List Event}
    (hi : CacheInv s.executor) (h : runOps ops s = .ok (s', evs)) :
    CacheInv s'.executor ∧ ∀ taskId w r, Event.polled taskId w r ∈ evs → w.taskId = taskId := by
  induction ops generalizing s evs with
  | nil =>
    cases h
    exact ⟨hi, by simp⟩
  | cons op ops ih =>
    obtain ⟨s₁, ev, evs', hex, hrest, rfl⟩ := runOps_cons h
    obtain ⟨hi', hw⟩ := ih (exec_cacheInv hi hex) hrest
    refine ⟨hi', fun taskId w r hm => ?_⟩
    rcases List.mem_cons.1 hm with he | hm
    · -- this step's poll: its waker is the cached one or a new one for the id
      subst he
      rw [(exec_polled hex).2.1]
      exact getD_taskId hi taskId
    · exact hw taskId w r hm

/-- After a poll returns `Ready`, the same id is polled again only after a spawn draws it. -/
theorem runOps_ready_then_spawn {ops : List (Op F)} {s s' : System F} {evs : List Event}
    (h : runOps ops s = .ok (s', evs)) {i j taskId : Nat} {w w' : TaskWaker} {r : Poll}
    (hij : i < j) (hi : evs[i]? = some (.polled taskId w .Ready))
    (hj : evs[j]? = some (.polled taskId w' r)) :
    ∃ k, i < k ∧ k < j ∧ evs[k]? = some (.spawned taskId) := by
  induction ops generalizing s evs i j with
  | nil =>
    cases h
    simp at hi
  | cons op ops ih =>
    obtain ⟨s₁, ev, evs', hex, hrest, rfl⟩ := runOps_cons h
    obtain ⟨j, rfl⟩ : ∃ j', j = j'+1 := ⟨j-1, by omega⟩
    have hj' : evs'[j]? = some (.polled taskId w' r) := by simpa using hj
    cases i with
    | zero =>
      -- the `Ready` poll is this step, so the task is gone from here on
      simp only [List.getElem?_cons_zero, Option.some.injEq] at hi
      subst hi
      obtain ⟨k, hk, hke⟩ := runOps_polled_after_spawn hrest ((exec_polled hex).2.2 rfl) hj'
      exact ⟨k+1, by omega, by omega, by simpa using hke⟩
    | succ i =>
      have hi' : evs'[i]? = some (.polled taskId w .Ready) := by simpa using hi
      obtain ⟨k, hik, hkj, hke⟩ := ih hrest (by omega) hi' hj'
      exact ⟨k+1, by omega, by omega, by simpa using hke⟩

/-- While `NEXT_ID` stays below `2^64`, a run spawns the ids `NEXT_ID, NEXT_ID+1, ...` in
order, and every live id stays below `NEXT_ID`. -/
theorem runOps_spawned_ids {ops : List (Op F)} {s s' : System F} {evs : List Event}
    (h : runOps ops s = .ok (s', evs))
    (hf : ∀ taskId, (s.executor.tasks taskId).isSome → taskId < s.nextId)
    (hb : s.nextId+ops.countP Op.isSpawn < 2^64) :
    evs.filterMap Event.spawnedId? = List.range' s.nextId (ops.countP Op.isSpawn) ∧
    s'.nextId = s.nextId+ops.countP Op.isSpawn ∧
    ∀ taskId, (s'.executor.tasks taskId).isSome → taskId < s'.nextId := by
  induction ops generalizing s evs with
  | nil =>
    cases h
    exact ⟨rfl, rfl, hf⟩
  | cons op ops ih =>
    obtain ⟨s₁, ev, evs', hex, hrest, rfl⟩ := runOps_cons h
    rw [List.countP_cons] at hb ⊢
    obtain ⟨hn₁, hev, hf₁⟩ := exec_nextId hex hf (by omega)
    obtain ⟨hids, hn', hf'⟩ := ih hrest hf₁ (by omega)
    refine ⟨?_, by omega, hf'⟩
    rw [List.filterMap_cons, hev, hids, hn₁]
    by_cases hsp : op.isSpawn
    · -- a spawn draws `NEXT_ID`, and the rest of the run draws from the one after it
      simp only [hsp, ↓reduceIte]
      rw [List.range'_succ]
    · simp [hsp]

/-- While fewer than `2^64` ids are drawn, a task whose poll returned `Ready` is never polled
again. -/
theorem runOps_ready_final {ops : List (Op F)} {s s' : System F} {evs : List Event}
    (h : runOps ops s = .ok (s', evs))
    (hf : ∀ taskId, (s.executor.tasks taskId).isSome → taskId < s.nextId)
    (hb : s.nextId+ops.countP Op.isSpawn < 2^64) {i j taskId : Nat} {w w' : TaskWaker}
    {r : Poll} (hij : i < j) (hi : evs[i]? = some (.polled taskId w .Ready)) :
    evs[j]? ≠ some (.polled taskId w' r) := by
  induction ops generalizing s evs i j with
  | nil =>
    cases h
    simp at hi
  | cons op ops ih =>
    obtain ⟨s₁, ev, evs', hex, hrest, rfl⟩ := runOps_cons h
    rw [List.countP_cons] at hb
    obtain ⟨hn₁, -, hf₁⟩ := exec_nextId hex hf (by omega)
    obtain ⟨j, rfl⟩ : ∃ j', j = j'+1 := ⟨j-1, by omega⟩
    simp only [List.getElem?_cons_succ]
    cases i with
    | zero =>
      simp only [List.getElem?_cons_zero, Option.some.injEq] at hi
      subst hi
      obtain ⟨hl, -, hgone⟩ := exec_polled hex
      -- the finished id was drawn already, and the rest of the run draws only new ones
      have hlt : taskId < s₁.nextId := by
        have := hf taskId hl
        omega
      exact runOps_never_polled hrest (hgone rfl) hlt hf₁ (by omega)
    | succ i =>
      have hi' : evs'[i]? = some (.polled taskId w .Ready) := by simpa using hi
      exact ih hrest hf₁ (by omega) (by omega) hi'

/-- Every interleaving of spawns, wakes and steps of `run_ready_tasks` from `Executor::new`
keeps each cached waker under its own id and for a live task, polls a task only while it is in
`tasks` and always with its own waker, and polls a finished task's id again only after a spawn has drawn that id again.
While fewer than `2^64` tasks have been spawned, `TaskId::new` hands out `0, 1, 2, ...`, a
finished task is never polled again, and a spawn cannot reach its duplicate-id panic. -/
theorem executor_run_safe {ops : List (Op F)} {s : System F} {evs : List Event}
    (h : runOps ops init = .ok (s, evs)) :
    (∀ taskId w, s.executor.wakerCache taskId = some w →
      w.taskId = taskId ∧ (s.executor.tasks taskId).isSome) ∧
    (∀ taskId w r, Event.polled taskId w r ∈ evs → w.taskId = taskId) ∧
    (∀ (j taskId : Nat) (w : TaskWaker) (r : Poll), evs[j]? = some (.polled taskId w r) →
      ∃ sj evsj, runOps (ops.take j) init = .ok (sj, evsj) ∧ (sj.executor.tasks taskId).isSome) ∧
    (∀ (i j taskId : Nat) (w w' : TaskWaker) (r : Poll), i < j →
      evs[i]? = some (.polled taskId w .Ready) → evs[j]? = some (.polled taskId w' r) →
      ∃ k, i < k ∧ k < j ∧ evs[k]? = some (.spawned taskId)) ∧
    (ops.countP Op.isSpawn < 2^64 →
      evs.filterMap Event.spawnedId? = List.range (ops.countP Op.isSpawn) ∧
      (∀ (i j taskId : Nat) (w w' : TaskWaker) (r : Poll), i < j →
        evs[i]? = some (.polled taskId w .Ready) → evs[j]? ≠ some (.polled taskId w' r)) ∧
      ∀ future, exec (.spawn future) s ≠ .error "Task with same ID already in tasks") := by
  have hi₀ : CacheInv (init : System F).executor := fun _ _ h => by cases h
  have hf₀ : ∀ taskId, ((init : System F).executor.tasks taskId).isSome →
      taskId < (init : System F).nextId := fun _ h => by cases h
  obtain ⟨hcache, hwakers⟩ := runOps_cacheInv hi₀ h
  refine ⟨hcache, hwakers, fun j taskId w r hj => runOps_polled_live h hj,
    fun i j taskId w w' r hij hi hj => runOps_ready_then_spawn h hij hi hj, fun hb => ?_⟩
  have hb₀ : (init : System F).nextId+ops.countP Op.isSpawn < 2^64 := by simpa [init] using hb
  obtain ⟨hids, -, hf⟩ := runOps_spawned_ids h hf₀ hb₀
  refine ⟨by simpa [init, List.range_eq_range'] using hids,
    fun i j taskId w w' r hij hi => runOps_ready_final h hf₀ hb₀ hij hi, fun future he => ?_⟩
  -- `NEXT_ID` is past every live id, so the duplicate check passes
  have := hf s.nextId (Executor.spawn_error (exec_spawn_error he))
  omega


theorem executor_run_safe_wake_then_finish :
    ∃ (s : System Unit) (evs : List Event),
      runOps [.spawn (), .runStep .Pending, .wake 0, .runStep .Ready] init = .ok (s, evs) ∧
      evs.filterMap Event.spawnedId? = List.range 1 ∧
      ∀ future, exec (.spawn future) s ≠ .error "Task with same ID already in tasks" := by
  refine ⟨_, _, rfl, ?_⟩
  obtain ⟨-, -, -, -, h⟩ := executor_run_safe (rfl : runOps ([.spawn (), .runStep .Pending, .wake 0, .runStep .Ready] : List (Op Unit)) init = _)
  obtain ⟨hids, -, hspawn⟩ := h (by decide)
  exact ⟨hids, hspawn⟩

theorem runOps_append_ok {xs ys : List (Op F)} {s s₁ : System F} {evs : List Event}
    (h : runOps xs s = .ok (s₁, evs)) :
    runOps (xs ++ ys) s = (runOps ys s₁).map fun r => (r.1, evs ++ r.2) := by
  induction xs generalizing s evs with
  | nil =>
    cases h
    rw [List.nil_append]
    cases runOps ys s₁ <;> rfl
  | cons op xs ih =>
    obtain ⟨s', ev, evs', hex, hrest, rfl⟩ := runOps_cons h
    rw [List.cons_append]
    simp only [runOps, hex, ih hrest, bind, Except.bind]
    cases runOps ys s₁ <;> rfl

/-- Task 0 waiting with its waker cached, nothing queued, and `NEXT_ID` at `k`. -/
def waitingZero (k : Nat) : System Unit :=
  ⟨⟨Function.update (fun _ => none) 0 (some ⟨0, ()⟩), [],
    Function.update (fun _ => none) 0 (some ⟨0⟩)⟩, k⟩

/-- Spawn a task and run it to completion. -/
def spawnAndFinish : List (Op Unit) := [.spawn (), .runStep .Ready]

theorem runOps_spawnAndFinish {k : Nat} (hk : 0 < k) :
    runOps spawnAndFinish (waitingZero k) =
      .ok (waitingZero ((k+1)%2^64), [.spawned k, .polled k ⟨k⟩ .Ready]) := by
  have hk0 : k ≠ 0 := by omega
  simp [runOps, spawnAndFinish, exec, Executor.spawn, Executor.runReadyStep, waitingZero,
    queuePush, taskQueueSize, Function.update_of_ne hk0, bind, Except.bind, Except.map, pure, Except.pure]

/-- `n` rounds of `spawnAndFinish` from `NEXT_ID = 1`, all while task 0 waits. -/
theorem runOps_rounds {n : Nat} (hn : n < 2^64) :
    ∃ evs, runOps (List.replicate n spawnAndFinish).flatten (waitingZero 1) =
      .ok (waitingZero ((n+1)%2^64), evs) := by
  induction n with
  | zero => exact ⟨[], rfl⟩
  | succ n ih =>
    obtain ⟨evs, hevs⟩ := ih (by omega)
    rw [Nat.mod_eq_of_lt (by omega : n+1 < 2^64)] at hevs
    refine ⟨evs ++ [Event.spawned (n+1), Event.polled (n+1) ⟨n+1⟩ Poll.Ready], ?_⟩
    rw [List.replicate_succ', List.flatten_append, List.flatten_singleton, runOps_append_ok hevs,
      runOps_spawnAndFinish (by omega)]
    rfl

/-- `TaskId::new` wraps: with task 0 still waiting, `2^64-1` spawns of tasks that finish bring
`NEXT_ID` back to 0, and the next spawn panics on the duplicate id. -/
def idWrapOps : List (Op Unit) :=
  [.spawn (), .runStep .Pending] ++ (List.replicate (2^64-1) spawnAndFinish).flatten ++ [.spawn ()]

theorem spawn_panics_after_id_wrap :
    runOps idWrapOps init = .error "Task with same ID already in tasks" := by
  -- the operations are written with their constructors' full names, which elaborate at once
  -- in a chain of appends
  have h₀ : runOps [Op.spawn (), Op.runStep Poll.Pending] (init : System Unit) =
      .ok (waitingZero 1, [.spawned 0, .polled 0 ⟨0⟩ .Pending]) := rfl
  obtain ⟨evs, hevs⟩ := runOps_rounds (by decide : 2^64-1 < 2^64)
  rw [show 2^64-1+1 = 2^64 from rfl, Nat.mod_self] at hevs
  -- after the rounds `NEXT_ID` is 0 again, and task 0 is still there
  have hwrap : runOps ([Op.spawn (), Op.runStep Poll.Pending] ++
      (List.replicate (2^64-1) spawnAndFinish).flatten) init =
      .ok (waitingZero 0, [Event.spawned 0, Event.polled 0 ⟨0⟩ Poll.Pending] ++ evs) := by
    rw [runOps_append_ok h₀, hevs]
    rfl
  rw [idWrapOps, runOps_append_ok hwrap]
  rfl

end System

end LobsterOS.Async
