import Mathlib

/-! Loops on a fuel budget, runs and traces of a step relation, and the checked arithmetic of a
debug build. Nothing here names the kernel. -/

namespace LobsterOS

/-- What one pass of a loop body does: continue with a new state, leave the loop with a
value, or stop with an error (a panic). -/
inductive LoopStep (σ ε α : Type) where
  | next : σ → LoopStep σ ε α
  | done : α → LoopStep σ ε α
  | fail : ε → LoopStep σ ε α

section Loop

variable {σ ε α : Type} (body : σ → LoopStep σ ε α)

/-- Run `body` at most `fuel` times from `s`. `none` means the fuel ran out while the loop
was still going. -/
def loop : Nat → σ → Option (Except ε α)
  | 0, _ => none
  | fuel+1, s =>
    match body s with
    | .next s' => loop fuel s'
    | .done a => some (.ok a)
    | .fail e => some (.error e)

@[simp] theorem loop_zero (s : σ) : loop body 0 s = none := rfl

variable {body}

theorem loop_succ_of_next {s s' : σ} (fuel : Nat) (h : body s = .next s') :
    loop body (fuel+1) s = loop body fuel s' := by
  simp only [loop, h]

theorem loop_succ_of_done {s : σ} {a : α} (fuel : Nat) (h : body s = .done a) :
    loop body (fuel+1) s = some (.ok a) := by
  simp only [loop, h]

theorem loop_succ_of_fail {s : σ} {e : ε} (fuel : Nat) (h : body s = .fail e) :
    loop body (fuel+1) s = some (.error e) := by
  simp only [loop, h]

/-- More fuel never changes an answer the loop has already given. -/
theorem loop_mono {fuel fuel' : Nat} {s : σ} {r : Except ε α} (hle : fuel ≤ fuel')
    (h : loop body fuel s = some r) : loop body fuel' s = some r := by
  induction fuel generalizing fuel' s with
  | zero => simp at h
  | succ n ih =>
    obtain ⟨m, rfl⟩ : ∃ m, fuel' = m+1 := ⟨fuel'-1, by omega⟩
    cases hb : body s with
    | next s' =>
      rw [loop_succ_of_next n hb] at h
      rw [loop_succ_of_next m hb]
      exact ih (by omega) h
    | done a => rw [loop_succ_of_done n hb] at h; rw [loop_succ_of_done m hb, h]
    | fail e => rw [loop_succ_of_fail n hb] at h; rw [loop_succ_of_fail m hb, h]

/-- The invariant rule: what holds before every pass holds of the state each pass
continues with, and then the loop's answer meets `Q` whenever each way out does. -/
theorem loop_invariant (I : σ → Prop) (Q : Except ε α → Prop)
    (hnext : ∀ s s', I s → body s = .next s' → I s')
    (hdone : ∀ s a, I s → body s = .done a → Q (.ok a))
    (hfail : ∀ s e, I s → body s = .fail e → Q (.error e))
    {fuel : Nat} {s : σ} {r : Except ε α} (hs : I s) (h : loop body fuel s = some r) : Q r := by
  induction fuel generalizing s with
  | zero => simp at h
  | succ n ih =>
    cases hb : body s with
    | next s' => rw [loop_succ_of_next n hb] at h; exact ih (hnext s s' hs hb) h
    | done a =>
      rw [loop_succ_of_done n hb] at h
      cases h
      exact hdone s a hs hb
    | fail e =>
      rw [loop_succ_of_fail n hb] at h
      cases h
      exact hfail s e hs hb

/-- A loop whose every pass from an invariant state continues into the invariant never
leaves, whatever the fuel. -/
theorem loop_diverges (I : σ → Prop) (hstep : ∀ s, I s → ∃ s', body s = .next s' ∧ I s')
    {s : σ} (hs : I s) (fuel : Nat) : loop body fuel s = none := by
  induction fuel generalizing s with
  | zero => rfl
  | succ n ih =>
    obtain ⟨s', hb, hs'⟩ := hstep s hs
    rw [loop_succ_of_next n hb]
    exact ih hs'

end Loop

section Reach

variable {σ : Type} (step : σ → σ → Prop) (init : σ)

/-- The states a step relation reaches from `init` in finitely many steps. -/
def Reachable (s : σ) : Prop := Relation.ReflTransGen step init s

variable {step init}

theorem Reachable.refl : Reachable step init init := Relation.ReflTransGen.refl

theorem Reachable.tail {s s' : σ} (h : Reachable step init s) (hs : step s s') :
    Reachable step init s' :=
  Relation.ReflTransGen.tail h hs

/-- The induction rule for reachable states: an invariant of `init` kept by every step
holds of every reachable state. -/
theorem Reachable.invariant (I : σ → Prop) (hinit : I init)
    (hstep : ∀ s s', I s → step s s' → I s') {s : σ} (h : Reachable step init s) : I s := by
  induction h with
  | refl => exact hinit
  | tail _ hs ih => exact hstep _ _ ih hs

end Reach

section Runs

variable {α σ ε β : Type} (exec : α → σ → Option (Except ε (σ × β)))

/-- Run steps one after another, collecting what each one shows. `none` when a step is not
enabled in the state it meets, and the first error ends the run. -/
def runSteps : List α → σ → Option (Except ε (σ × List β))
  | [], s => some (.ok (s, []))
  | a :: as, s =>
    match exec a s with
    | some (.ok (s', b)) => (runSteps as s').map (Except.map fun r => (r.1, b :: r.2))
    | some (.error e) => some (.error e)
    | none => none

variable {exec}

theorem runSteps_cons {a : α} {as : List α} {s s' : σ} {bs : List β}
    (h : runSteps exec (a :: as) s = some (.ok (s', bs))) :
    ∃ s₁ b bs', exec a s = some (.ok (s₁, b)) ∧ runSteps exec as s₁ = some (.ok (s', bs')) ∧
      bs = b :: bs' := by
  simp only [runSteps] at h
  rcases hex : exec a s with _ | _ | ⟨s₁, b⟩
  · simp [hex] at h
  · simp [hex] at h
  · rw [hex] at h
    rcases hr : runSteps exec as s₁ with _ | _ | ⟨s₂, bs'⟩
    · simp [hr] at h
    · simp [hr, Except.map] at h
    · simp only [hr, Option.map_some, Except.map, Option.some.injEq, Except.ok.injEq,
        Prod.mk.injEq] at h
      obtain ⟨rfl, rfl⟩ := h
      exact ⟨s₁, b, bs', rfl, hr, rfl⟩

/-- A run that stops, stops at its first step or in the run after it. -/
theorem runSteps_cons_error {a : α} {as : List α} {s : σ} {e : ε}
    (h : runSteps exec (a :: as) s = some (.error e)) :
    exec a s = some (.error e) ∨
      ∃ s₁ b, exec a s = some (.ok (s₁, b)) ∧ runSteps exec as s₁ = some (.error e) := by
  simp only [runSteps] at h
  rcases hex : exec a s with _ | _ | ⟨s₁, b⟩
  · simp [hex] at h
  · simp only [hex, Option.some.injEq, Except.error.injEq] at h
    subst h
    exact .inl rfl
  · rw [hex] at h
    rcases hr : runSteps exec as s₁ with _ | _ | r
    · simp [hr] at h
    · simp only [hr, Option.map_some, Except.map, Option.some.injEq] at h
      exact .inr ⟨s₁, b, rfl, by rw [hr, h]⟩
    · simp [hr, Except.map] at h

theorem runSteps_cons_ok {a : α} {as : List α} {s s₁ s' : σ} {b : β} {bs : List β}
    (hex : exec a s = some (.ok (s₁, b))) (hr : runSteps exec as s₁ = some (.ok (s', bs))) :
    runSteps exec (a :: as) s = some (.ok (s', b :: bs)) := by
  simp [runSteps, hex, hr, Except.map]

/-- Two runs, one after the other from where the first ended, are the run of both lists. -/
theorem runSteps_append_ok {as as' : List α} {s s₁ s₂ : σ} {bs bs' : List β}
    (h : runSteps exec as s = some (.ok (s₁, bs)))
    (h' : runSteps exec as' s₁ = some (.ok (s₂, bs'))) :
    runSteps exec (as ++ as') s = some (.ok (s₂, bs ++ bs')) := by
  induction as generalizing s bs with
  | nil =>
    simp only [runSteps, Option.some.injEq, Except.ok.injEq, Prod.mk.injEq] at h
    obtain ⟨rfl, rfl⟩ := h
    exact h'
  | cons a as ih =>
    obtain ⟨s₃, b, bs₃, hex, hrest, rfl⟩ := runSteps_cons h
    exact runSteps_cons_ok hex (ih hrest)

/-- A relation between the state a step starts from, the step, what it shows and the state
it leaves, holding of each step of a run in turn. -/
inductive Trace (R : σ → α → β → σ → Prop) : σ → List α → List β → σ → Prop
  | nil (s : σ) : Trace R s [] [] s
  | cons {s s₁ s' : σ} {a : α} {as : List α} {b : β} {bs : List β} :
      R s a b s₁ → Trace R s₁ as bs s' → Trace R s (a :: as) (b :: bs) s'

end Runs

/-! ### Computations that can fail -/

section Except

variable {ε α β : Type}

/-- A computation that succeeds had its first step succeed, and the rest succeed from that
step's value. -/
theorem except_bind_eq_ok {x : Except ε α} {f : α → Except ε β} {r : β} :
    x >>= f = .ok r ↔ ∃ a, x = .ok a ∧ f a = .ok r := by
  cases x with
  | error e => simp [bind, Except.bind]
  | ok a => simp [bind, Except.bind]

/-- A step that may not come back, with its value mapped, succeeds only where the step
did. -/
theorem option_map_except_map_eq_ok {r : Option (Except ε α)} {f : α → β} {b : β}
    (h : r.map (Except.map f) = some (.ok b)) : ∃ a, r = some (.ok a) ∧ f a = b := by
  rcases r with _ | _ | a
  · cases h
  · cases h
  · simp only [Option.map_some, Except.map, Option.some.injEq, Except.ok.injEq] at h
    exact ⟨a, rfl, h⟩

/-- A computation that throws first never succeeds. -/
theorem except_throw_bind_ne_ok {e : ε} {f : α → Except ε β} {r : β} :
    (throw e >>= f) ≠ .ok r := nofun

/-- A loop whose every pass succeeds and appends its own items to the accumulator returns
the items of all passes, in order, after those it started with. -/
theorem except_foldlM_append {f : List β → α → Except ε (List β)} {g : α → List β} :
    ∀ {xs : List α}, (∀ acc x, x ∈ xs → f acc x = .ok (acc ++ g x)) →
      ∀ init, xs.foldlM f init = .ok (init ++ xs.flatMap g)
  | [], _, init => by simp [pure, Except.pure]
  | x :: xs, hf, init => by
    rw [List.foldlM_cons, hf init x List.mem_cons_self]
    -- the passes after the first, from the accumulator it left
    have hrest := except_foldlM_append (fun acc y hy => hf acc y (List.mem_cons_of_mem x hy))
      (init ++ g x)
    simp only [bind, Except.bind, hrest, List.flatMap_cons, List.append_assoc]

/-- A loop whose every pass succeeds and pushes one item where a test holds returns the items
of the passes that pushed, in order, after those it started with. -/
theorem except_foldlM_filter {f : List β → α → Except ε (List β)} {p : α → Bool} {g : α → β} :
    ∀ {xs : List α}, (∀ acc x, x ∈ xs → f acc x = .ok (if p x then acc ++ [g x] else acc)) →
      ∀ init, xs.foldlM f init = .ok (init ++ (xs.filter p).map g)
  | [], _, init => by simp [pure, Except.pure]
  | x :: xs, hf, init => by
    rw [List.foldlM_cons, hf init x List.mem_cons_self]
    have hrest := fun init => except_foldlM_filter (p := p) (g := g)
      (fun acc y hy => hf acc y (List.mem_cons_of_mem x hy)) init
    by_cases hx : p x = true
    · simp only [hx, if_true, bind, Except.bind, hrest, List.filter_cons, List.map_cons,
        List.append_assoc, List.singleton_append]
    · simp only [hx, if_false, bind, Except.bind, hrest, List.filter_cons, Bool.false_eq_true]

/-- A loop whose every pass returns a value collects the passes' values. -/
theorem mapM_of_pure {m : Type → Type} [Monad m] [LawfulMonad m] {f : α → m β} {g : α → β} :
    ∀ {xs : List α}, (∀ x, x ∈ xs → f x = pure (g x)) → xs.mapM f = pure (xs.map g)
  | [], _ => rfl
  | x :: xs, hf => by
    have hrest := mapM_of_pure (fun y hy => hf y (List.mem_cons_of_mem x hy))
    simp only [List.mapM_cons, hf x List.mem_cons_self, hrest, pure_bind, List.map_cons]

/-- A search stops at the first element whose test does not answer `none`, and answers as
the test does there. Where `p` marks those elements, the search is the test at the first
element that `p` finds. -/
theorem except_findSomeM?_eq_find? {f : α → Except ε (Option β)} {p : α → Bool} :
    ∀ {xs : List α}, (∀ x, x ∈ xs → (p x = false ↔ f x = .ok none)) →
      xs.findSomeM? f = match xs.find? p with
        | some x => f x
        | none => .ok none
  | [], _ => rfl
  | x :: xs, hf => by
    have hrest := except_findSomeM?_eq_find? (fun y hy => hf y (List.mem_cons_of_mem x hy))
    rw [List.findSomeM?_cons, List.find?_cons]
    cases hp : p x with
    | false =>
      rw [(hf x List.mem_cons_self).mp hp]
      exact hrest
    | true =>
      -- the search stops here, with what the test answers
      have hne : f x ≠ .ok none := fun h => by simp [(hf x List.mem_cons_self).mpr h] at hp
      show _ = f x
      cases hfx : f x with
      | error e => rfl
      | ok r =>
        cases r with
        | none => exact absurd hfx hne
        | some b => rfl

end Except

/-! ### Checked arithmetic -/

/-- A type of panics that carries the message of `panic!`, as the checks of a debug build and
the allocation error handler give it. -/
class PanicMsg (ε : Type) where
  panic : String → ε

section Checked

variable {ε : Type} [PanicMsg ε] {w a b : Nat}

/-- A sum in `w`-bit unsigned arithmetic, with the overflow check of a debug build. -/
def checkedAdd (w a b : Nat) : Except ε Nat :=
  if a+b < 2^w then .ok (a+b) else .error (PanicMsg.panic "attempt to add with overflow")

/-- An unsigned difference, with the overflow check of a debug build. -/
def checkedSub (a b : Nat) : Except ε Nat :=
  if b ≤ a then .ok (a-b) else .error (PanicMsg.panic "attempt to subtract with overflow")

/-- A product in `w`-bit unsigned arithmetic, with the overflow check of a debug build. -/
def checkedMul (w a b : Nat) : Except ε Nat :=
  if a*b < 2^w then .ok (a*b) else .error (PanicMsg.panic "attempt to multiply with overflow")

theorem checkedAdd_of_lt (h : a+b < 2^w) : (checkedAdd w a b : Except ε Nat) = .ok (a+b) :=
  if_pos h

theorem checkedAdd_of_not_lt (h : ¬a+b < 2^w) :
    (checkedAdd w a b : Except ε Nat) = .error (PanicMsg.panic "attempt to add with overflow") :=
  if_neg h

theorem checkedSub_of_le (h : b ≤ a) : (checkedSub a b : Except ε Nat) = .ok (a-b) := if_pos h

theorem checkedSub_of_lt (h : a < b) :
    (checkedSub a b : Except ε Nat) = .error (PanicMsg.panic "attempt to subtract with overflow") :=
  if_neg (by omega)

theorem checkedMul_of_lt (h : a*b < 2^w) : (checkedMul w a b : Except ε Nat) = .ok (a*b) :=
  if_pos h

theorem checkedMul_of_not_lt (h : ¬a*b < 2^w) :
    (checkedMul w a b : Except ε Nat) =
      .error (PanicMsg.panic "attempt to multiply with overflow") :=
  if_neg h

theorem checkedAdd_eq_ok {c : Nat} :
    (checkedAdd w a b : Except ε Nat) = .ok c ↔ a+b < 2^w ∧ a+b = c := by
  by_cases h : a+b < 2^w
  · rw [checkedAdd_of_lt h]
    exact ⟨fun hc => ⟨h, Except.ok.inj hc⟩, fun hc => hc.2 ▸ rfl⟩
  · rw [checkedAdd_of_not_lt h]
    exact ⟨nofun, fun hc => absurd hc.1 h⟩

theorem checkedSub_eq_ok {c : Nat} : (checkedSub a b : Except ε Nat) = .ok c ↔ b ≤ a ∧ a-b = c := by
  unfold checkedSub
  split_ifs with h <;> simp [h]

end Checked

end LobsterOS
