import LiveMediaExt.Stuttering

/-!
# A task that a timer repeats

A wait for a deadline timer ends when the timer expires or when it is cancelled, and then its
handler is queued with the one result or the other. A handler that is queued cannot be taken back,
so a task that its own handler arms again may outlive a cancellation.
-/
namespace LiveMediaExt.Timers
open Stuttering

/-- The number of waits that are pending, and of those that have ended and whose handlers are
queued, by the way they ended. -/
structure DeadlineTimer where
  pending : ℕ := 0
  expired : ℕ := 0
  cancelled : ℕ := 0
  deriving DecidableEq

namespace DeadlineTimer

def asyncWait (t : DeadlineTimer) : DeadlineTimer := { t with pending := t.pending + 1 }

def cancel (t : DeadlineTimer) : DeadlineTimer :=
  { t with pending := 0, cancelled := t.cancelled + t.pending }

/-- A new expiry time cancels the waits for the old one. -/
def expiresFromNow (t : DeadlineTimer) : DeadlineTimer := t.cancel

def expire (t : DeadlineTimer) : DeadlineTimer :=
  { t with pending := 0, expired := t.expired + t.pending }

def takeExpired (t : DeadlineTimer) : Option DeadlineTimer :=
  if t.expired = 0 then none else some { t with expired := t.expired - 1 }

def takeCancelled (t : DeadlineTimer) : Option DeadlineTimer :=
  if t.cancelled = 0 then none else some { t with cancelled := t.cancelled - 1 }

/-- The waits that can still lead to a call with success. -/
def live (t : DeadlineTimer) : ℕ := t.pending + t.expired

end DeadlineTimer

/-- What happens to a repeated task: it is started or stopped, its timer expires, or the loop calls
a handler that is queued. -/
inductive TaskEvent
  | start
  | stop
  | expire
  | expiredHandler
  | cancelledHandler
  deriving DecidableEq

open DeadlineTimer TaskEvent

/-- The task has done its work and waits anew. -/
def repeated (t : DeadlineTimer) : Bool × DeadlineTimer := (true, t.expiresFromNow.asyncWait)

@[simp] theorem repeated_works (t : DeadlineTimer) : (repeated t).1 = true := rfl

@[simp] theorem repeated_expired (t : DeadlineTimer) : (repeated t).2.expired = t.expired := rfl

/-- Whether the task does its work, and the timer afterwards. -/
def taskStep (t : DeadlineTimer) : TaskEvent → Bool × DeadlineTimer
  | .start => repeated t
  | .stop => (false, t.cancel)
  | .expire => (false, t.expire)
  | .expiredHandler =>
    match t.takeExpired with
    | some t => repeated t
    | none => (false, t)
  | .cancelledHandler =>
    match t.takeCancelled with
    | some t => (false, t)
    | none => (false, t)

/-- How often the task does its work. -/
def works (t : DeadlineTimer) (es : List TaskEvent) : ℕ := (outputs taskStep t es).count true

section Task
variable {t : DeadlineTimer} {e : TaskEvent} {es : List TaskEvent}

end Task

end LiveMediaExt.Timers
