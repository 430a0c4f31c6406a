import KeyIndex.Duration
import KeyIndex.Failure

/-!
# Waiting for all workers of a job

A worker that has come to a meeting registers, and registers again after each rest,
until the count has reached the number of workers or its time is up.  A registration
that fails is tried again.

Main definitions:

- `Meeting`: the terms on which a worker waits.
- `Meeting.round`: what follows from one registration.
-/

namespace KeyIndex.Rendezvous

/-- The terms on which a worker waits: under which name, as which worker, for how
many, how long it rests at most, and when it gives up.  Times are in nanoseconds. -/
structure Meeting where
  name : String
  worker : UInt32
  expected : Nat
  interval : Nat
  timeout : Option Nat
deriving DecidableEq, Inhabited

/-- How far a worker is that waits.  `seen` is the last count that it was told, zero
if none. -/
inductive Wait where
  /-- It registers next. -/
  | arriving (seen : Nat)
  /-- It rests for some time.  If it watches the count, a change of it ends the rest. -/
  | resting (seen : Nat) (watching : Bool) (length : Nat)
  /-- It waits no more. -/
  | over (result : Except Failure Unit)

instance : Inhabited Wait := ⟨.arriving 0⟩

namespace Meeting

/-- How long a worker rests that has waited for `elapsed`; nothing if its time is
up. -/
def rest? (meeting : Meeting) (elapsed : Nat) : Option Nat :=
  match meeting.timeout with
  | none => some meeting.interval
  | some timeout =>
    if timeout ≤ elapsed then none else some (min meeting.interval (timeout - elapsed))

/-- What follows from the answer to a registration, for a worker that has seen the
count `seen` before and has waited for `elapsed`. -/
def round (meeting : Meeting) (seen : Nat) (answer : Except Failure Nat) (elapsed : Nat) :
    Wait :=
  let (registered, seen) :=
    match answer with
    | .ok count => (true, count)
    | .error _ => (false, seen)
  if registered && meeting.expected ≤ seen then .over (.ok ())
  else
    match meeting.rest? elapsed with
    | none =>
      .over (.error (.timedOut meeting.name seen meeting.expected (elapsed / nanosPerMilli)))
    | some length => .resting seen registered length

end Meeting

end KeyIndex.Rendezvous
