import KeyIndex.Outlet
import KeyIndex.Rendezvous.Meeting
import KeyIndex.Settings
import KeyIndex.Worker.Pass

/-!
# Workers

A worker is given elements, one call for each.  The first call loads the worker's
share of the index, waits until all workers of the job have done so, and then passes
its element on; so does every later call, at once.  When the first call fails, or is
given up before the worker is open, all later calls are refused.

A call makes progress by requests to the world outside, each of which has a reply:
questions to the table, items for the output, registrations, and rests.

Main definitions:

- `Worker.make`: a worker, if its settings are valid.
- `Worker.begin`, `Worker.abandon`: a call is made, or given up.
- `Worker.view`: what the call of a worker does next.
-/

namespace KeyIndex

open Rendezvous

/-! ## State -/

/-- How far a worker is. -/
inductive Phase where
  /-- It has seen no element. -/
  | fresh
  /-- It loads its share. -/
  | loading
  /-- It waits for the other workers. -/
  | meeting
  /-- The index is complete, and elements pass. -/
  | complete
  /-- It will not let any element pass. -/
  | failed
deriving DecidableEq, Inhabited

/-- What a worker has counted.  The counts are natural numbers: no run is long enough to
come near the bounds of machine words, with one step for each thing counted. -/
structure Tally where
  partitionsLoaded : Nat := 0
  partitionsSkipped : Nat := 0
  slicesLoaded : Nat := 0
  slicesNotOwned : Nat := 0
  entriesSent : Nat := 0
deriving DecidableEq, Inhabited

/-- The tally after something has been counted. -/
def Tally.count (tally : Tally) : Counter → Tally
  | .partitionLoaded => { tally with partitionsLoaded := tally.partitionsLoaded + 1 }
  | .partitionSkipped => { tally with partitionsSkipped := tally.partitionsSkipped + 1 }
  | .sliceLoaded => { tally with slicesLoaded := tally.slicesLoaded + 1 }
  | .sliceNotOwned => { tally with slicesNotOwned := tally.slicesNotOwned + 1 }

/-- What the call of a worker is doing with its element. -/
inductive Call (α : Type) where
  /-- The share is loaded; `sent` entries have been taken by the output. -/
  | loading (element : α) (rest : Pass) (sent : Nat)
  /-- The worker waits for the others. -/
  | meeting (element : α) (wait : Wait)
  /-- The element is passed on. -/
  | passing (element : α)
  /-- The call has its result. -/
  | ended (result : Except Failure Unit)

/-- A worker, with the call it is in. -/
structure Worker (α : Type) where
  layout : Layout
  meeting : Meeting
  filter : Regex
  phase : Phase := .fresh
  tally : Tally := {}
  call : Option (Call α) := none

namespace Worker

variable {α : Type}

/-- The terms on which a worker waits for the others. -/
def terms (layout : Layout) (settings : Settings) : Meeting where
  name := settings.rendezvous
  worker := layout.worker
  expected := layout.workers.toNat
  interval := settings.pollInterval.inNanos
  timeout := settings.timeout.map (·.inNanos)

/-- A worker that has seen no element. -/
def make (engine : Regex.Engine) (layout : Layout) (settings : Settings) :
    Except Failure (Worker α) := do
  settings.check engine
  let filter ← settings.filter engine
  return { layout, filter, meeting := terms layout settings }

/-- Whether elements pass. -/
def isComplete (worker : Worker α) : Bool := worker.phase == .complete

/-! ## Calls -/

/-- The worker is given an element. -/
def begin (worker : Worker α) (element : α) : Worker α :=
  match worker.phase with
  | .fresh =>
    let pass := Pass.load worker.layout worker.filter
    { worker with phase := .loading, call := some (.loading element pass 0) }
  | .complete => { worker with call := some (.passing element) }
  | _ =>
    { worker with
      phase := .failed
      call := some (.ended (.error (.incomplete worker.layout.worker))) }

/-- The call that the worker is in is given up, or its result has been taken. -/
def abandon (worker : Worker α) : Worker α := { worker with call := none }

/-- The result of a call that has ended. -/
def result? (worker : Worker α) : Option (Except Failure Unit) :=
  match worker.call with
  | some (.ended result) => some result
  | _ => none

/-- The call fails before the worker is open. -/
def fail (worker : Worker α) (cause : Failure) : Worker α :=
  { worker with phase := .failed, call := some (.ended (.error cause)) }

/-! ## What a call does -/

/-- What a call wants of the world outside. -/
inductive Request (α : Type) where
  /-- The answer to a question. -/
  | ask (query : Query)
  /-- An item to be taken by the output. -/
  | send (item : Item α)
  /-- The worker to be registered. -/
  | register (name : String) (worker : UInt32)
  /-- A rest; with a count it may end when the count changes. -/
  | rest (name : String) (seen : Option Nat) (length : Nat)

/-- The reply to a request.  A registration has the number of workers as its reply,
and the time since this call first registered. -/
def Request.Reply : Request α → Type
  | ask query => Except Failure query.Answer
  | send _ => Except Failure Unit
  | register .. => Except Failure Nat × Nat
  | rest .. => Unit

/-- What comes next in a worker. -/
inductive View (α : Type) where
  /-- Nothing: the worker is in no call, or its call has ended. -/
  | still
  /-- A step of its own. -/
  | step (next : Worker α)
  /-- A request, and what the reply leads to. -/
  | want (request : Request α) (resume : request.Reply → Worker α)

/-- What comes next in a worker that loads its share. -/
def viewLoading (worker : Worker α) (element : α) (sent : Nat) : Pass → View α
  | .done =>
    .step { worker with
      phase := .meeting
      tally := { worker.tally with entriesSent := sent }
      call := some (.meeting element (.arriving 0)) }
  | .failed cause => .step (worker.fail cause)
  | .ask query next =>
    .want (.ask query) fun reply =>
      { worker with call := some (.loading element (next reply) sent) }
  | .emit entry next =>
    .want (.send (.entry entry)) fun
      | .ok () => { worker with call := some (.loading element next (sent + 1)) }
      | .error cause => worker.fail cause
  | .count counter next =>
    .step { worker with
      tally := worker.tally.count counter
      call := some (.loading element next sent) }

/-- What comes next in a worker that waits for the others. -/
def viewMeeting (worker : Worker α) (element : α) : Wait → View α
  | .arriving seen =>
    .want (.register worker.meeting.name worker.meeting.worker) fun (answer, elapsed) =>
      { worker with call := some (.meeting element (worker.meeting.round seen answer elapsed)) }
  | .resting seen watching length =>
    .want (.rest worker.meeting.name (if watching then some seen else none) length) fun () =>
      { worker with call := some (.meeting element (.arriving seen)) }
  | .over (.ok ()) =>
    .step { worker with phase := .complete, call := some (.passing element) }
  | .over (.error cause) => .step (worker.fail cause)

/-- What comes next in a worker. -/
def view (worker : Worker α) : View α :=
  match worker.call with
  | none => .still
  | some (.loading element pass sent) => worker.viewLoading element sent pass
  | some (.meeting element wait) => worker.viewMeeting element wait
  | some (.passing element) =>
    .want (.send (.element element)) fun reply =>
      { worker with call := some (.ended reply) }
  | some (.ended _) => .still

end Worker

end KeyIndex
