import KeyIndex.Rendezvous.Venue
import KeyIndex.Worker.Basic

/-!
# Jobs

The workers of a job, each at its post with a table to load from and an outlet for
its output, and the venue where they meet.

Main definitions:

- `Post.act?`: one act of a worker at its post, which is the next thing that the
  worker does together with the reply that its surroundings give.
- `Job.process`, `Job.processAll`, `Job.interrupt`: calls of workers, run to their
  end or to where they have to wait.
-/

namespace KeyIndex

open Rendezvous

/-! ## Posts -/

/-- A worker and its surroundings: its table, its outlet, the questions that it has
asked since the last report, and what the venue knows of it. -/
structure Post (α : Type) where
  worker : Worker α
  table : Table
  outlet : Outlet α
  asked : List Query := []
  stay : Stay := {}
  /-- Whether the receiver of a channel takes what is sent while the worker acts. -/
  receiving : Bool := true

namespace Post

variable {α : Type}

/-- An item is offered to the outlet; a receiver takes what waits before. -/
def offer (post : Post α) (item : Item α) : Offer α :=
  (if post.receiving then post.outlet.receive else post.outlet).offer item

/-- One act of a worker; nothing if it is in no call or has to wait. -/
def act? (venue : Venue) (post : Post α) : Option (Venue × Post α) :=
  match post.worker.view with
  | .still => none
  | .step worker => some (venue, { post with worker })
  | .want (.ask query) resume =>
    let worker := resume (post.table.answer query)
    some (venue, { post with worker, asked := post.asked ++ [query] })
  | .want (.send item) resume =>
    match post.offer item with
    | .taken outlet => some (venue, { post with worker := resume (.ok ()), outlet })
    | .refused => some (venue, { post with worker := resume (.error .outputClosed) })
    | .full => none
  | .want (.register name worker) resume =>
    let (venue, stay, reply) := venue.register post.stay name worker
    some (venue, { post with worker := resume reply, stay })
  | .want (.rest name seen length) resume =>
    venue.rest? post.stay name seen length
      (fun stay => { post with stay })
      (fun stay => { post with worker := resume (), stay })

/-- No turn of a worker has more acts than it has steps left in its pass, and some
for the meeting and for passing its element on. -/
def acts (post : Post α) : Nat :=
  match post.worker.call with
  | some (.loading _ pass _) => pass.length post.table + 10
  | _ => 10

instance : Actor (Post α) where
  act? := act?
  due? post := post.stay.alarm.map (·.due)
  acts := acts
  rests post := (post.worker.meeting.timeout.getD 0) / tick + 1

/-- The worker is given an element. -/
def begin (post : Post α) (element : α) (receiving : Bool) : Post α :=
  { post with worker := post.worker.begin element, stay := {}, receiving }

/-- The worker is in no call any more. -/
def leave (post : Post α) : Post α := { post with worker := post.worker.abandon, stay := {} }

end Post

/-! ## Reports -/

/-- What is reported of a worker after a call: the result, if the call came to its
end, how the worker stands, and what it asked and sent since the last report. -/
structure Report (α : Type) where
  result : Option (Except Failure Unit)
  phase : Phase
  tally : Tally
  asked : List Query
  output : List (Item α)

/-- Reports on a post, ends the call and clears what was reported. -/
def Post.report {α : Type} (post : Post α) : Post α × Report α :=
  let outlet := post.outlet.receive
  let report := {
    result := post.worker.result?
    phase := post.worker.phase
    tally := post.worker.tally
    asked := post.asked
    output := outlet.arrived }
  ({ post.leave with outlet := outlet.cleared, asked := [] }, report)

/-! ## Jobs -/

/-- A venue and the posts of a job.  Nothing stands for a worker that could not be
made. -/
structure Job (α : Type) where
  venue : Venue
  posts : List (Option (Post α))

namespace Job

variable {α : Type}

/-- The post of a worker. -/
def post? (job : Job α) (index : Nat) : Option (Post α) := (job.posts[index]?).join

/-- The job with another post of a worker. -/
def setPost (job : Job α) (index : Nat) (post : Post α) : Job α :=
  { job with posts := job.posts.set index (some post) }

/-- Gives an element to each of some workers, at the same time, and runs their calls
to the end.  The answers are in the order in which the workers are listed; a worker
stands there once. -/
def processAll (job : Job α) (elements : List (Nat × α)) :
    Job α × List (Option (Report α)) :=
  let busy := elements.filterMap fun (index, element) =>
    (job.post? index).map fun post => (index, post.begin element true)
  let (venue, posts) := Actor.run job.venue (busy.map (·.2))
  let reported := (busy.map (·.1)).zip (posts.map (·.report))
  let job := reported.foldl (fun job (index, post, _) => job.setPost index post)
    { job with venue }
  (job, elements.map fun (index, _) => (reported.lookup index).map (·.2))

/-- Gives an element to a worker and runs the call to its end. -/
def process (job : Job α) (index : Nat) (element : α) : Job α × Option (Report α) :=
  let (job, reports) := job.processAll [(index, element)]
  (job, reports.head?.join)

/-- Gives an element to a worker, runs the call until it has to wait, and gives it up
there.  The receiver of a channel takes nothing before that. -/
def interrupt (job : Job α) (index : Nat) (element : α) : Job α × Option (Report α) :=
  match job.post? index with
  | none => (job, none)
  | some post =>
    let post := post.begin element false
    let (venue, post, _) := Actor.turn post.acts job.venue post
    let (post, report) := post.report
    ({ job.setPost index post with venue }, some report)

/-- The receiver of a worker's output goes away. -/
def closeOutput (job : Job α) (index : Nat) : Job α :=
  match job.post? index with
  | none => job
  | some post => job.setPost index { post with outlet := post.outlet.close }

/-- Registers a worker from outside. -/
def register (job : Job α) (name : String) (worker : UInt32) : Job α × Except Failure Nat :=
  let (venue, answer) := job.venue.enter name worker
  ({ job with venue }, answer)

/-- Forgets a name. -/
def clear (job : Job α) (name : String) : Job α := { job with venue := job.venue.clear name }

end Job

end KeyIndex
