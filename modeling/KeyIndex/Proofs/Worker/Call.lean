import KeyIndex.Proofs.Pass.Share

/-!
# The course of a call

What a worker does in a call is seen from outside as its exchanges: requests, each with
the reply that it had.  Whatever the replies are, the exchanges of a call that comes to
its end are those of its parts: the pass, as far as it comes; then, if it is at its end,
the meeting; then, if all have met, the passing on of the element.

Main results:

- Definition `Worker.Acts`: some exchanges lead a worker from one state to another.
- Definitions `Worker.Loads`, `Worker.Attends`: how a pass and a meeting end with some
  exchanges.
- Theorems `Worker.Acts.of_loading`, `Worker.Acts.of_meeting`, `Worker.Acts.of_passing`:
  the parts of a call that has come to its end.
- Theorem `Worker.Loads.not_done`: a pass that fails does not come to its end as well.
- Theorems `Worker.acts_loading`, `Worker.acts_meeting`, `Worker.exists_acts`: with the
  right replies, a call gets through its parts.
-/

namespace KeyIndex

open Rendezvous

namespace Worker

variable {α : Type}

/-! ## Exchanges -/

/-- A request of a worker, and the reply that it had. -/
structure Exchange (α : Type) where
  request : Request α
  reply : request.Reply

namespace Exchange

/-- A question to the table. -/
def ask (query : Query) (answer : Except Failure query.Answer) : Exchange α :=
  ⟨.ask query, answer⟩

/-- An item for the output. -/
def send (item : Item α) (answer : Except Failure Unit) : Exchange α := ⟨.send item, answer⟩

/-- A registration, with the time since the worker first registered. -/
def register (name : String) (worker : UInt32) (answer : Except Failure Nat) (elapsed : Nat) :
    Exchange α :=
  ⟨.register name worker, (answer, elapsed)⟩

/-- A rest. -/
def rest (name : String) (seen : Option Nat) (length : Nat) : Exchange α :=
  ⟨.rest name seen length, ()⟩

/-- The item that an exchange brought to the output, if the output took one. -/
def taken? : Exchange α → Option (Item α)
  | ⟨.send item, .ok ()⟩ => some item
  | _ => none

/-- Whether an exchange is one with the output. -/
def isSend : Exchange α → Bool
  | ⟨.send _, _⟩ => true
  | _ => false

/-- Whether an exchange is one of a meeting. -/
def isVisit : Exchange α → Bool
  | ⟨.register _ _, _⟩ => true
  | ⟨.rest _ _ _, _⟩ => true
  | _ => false

/-- The items that the output has taken, in order. -/
def output (exchanges : List (Exchange α)) : List (Item α) := exchanges.filterMap taken?

/-- The exchanges with the registry, in order. -/
def visits (exchanges : List (Exchange α)) : List (Exchange α) := exchanges.filter isVisit

/-- What an event of a pass is for its worker, if it is an exchange: an entry that was
sent has been taken. -/
def ofEvent? : Pass.Event → Option (Exchange α)
  | .asked query answer => some (ask query answer)
  | .sent entry => some (send (.entry entry) (.ok ()))
  | .counted _ => none

/-- The exchanges of a worker in some part of its pass. -/
def ofEvents (events : List Pass.Event) : List (Exchange α) := events.filterMap ofEvent?

@[simp] theorem output_nil : output ([] : List (Exchange α)) = [] := rfl

@[simp] theorem output_append (exchanges more : List (Exchange α)) :
    output (exchanges ++ more) = output exchanges ++ output more :=
  List.filterMap_append

@[simp] theorem output_send_ok (item : Item α) : output [send item (.ok ())] = [item] := rfl

@[simp] theorem output_send_error (item : Item α) (cause : Failure) :
    output [send item (.error cause)] = [] := rfl

@[simp] theorem visits_append (exchanges more : List (Exchange α)) :
    visits (exchanges ++ more) = visits exchanges ++ visits more :=
  List.filter_append exchanges more

@[simp] theorem ofEvents_append (events more : List Pass.Event) :
    (ofEvents (events ++ more) : List (Exchange α)) = ofEvents events ++ ofEvents more :=
  List.filterMap_append

theorem ofEvents_concat_asked (events : List Pass.Event) (query : Query)
    (answer : Except Failure query.Answer) :
    (ofEvents (events ++ [.asked query answer]) : List (Exchange α)) =
      ofEvents events ++ [ask query answer] :=
  ofEvents_append _ _

theorem ofEvents_concat_sent (events : List Pass.Event) (entry : IndexEntry) :
    (ofEvents (events ++ [.sent entry]) : List (Exchange α)) =
      ofEvents events ++ [send (.entry entry) (.ok ())] :=
  ofEvents_append _ _

theorem ofEvents_concat_counted (events : List Pass.Event) (counter : Counter) :
    (ofEvents (events ++ [.counted counter]) : List (Exchange α)) = ofEvents events := by
  rw [ofEvents_append]
  exact List.append_nil _

/-- What the output takes in a part of a pass are the entries that were sent. -/
@[simp] theorem output_ofEvents (events : List Pass.Event) :
    output (ofEvents events : List (Exchange α)) = (Pass.Event.entries events).map .entry := by
  induction events with
  | nil => rfl
  | cons event events ih =>
    have happend : event :: events = [event] ++ events := rfl
    rw [happend, ofEvents_append, output_append, ih, Pass.Event.entries_append, List.map_append]
    cases event <;> rfl

/-- In a pass no worker is at a meeting. -/
theorem isVisit_of_mem_ofEvents {events : List Pass.Event} {exchange : Exchange α}
    (h : exchange ∈ ofEvents events) : exchange.isVisit = false := by
  rcases List.mem_filterMap.mp h with ⟨event, -, hevent⟩
  cases event with
  | asked query answer =>
    cases hevent
    rfl
  | sent entry =>
    cases hevent
    rfl
  | counted counter => cases hevent

@[simp] theorem visits_ofEvents (events : List Pass.Event) :
    visits (ofEvents events : List (Exchange α)) = [] :=
  List.filter_eq_nil_iff.mpr fun _ hmem => by simp [isVisit_of_mem_ofEvents hmem]

/-- In visits nothing is taken by the output. -/
theorem output_of_isVisit {visits : List (Exchange α)} (h : ∀ visit ∈ visits, visit.isVisit) :
    output visits = [] := by
  refine List.filterMap_eq_nil_iff.mpr fun visit hmem => ?_
  have hvisit := h visit hmem
  rcases visit with ⟨_ | _ | _ | _, reply⟩
  · cases hvisit
  · cases hvisit
  · rfl
  · rfl

/-- A question among the exchanges of a part of a pass was asked there. -/
theorem mem_ofEvents_ask {events : List Pass.Event} {query : Query}
    {answer : Except Failure query.Answer} :
    (ask query answer : Exchange α) ∈ ofEvents events ↔ .asked query answer ∈ events := by
  simp only [ofEvents, List.mem_filterMap]
  constructor
  · rintro ⟨event, hmem, hevent⟩
    cases event with
    | asked other reply =>
      cases hevent
      exact hmem
    | sent entry => cases hevent
    | counted counter => cases hevent
  · intro hmem
    exact ⟨_, hmem, rfl⟩

/-- An item among the exchanges of a part of a pass has been taken. -/
theorem answer_of_mem_ofEvents {events : List Pass.Event} {item : Item α}
    {answer : Except Failure Unit} (h : send item answer ∈ ofEvents events) : answer = .ok () := by
  rcases List.mem_filterMap.mp h with ⟨event, -, hevent⟩
  cases event with
  | asked query reply => cases hevent
  | sent entry =>
    cases hevent
    rfl
  | counted counter => cases hevent

end Exchange

open Exchange

/-! ## Acting with any replies -/

/-- Some exchanges lead a worker from one state to another, with steps of its own
between them. -/
inductive Acts : Worker α → List (Exchange α) → Worker α → Prop where
  | refl (worker : Worker α) : Acts worker [] worker
  | step {worker next last : Worker α} {exchanges : List (Exchange α)} :
      worker.view = .step next → Acts next exchanges last → Acts worker exchanges last
  | want {worker last : Worker α} {request : Request α} {resume : request.Reply → Worker α}
      {exchanges : List (Exchange α)} :
      worker.view = .want request resume → ∀ reply, Acts (resume reply) exchanges last →
        Acts worker (⟨request, reply⟩ :: exchanges) last

/-- Acting first with some exchanges and then with others. -/
theorem Acts.append {worker middle last : Worker α} {exchanges more : List (Exchange α)}
    (h : Acts worker exchanges middle) (hmore : Acts middle more last) :
    Acts worker (exchanges ++ more) last := by
  induction h with
  | refl worker => exact hmore
  | step hview _ ih => exact .step hview (ih hmore)
  | want hview reply _ ih => exact .want hview reply (ih hmore)

/-- A worker whose call has its result is still. -/
theorem view_of_result {worker : Worker α} {result : Except Failure Unit}
    (h : worker.result? = some result) : worker.view = .still := by
  unfold result? at h
  split at h
  · rename_i hcall
    simp [view, hcall]
  · cases h

/-- A worker that is still does nothing. -/
theorem Acts.of_still {worker last : Worker α} {exchanges : List (Exchange α)}
    (h : Acts worker exchanges last) (hview : worker.view = .still) :
    exchanges = [] ∧ last = worker := by
  cases h with
  | refl => exact ⟨rfl, rfl⟩
  | step hstep => rw [hview] at hstep; cases hstep
  | want hwant => rw [hview] at hwant; cases hwant

/-- On the way to a result a worker takes its own step, if it has one. -/
theorem Acts.of_step {worker next last : Worker α} {exchanges : List (Exchange α)}
    {result : Except Failure Unit} (h : Acts worker exchanges last)
    (hresult : last.result? = some result) (hview : worker.view = .step next) :
    Acts next exchanges last := by
  cases h with
  | refl => rw [view_of_result hresult] at hview; cases hview
  | step hstep hrest =>
    rw [hview] at hstep
    cases hstep
    exact hrest
  | want hwant => rw [hview] at hwant; cases hwant

/-- On the way to a result a worker gets a reply to its request. -/
theorem Acts.of_want {worker last : Worker α} {exchanges : List (Exchange α)}
    {result : Except Failure Unit} {request : Request α} {resume : request.Reply → Worker α}
    (h : Acts worker exchanges last) (hresult : last.result? = some result)
    (hview : worker.view = .want request resume) :
    ∃ reply rest, exchanges = ⟨request, reply⟩ :: rest ∧ Acts (resume reply) rest last := by
  cases h with
  | refl => rw [view_of_result hresult] at hview; cases hview
  | step hstep => rw [hview] at hstep; cases hstep
  | want hwant reply hrest =>
    rw [hview] at hwant
    cases hwant
    exact ⟨reply, _, rfl, hrest⟩

/-! ## How a pass and a meeting end -/

/-- A pass ends with a result, after some exchanges: at its end, at a failure of its own,
or at an entry that the output does not take. -/
inductive Loads (pass : Pass) : List (Exchange α) → Except Failure Unit → Prop where
  | done {events : List Pass.Event} :
      Pass.Leads pass events .done → Loads pass (ofEvents events) (.ok ())
  | failed {events : List Pass.Event} {cause : Failure} :
      Pass.Leads pass events (.failed cause) → Loads pass (ofEvents events) (.error cause)
  | refused {events : List Pass.Event} {entry : IndexEntry} {next : Pass} {cause : Failure} :
      Pass.Leads pass events (.emit entry next) →
        Loads pass (ofEvents events ++ [send (.entry entry) (.error cause)]) (.error cause)

/-- In a pass no worker is at a meeting, however it ends. -/
theorem Loads.visits_eq {pass : Pass} {exchanges : List (Exchange α)}
    {result : Except Failure Unit} (h : Loads pass exchanges result) : visits exchanges = [] := by
  cases h with
  | done hleads => exact visits_ofEvents _
  | failed hleads => exact visits_ofEvents _
  | refused hleads =>
    rw [visits_append, visits_ofEvents]
    rfl

/-- What comes after something has happened ends with the same result. -/
theorem Loads.of_leads {pass middle : Pass} {events : List Pass.Event}
    {exchanges : List (Exchange α)} {result : Except Failure Unit}
    (hleads : Pass.Leads pass events middle) (h : Loads middle exchanges result) :
    Loads pass (ofEvents events ++ exchanges) result := by
  cases h with
  | done hrest =>
    rw [← ofEvents_append]
    exact .done (hleads.append hrest)
  | failed hrest =>
    rw [← ofEvents_append]
    exact .failed (hleads.append hrest)
  | refused hrest =>
    rw [← List.append_assoc, ← ofEvents_append]
    exact .refused (hleads.append hrest)

/-- A part of a pass that has the exchanges of the whole pass, as far as it goes, can be
gone on with to the end of the pass. -/
theorem leads_of_exchanges_eq {pass middle : Pass} {events part : List Pass.Event}
    {rest later : List (Exchange α)} (hpart : Pass.Leads pass part middle)
    (hdone : Pass.Leads pass events .done)
    (hsame : ofEvents events ++ rest = ofEvents part ++ later) :
    ∃ left, Pass.Leads middle left .done ∧ ofEvents left ++ rest = later := by
  induction hpart generalizing events with
  | refl pass => exact ⟨events, hdone, hsame⟩
  | @ask query next part middle answer _ ih =>
    cases hdone with
    | @ask _ _ events _ other hdone =>
      rcases List.cons.inj hsame with ⟨hhead, htail⟩
      have hanswer : (ask query other : Exchange α) = ask query answer := hhead
      cases hanswer
      exact ih hdone htail
  | emit _ ih =>
    cases hdone with
    | emit hdone =>
      rcases List.cons.inj hsame with ⟨-, htail⟩
      exact ih hdone htail
  | count _ ih =>
    cases hdone with
    | count hdone => exact ih hdone hsame

/-- With the same exchanges a pass does not come to its end in one case and fail in the
other. -/
theorem Loads.not_done {pass : Pass} {events : List Pass.Event} {cause : Failure}
    {exchanges rest later : List (Exchange α)} (h : Loads pass exchanges (.error cause))
    (hdone : Pass.Leads pass events .done) : ofEvents events ++ rest ≠ exchanges ++ later := by
  intro hsame
  cases h with
  | failed hleads =>
    rcases leads_of_exchanges_eq hleads hdone hsame with ⟨left, hleft, -⟩
    cases hleft
  | @refused part entry next _ hleads =>
    rw [List.append_assoc] at hsame
    rcases leads_of_exchanges_eq hleads hdone hsame with ⟨left, hleft, hnext⟩
    cases hleft with
    | emit hleft =>
      rcases List.cons.inj hnext with ⟨hhead, -⟩
      have hanswer : (send (.entry entry) (.ok ()) : Exchange α) =
        send (.entry entry) (.error cause) := hhead
      cases hanswer

/-- In a meeting some exchanges lead from one state of waiting to another: registrations,
each of them the next round, and rests. -/
inductive Attends (meeting : Meeting) : Wait → List (Exchange α) → Wait → Prop where
  | refl (wait : Wait) : Attends meeting wait [] wait
  | register {seen : Nat} {exchanges : List (Exchange α)} {last : Wait}
      (answer : Except Failure Nat) (elapsed : Nat) :
      Attends meeting (meeting.round seen answer elapsed) exchanges last →
        Attends meeting (.arriving seen)
          (register meeting.name meeting.worker answer elapsed :: exchanges) last
  | rest {seen length : Nat} {watching : Bool} {exchanges : List (Exchange α)} {last : Wait} :
      Attends meeting (.arriving seen) exchanges last →
        Attends meeting (.resting seen watching length)
          (rest meeting.name (if watching then some seen else none) length :: exchanges) last

/-- In a meeting there are no other exchanges. -/
theorem Attends.isVisit {meeting : Meeting} {wait last : Wait} {exchanges : List (Exchange α)}
    (h : Attends meeting wait exchanges last) : ∀ exchange ∈ exchanges, exchange.isVisit := by
  induction h with
  | refl wait => simp
  | register answer elapsed _ ih => exact List.forall_mem_cons.mpr ⟨rfl, ih⟩
  | rest _ ih => exact List.forall_mem_cons.mpr ⟨rfl, ih⟩

theorem Attends.visits_eq {meeting : Meeting} {wait last : Wait} {exchanges : List (Exchange α)}
    (h : Attends meeting wait exchanges last) : visits exchanges = exchanges :=
  List.filter_eq_self.mpr h.isVisit

/-- In a meeting nothing is taken by the output. -/
theorem Attends.output_eq {meeting : Meeting} {wait last : Wait} {exchanges : List (Exchange α)}
    (h : Attends meeting wait exchanges last) : output exchanges = [] :=
  output_of_isVisit h.isVisit

/-- With the same exchanges a meeting gets to the same state. -/
theorem Attends.unique {meeting : Meeting} {wait first second : Wait}
    {exchanges : List (Exchange α)} (hfirst : Attends meeting wait exchanges first)
    (hsecond : Attends meeting wait exchanges second) : first = second := by
  induction hfirst with
  | refl wait =>
    cases hsecond
    rfl
  | register answer elapsed _ ih =>
    cases hsecond with
    | register _ _ hrest => exact ih hrest
  | rest _ ih =>
    cases hsecond with
    | rest hrest => exact ih hrest

/-! ## The parts of a call -/

/-- The worker is loading: so much of its pass is left, and so many entries were taken. -/
def loading (worker : Worker α) (element : α) (rest : Pass) (sent : Nat) : Worker α :=
  { worker with call := some (.loading element rest sent) }

/-- The worker is waiting for the others. -/
def waiting (worker : Worker α) (element : α) (wait : Wait) : Worker α :=
  { worker with call := some (.meeting element wait) }

/-- The worker has come to the meeting with what it has counted. -/
def arrived (worker : Worker α) (tally : Tally) : Worker α :=
  { worker with phase := .meeting, tally }

/-- The worker passes an element on. -/
def passing (worker : Worker α) (element : α) : Worker α :=
  { worker with call := some (.passing element) }

/-- The call of the worker has its result. -/
def ended (worker : Worker α) (result : Except Failure Unit) : Worker α :=
  { worker with call := some (.ended result) }

/-- A fresh worker begins with its pass. -/
theorem begin_of_fresh {worker : Worker α} (element : α) (hfresh : worker.phase = .fresh) :
    worker.begin element =
      { worker with phase := .loading }.loading element (.load worker.layout worker.filter) 0 := by
  simp only [begin, hfresh, loading]

/-- A worker that is open begins by passing the element on. -/
theorem begin_of_complete {worker : Worker α} (element : α) (hcomplete : worker.phase = .complete) :
    worker.begin element = worker.passing element := by
  simp only [begin, hcomplete, passing]

/-- Every other worker refuses the element. -/
theorem begin_of_closed {worker : Worker α} (element : α) (hfresh : worker.phase ≠ .fresh)
    (hcomplete : worker.phase ≠ .complete) :
    worker.begin element = worker.fail (.incomplete worker.layout.worker) := by
  cases hphase : worker.phase with
  | fresh => exact absurd hphase hfresh
  | loading => simp only [begin, hphase, fail]
  | meeting => simp only [begin, hphase, fail]
  | complete => exact absurd hphase hcomplete
  | failed => simp only [begin, hphase, fail]

theorem view_done (worker : Worker α) (element : α) (sent : Nat) :
    (worker.loading element .done sent).view =
      .step ((worker.arrived { worker.tally with entriesSent := sent }).waiting element
        (.arriving 0)) := rfl

theorem view_ask (worker : Worker α) (element : α) (query : Query)
    (next : Except Failure query.Answer → Pass) (sent : Nat) :
    (worker.loading element (.ask query next) sent).view =
      .want (.ask query) fun answer => worker.loading element (next answer) sent := rfl

theorem view_emit (worker : Worker α) (element : α) (entry : IndexEntry) (next : Pass)
    (sent : Nat) :
    (worker.loading element (.emit entry next) sent).view =
      .want (.send (.entry entry)) fun
        | .ok () => worker.loading element next (sent + 1)
        | .error cause => worker.fail cause := rfl

theorem view_count (worker : Worker α) (element : α) (counter : Counter) (next : Pass)
    (sent : Nat) :
    (worker.loading element (.count counter next) sent).view =
      .step ({ worker with tally := worker.tally.count counter }.loading element next sent) := rfl

theorem view_arriving (worker : Worker α) (element : α) (seen : Nat) :
    (worker.waiting element (.arriving seen)).view =
      .want (.register worker.meeting.name worker.meeting.worker) fun (answer, elapsed) =>
        worker.waiting element (worker.meeting.round seen answer elapsed) := rfl

theorem view_resting (worker : Worker α) (element : α) (seen length : Nat) (watching : Bool) :
    (worker.waiting element (.resting seen watching length)).view =
      .want (.rest worker.meeting.name (if watching then some seen else none) length) fun _ =>
        worker.waiting element (.arriving seen) := rfl

/-- A call that passes an element on ends with the answer of the output. -/
theorem Acts.of_passing {worker last : Worker α} {element : α} {exchanges : List (Exchange α)}
    {result : Except Failure Unit} (h : Acts (worker.passing element) exchanges last)
    (hresult : last.result? = some result) :
    exchanges = [send (.element element) result] ∧ last = worker.ended result := by
  rcases h.of_want hresult rfl with ⟨reply, rest, rfl, hrest⟩
  rcases hrest.of_still rfl with ⟨rfl, rfl⟩
  cases hresult
  exact ⟨rfl, rfl⟩

/-- A call that has met with an obstacle ends with it, and one at which all have met
passes its element on. -/
theorem Acts.of_over {worker last : Worker α} {element : α} {exchanges : List (Exchange α)}
    {met result : Except Failure Unit}
    (h : Acts (worker.waiting element (.over met)) exchanges last)
    (hresult : last.result? = some result) :
    (∃ cause, met = .error cause ∧ exchanges = [] ∧ result = .error cause ∧
        last = worker.fail cause) ∨
      met = .ok () ∧ exchanges = [send (.element element) result] ∧
        last = { worker with phase := .complete }.ended result := by
  cases met with
  | error cause =>
    have hnext : Acts (worker.fail cause) exchanges last := h.of_step hresult rfl
    rcases hnext.of_still rfl with ⟨rfl, rfl⟩
    cases hresult
    exact .inl ⟨cause, rfl, rfl, rfl, rfl⟩
  | ok _ =>
    have hnext : Acts ({ worker with phase := .complete }.passing element) exchanges last :=
      h.of_step hresult rfl
    exact .inr ⟨rfl, hnext.of_passing hresult⟩

/-- A call that waits attends the meeting to its end. -/
theorem Acts.of_meeting {worker last : Worker α} {element : α} {wait : Wait}
    {exchanges : List (Exchange α)} {result : Except Failure Unit}
    (h : Acts (worker.waiting element wait) exchanges last)
    (hresult : last.result? = some result) :
    ∃ visits met rest, Attends worker.meeting wait visits (.over met) ∧
      exchanges = visits ++ rest ∧ Acts (worker.waiting element (.over met)) rest last := by
  induction exchanges generalizing wait with
  | nil =>
    cases wait with
    | arriving seen =>
      rcases h.of_want hresult rfl with ⟨_, _, hcons, _⟩
      cases hcons
    | resting seen watching length =>
      rcases h.of_want hresult rfl with ⟨_, _, hcons, _⟩
      cases hcons
    | «over» met => exact ⟨[], met, [], .refl _, rfl, h⟩
  | cons exchange exchanges ih =>
    cases wait with
    | arriving seen =>
      rcases h.of_want hresult rfl with ⟨⟨answer, elapsed⟩, rest, hcons, hrest⟩
      cases hcons
      rcases ih hrest with ⟨visits, met, more, hattends, hsplit, hmore⟩
      exact ⟨_, met, more, .register answer elapsed hattends, by rw [hsplit]; rfl, hmore⟩
    | resting seen watching length =>
      rcases h.of_want hresult rfl with ⟨_, rest, hcons, hrest⟩
      cases hcons
      rcases ih hrest with ⟨visits, met, more, hattends, hsplit, hmore⟩
      exact ⟨_, met, more, .rest hattends, by rw [hsplit]; rfl, hmore⟩
    | «over» met => exact ⟨[], met, _, .refl _, rfl, h⟩

/-- How a call that loads comes to its end: it fails with its pass, or the pass comes to
its end as well, and the worker goes on to the meeting with what it has counted. -/
def GetsOn (worker last : Worker α) (element : α) (pass : Pass) (sent : Nat)
    (exchanges : List (Exchange α)) (result : Except Failure Unit) : Prop :=
  (∃ cause tally, Loads pass exchanges (.error cause) ∧ result = .error cause ∧
      last = { worker with tally }.fail cause) ∨
    ∃ events rest, Pass.Leads pass events .done ∧ exchanges = ofEvents events ++ rest ∧
      Acts ((worker.arrived
        { worker.tally.countAll (Pass.Event.counters events) with
          entriesSent := sent + (Pass.Event.entries events).length }).waiting element
            (.arriving 0)) rest last

/-- What comes after a part of the pass ends the call in the same way. -/
theorem GetsOn.of_leads {worker last : Worker α} {element : α} {pass middle : Pass} {sent : Nat}
    {events : List Pass.Event} {exchanges : List (Exchange α)} {result : Except Failure Unit}
    (hleads : Pass.Leads pass events middle)
    (h : GetsOn { worker with tally := worker.tally.countAll (Pass.Event.counters events) } last
      element middle (sent + (Pass.Event.entries events).length) exchanges result) :
    GetsOn worker last element pass sent (ofEvents events ++ exchanges) result := by
  rcases h with ⟨cause, tally, hloads, hcause, hlast⟩ | ⟨more, rest, hdone, rfl, hacts⟩
  · exact .inl ⟨cause, tally, .of_leads hleads hloads, hcause, hlast⟩
  · refine .inr ⟨events ++ more, rest, hleads.append hdone, ?_, ?_⟩
    · rw [ofEvents_append, List.append_assoc]
    · rw [Pass.Event.counters_append, Pass.Event.entries_append, List.length_append,
        ← Nat.add_assoc, Tally.countAll_append]
      exact hacts

/-- A call that loads fails with its pass, or comes to the meeting with what it has
counted. -/
theorem Acts.of_loading {worker last : Worker α} {element : α} {pass : Pass} {sent : Nat}
    {exchanges : List (Exchange α)} {result : Except Failure Unit}
    (h : Acts (worker.loading element pass sent) exchanges last)
    (hresult : last.result? = some result) :
    GetsOn worker last element pass sent exchanges result := by
  induction pass generalizing worker sent exchanges with
  | done =>
    exact .inr ⟨[], exchanges, .refl _, rfl, h.of_step hresult rfl⟩
  | failed cause =>
    have hnext : Acts (worker.fail cause) exchanges last := h.of_step hresult rfl
    rcases hnext.of_still rfl with ⟨rfl, rfl⟩
    cases hresult
    exact .inl ⟨cause, worker.tally, .failed (.refl _), rfl, rfl⟩
  | ask query next ih =>
    rcases h.of_want hresult rfl with ⟨answer, rest, rfl, hrest⟩
    exact .of_leads (.ask answer (.refl _)) (ih answer hrest)
  | emit entry next ih =>
    rcases h.of_want hresult rfl with ⟨answer, rest, rfl, hrest⟩
    cases answer with
    | error cause =>
      have hnext : Acts (worker.fail cause) rest last := hrest
      rcases hnext.of_still rfl with ⟨rfl, rfl⟩
      cases hresult
      exact .inl ⟨cause, worker.tally, .refused (.refl _), rfl, rfl⟩
    | ok _ => exact .of_leads (.emit (.refl _)) (ih hrest)
  | count counter next ih =>
    have hnext : Acts
        ({ worker with tally := worker.tally.count counter }.loading element next sent)
          exchanges last := h.of_step hresult rfl
    exact .of_leads (.count (.refl _)) (ih hnext)

/-! ## Getting through -/

/-- With the replies of a part of its pass, a worker gets through that part. -/
theorem acts_loading {worker : Worker α} {element : α} {pass rest : Pass} {sent : Nat}
    {events : List Pass.Event} (h : Pass.Leads pass events rest) :
    Acts (worker.loading element pass sent) (ofEvents events)
      ({ worker with
        tally := worker.tally.countAll (Pass.Event.counters events) }.loading element rest
          (sent + (Pass.Event.entries events).length)) := by
  induction h generalizing worker sent with
  | refl pass => exact .refl _
  | ask answer _ ih => exact .want (view_ask worker element _ _ sent) answer ih
  | @emit entry next rest events _ ih =>
    have hsent : sent + (Pass.Event.entries (.sent entry :: events)).length =
        sent + 1 + (Pass.Event.entries events).length := by
      rw [Nat.add_assoc, Nat.add_comm 1]
      rfl
    rw [hsent]
    exact .want (view_emit worker element _ _ sent) (Except.ok ()) ih
  | count _ ih => exact .step (view_count worker element _ _ sent) ih

/-- With the replies of a part of a meeting, a worker gets through that part. -/
theorem acts_meeting {worker : Worker α} {element : α} {wait last : Wait}
    {exchanges : List (Exchange α)} (h : Attends worker.meeting wait exchanges last) :
    Acts (worker.waiting element wait) exchanges (worker.waiting element last) := by
  induction h with
  | refl wait => exact .refl _
  | register answer elapsed _ ih =>
    exact .want (view_arriving worker element _) (answer, elapsed) ih
  | rest _ ih => exact .want (view_resting worker element _ _ _) () ih

/-- With the replies of a meeting that ends well, a worker gets through its call, whatever
the output answers to the element. -/
theorem acts_arriving {worker : Worker α} {element : α} {attended : List (Exchange α)}
    (h : Attends worker.meeting (.arriving 0) attended (.over (.ok ())))
    (answer : Except Failure Unit) :
    Acts (worker.waiting element (.arriving 0)) (attended ++ [send (.element element) answer])
      ({ worker with phase := .complete }.ended answer) :=
  (acts_meeting h).append (.step rfl (.want rfl _ (.refl _)))

/-- With the replies of its whole pass, a fresh worker comes to the meeting. -/
theorem exists_acts_arrived {worker : Worker α} {events : List Pass.Event}
    (hfresh : worker.phase = .fresh)
    (hleads : Pass.Leads (.load worker.layout worker.filter) events .done) (element : α) :
    ∃ tally, Acts (worker.begin element) (ofEvents events)
      ((worker.arrived tally).waiting element (.arriving 0)) := by
  have harrived := (@acts_loading α { worker with phase := .loading } element _ _ 0 _ hleads).append
    (.step (view_done _ element _) (.refl _))
  rw [List.append_nil, ← begin_of_fresh element hfresh] at harrived
  exact ⟨_, harrived⟩

/-- With the replies of a whole pass before those of the meeting, a worker gets through
its call. -/
theorem exists_acts {worker : Worker α} {element : α} {pass : Pass} {sent : Nat}
    {events : List Pass.Event} {attended : List (Exchange α)}
    (hleads : Pass.Leads pass events .done)
    (hmet : Attends worker.meeting (.arriving 0) attended (.over (.ok ())))
    (answer : Except Failure Unit) :
    ∃ last, Acts (worker.loading element pass sent)
        (ofEvents events ++ (attended ++ [send (.element element) answer])) last ∧
      last.result? = some answer := by
  have hloading : Acts (worker.loading element pass sent) (ofEvents events) _ :=
    acts_loading hleads
  refine ⟨_, hloading.append (.step (view_done _ element _) (acts_arriving ?_ answer)), rfl⟩
  exact hmet

end Worker

end KeyIndex
