import KeyIndex.Proofs.Worker.Next
import KeyIndex.Proofs.Worker.Way

/-!
# The life of a worker

A worker is given elements, one call after another.  Its call comes to an end, and its
result is taken; or the call is given up while it waits for a reply; or it goes on for
ever.  At any time of its life, what a worker has exchanged with the table is what a part
of its pass asks.

Main results:

- Definitions `Worker.Deed`, `Worker.Lives`: what shows in the life of a worker, and which
  lives there are.
- Definition `Worker.Stands`: how a worker stands after its exchanges so far.
- Theorems `Worker.Stands.begin`, `Worker.Stands.step`, `Worker.Stands.want`,
  `Worker.Stands.leave`: it goes on to stand so.
- Theorem `Worker.Lives.stands`: so it stands all its life.
- Theorem `Worker.Stands.exists_leads`: what it has asked.
-/

namespace KeyIndex

open Rendezvous

namespace Worker

open Exchange

variable {α : Type}

/-! ## Lives -/

/-- One thing that shows in the life of a worker. -/
inductive Deed (α : Type) where
  /-- The worker is given an element. -/
  | begun (element : α)
  /-- It has a reply to a request. -/
  | traded (exchange : Exchange α)
  /-- Its call has come to an end, and the result is taken; or the call is given up, and
  there is none. -/
  | left (result : Option (Except Failure Unit))

/-- The exchange of a deed, if it is one. -/
def Deed.exchange? : Deed α → Option (Exchange α)
  | traded exchange => some exchange
  | _ => none

/-- The exchanges of a life, in order. -/
def Deed.exchanges (deeds : List (Deed α)) : List (Exchange α) := deeds.filterMap exchange?

/-- A worker waits for the world outside: it has no step of its own to take. -/
def Waits (worker : Worker α) : Prop := ∀ next, worker.view ≠ .step next

/-- A worker without a call is still. -/
theorem view_of_call_none {worker : Worker α} (h : worker.call = none) : worker.view = .still := by
  rw [view, h]

/-- A worker with a request waits in a call. -/
theorem waits_of_want {worker : Worker α} {request : Request α} {resume : request.Reply → Worker α}
    (hview : worker.view = .want request resume) : worker.call ≠ none ∧ worker.Waits := by
  constructor
  · intro hcall
    rw [view_of_call_none hcall] at hview
    cases hview
  · intro next hstep
    rw [hview] at hstep
    cases hstep

/-- Some deeds lead a worker from one state to another, with steps of its own between them.
A call is left only where the worker waits, at a request or with its result. -/
inductive Lives : Worker α → List (Deed α) → Worker α → Prop where
  | refl (worker : Worker α) : Lives worker [] worker
  | begin {worker last : Worker α} {deeds : List (Deed α)} (element : α) :
      worker.call = none → Lives (worker.begin element) deeds last →
        Lives worker (.begun element :: deeds) last
  | step {worker next last : Worker α} {deeds : List (Deed α)} :
      worker.view = .step next → Lives next deeds last → Lives worker deeds last
  | want {worker last : Worker α} {request : Request α} {resume : request.Reply → Worker α}
      {deeds : List (Deed α)} :
      worker.view = .want request resume → ∀ reply, Lives (resume reply) deeds last →
        Lives worker (.traded ⟨request, reply⟩ :: deeds) last
  | leave {worker last : Worker α} {deeds : List (Deed α)} :
      worker.call ≠ none → worker.Waits → Lives worker.abandon deeds last →
        Lives worker (.left worker.result? :: deeds) last

/-- What a worker does in a part of a call is a part of its life. -/
theorem Acts.lives {worker last : Worker α} {exchanges : List (Exchange α)}
    (h : Acts worker exchanges last) : Lives worker (exchanges.map .traded) last := by
  induction h with
  | refl worker => exact .refl worker
  | step hview _ ih => exact .step hview ih
  | want hview reply _ ih => exact .want hview reply ih

/-- To be given an element is no exchange. -/
@[simp] theorem Deed.exchanges_begun (element : α) (deeds : List (Deed α)) :
    Deed.exchanges (.begun element :: deeds) = Deed.exchanges deeds := rfl

/-- The exchanges of a part of a call. -/
@[simp] theorem Deed.exchanges_map_traded (exchanges : List (Exchange α)) :
    Deed.exchanges (exchanges.map .traded) = exchanges := by
  simp [Deed.exchanges, List.filterMap_map, Function.comp_def, exchange?]

/-- The answers in a life are those of a table. -/
def Deed.Over (table : Table) (deeds : List (Deed α)) : Prop :=
  ∀ query answer, ask query answer ∈ Deed.exchanges deeds → table.answer query = answer

/-- Over a table that can be loaded, a worker can come to the meeting. -/
theorem exists_lives_of_load {worker : Worker α} {table : Table} (hphase : worker.phase = .fresh)
    (hcall : worker.call = none)
    (hload : (Pass.load worker.layout worker.filter).result table = .ok ()) (element : α) :
    ∃ deeds last, Lives worker deeds last ∧ Deed.Over table deeds ∧ last.phase = .meeting ∧
      queries (Deed.exchanges deeds) = (Pass.load worker.layout worker.filter).asked table ∧
      output (Deed.exchanges deeds) =
        ((Pass.load worker.layout worker.filter).entries table).map .entry := by
  have hleads := Pass.leads_events table (.load worker.layout worker.filter)
  rw [hload] at hleads
  rcases exists_acts_arrived hphase hleads element with ⟨tally, hacts⟩
  refine ⟨_, _, .begin element hcall hacts.lives, fun query answer hmem => ?_, rfl, ?_, ?_⟩
  · rw [Deed.exchanges_begun, Deed.exchanges_map_traded, mem_ofEvents_ask] at hmem
    exact Pass.answered_events _ _ query answer hmem
  · rw [Deed.exchanges_begun, Deed.exchanges_map_traded, queries_ofEvents]
    rfl
  · rw [Deed.exchanges_begun, Deed.exchanges_map_traded, output_ofEvents]
    rfl

/-! ## How a worker stands -/

/-- How a worker stands after its exchanges so far, where `pass` is the pass that it makes, or
would make, or has made: it has not begun; it is in the pass, or was when its call was
given up; it has come to the end of the pass; or it has failed in the pass, or failed
because an earlier call was given up in it. -/
inductive Stands (pass : Pass) (worker : Worker α) : List (Exchange α) → Prop where
  | fresh : pass = .load worker.layout worker.filter → worker.phase = .fresh →
      worker.call = none → Stands pass worker []
  | loading {events : List Pass.Event} {rest : Pass} : Pass.Leads pass events rest →
      worker.phase = .loading →
        (∀ call, worker.call = some call → ∃ element sent, call = .loading element rest sent) →
          Stands pass worker (ofEvents events)
  | loaded {events : List Pass.Event} {later : List (Exchange α)} :
      Pass.Leads pass events .done → asks later = [] → worker.phase ≠ .fresh →
        worker.phase ≠ .loading →
          (∀ element rest sent, worker.call ≠ some (.loading element rest sent)) →
            Stands pass worker (ofEvents events ++ later)
  | failed {exchanges : List (Exchange α)} {cause : Failure} :
      Loads pass exchanges (.error cause) → worker.phase = .failed → worker.view = .still →
        Stands pass worker exchanges
  | dropped {events : List Pass.Event} {rest : Pass} : Pass.Leads pass events rest →
      worker.phase = .failed → worker.view = .still → Stands pass worker (ofEvents events)

/-- A worker that can be made stands at its beginning. -/
theorem stands_fresh {worker : Worker α} (hphase : worker.phase = .fresh)
    (hcall : worker.call = none) :
    Stands (.load worker.layout worker.filter) worker [] :=
  .fresh rfl hphase hcall

variable {pass : Pass} {worker next : Worker α} {history : List (Exchange α)}

/-- It is given an element. -/
theorem Stands.begin (h : Stands pass worker history) (element : α) :
    Stands pass (worker.begin element) history := by
  cases h with
  | fresh hpass hphase _ =>
    rw [begin_of_fresh element hphase, hpass]
    refine .loading (.refl _) rfl fun call hsame => ⟨element, 0, ?_⟩
    exact (Option.some.inj hsame).symm
  | loading hleads hphase _ =>
    rw [begin_of_closed element (by simp [hphase]) (by simp [hphase])]
    exact .dropped hleads rfl rfl
  | loaded hleads hlater hfresh hloading _ =>
    by_cases hcomplete : worker.phase = .complete
    · rw [begin_of_complete element hcomplete]
      exact .loaded hleads hlater hfresh hloading (by simp [passing])
    · rw [begin_of_closed element hfresh hcomplete]
      exact .loaded hleads hlater (by simp [fail]) (by simp [fail]) (by simp [fail])
  | failed hloads hphase _ =>
    rw [begin_of_closed element (by simp [hphase]) (by simp [hphase])]
    exact .failed hloads rfl rfl
  | dropped hleads hphase _ =>
    rw [begin_of_closed element (by simp [hphase]) (by simp [hphase])]
    exact .dropped hleads rfl rfl

/-- It takes a step of its own. -/
theorem Stands.step (h : Stands pass worker history) (hview : worker.view = .step next) :
    Stands pass next history := by
  have hmoves := moves_of_view hview
  cases h with
  | fresh _ _ hcall =>
    rw [view_of_call_none hcall] at hview
    cases hview
  | @loading events rest hleads hphase hcall =>
    cases hmoves with
    | arrived hsame =>
      rcases hcall _ hsame with ⟨_, _, hloading⟩
      cases hloading
      rw [← List.append_nil (ofEvents events)]
      exact .loaded hleads rfl (by simp [waiting, arrived]) (by simp [waiting, arrived])
        (by simp [waiting])
    | failed hsame =>
      rcases hcall _ hsame with ⟨_, _, hloading⟩
      cases hloading
      exact .failed (.failed hleads) rfl rfl
    | @counted element counter rest sent hsame =>
      rcases hcall _ hsame with ⟨_, _, hloading⟩
      cases hloading
      rw [← ofEvents_concat_counted events counter]
      refine .loading hleads.counted hphase fun call hnext => ⟨element, sent, ?_⟩
      exact (Option.some.inj hnext).symm
    | opened hsame => exact absurd (hcall _ hsame) (by simp)
    | missed hsame => exact absurd (hcall _ hsame) (by simp)
  | loaded hleads hlater hfresh hloading hcall =>
    cases hmoves with
    | arrived hsame => exact absurd hsame (hcall _ _ _)
    | failed hsame => exact absurd hsame (hcall _ _ _)
    | counted hsame => exact absurd hsame (hcall _ _ _)
    | opened hsame =>
      exact .loaded hleads hlater (by simp [passing]) (by simp [passing]) (by simp [passing])
    | missed hsame =>
      exact .loaded hleads hlater (by simp [fail]) (by simp [fail]) (by simp [fail])
  | failed _ _ hstill =>
    rw [hstill] at hview
    cases hview
  | dropped _ _ hstill =>
    rw [hstill] at hview
    cases hview

/-- It has a reply. -/
theorem Stands.want (h : Stands pass worker history) {request : Request α}
    {resume : request.Reply → Worker α} (hview : worker.view = .want request resume)
    (reply : request.Reply) :
    Stands pass (resume reply) (history ++ [⟨request, reply⟩]) := by
  have htrades := trades_of_view hview reply
  generalize resume reply = next at htrades ⊢
  generalize (⟨request, reply⟩ : Exchange α) = exchange at htrades ⊢
  cases h with
  | fresh _ _ hcall =>
    rw [view_of_call_none hcall] at hview
    cases hview
  | @loading events rest hleads hphase hcall =>
    cases htrades with
    | @asked element query rest sent answer hsame =>
      rcases hcall _ hsame with ⟨_, _, hloading⟩
      cases hloading
      rw [← ofEvents_concat_asked]
      refine .loading (hleads.asked answer) hphase fun call hnext => ⟨element, sent, ?_⟩
      exact (Option.some.inj hnext).symm
    | @taken element entry rest sent hsame =>
      rcases hcall _ hsame with ⟨_, _, hloading⟩
      cases hloading
      rw [← ofEvents_concat_sent]
      refine .loading hleads.sent hphase fun call hnext => ⟨element, sent + 1, ?_⟩
      exact (Option.some.inj hnext).symm
    | refused cause hsame =>
      rcases hcall _ hsame with ⟨_, _, hloading⟩
      cases hloading
      exact .failed (.refused hleads) rfl rfl
    | registered answer elapsed hsame => exact absurd (hcall _ hsame) (by simp)
    | rested hsame => exact absurd (hcall _ hsame) (by simp)
    | passed answer hsame => exact absurd (hcall _ hsame) (by simp)
  | @loaded events later hleads hlater hfresh hloading hcall =>
    have hmore : ∀ exchange : Exchange α, exchange.isAsk = false →
        asks (later ++ [exchange]) = [] := by
      intro exchange hask
      simp [asks, ← hlater, hask]
    rw [List.append_assoc]
    cases htrades with
    | asked answer hsame => exact absurd hsame (hcall _ _ _)
    | taken hsame => exact absurd hsame (hcall _ _ _)
    | refused cause hsame => exact absurd hsame (hcall _ _ _)
    | registered answer elapsed hsame =>
      exact .loaded hleads (hmore _ rfl) hfresh hloading (by simp [waiting])
    | rested hsame =>
      exact .loaded hleads (hmore _ rfl) hfresh hloading (by simp [waiting])
    | passed answer hsame =>
      exact .loaded hleads (hmore _ rfl) hfresh hloading (by simp [ended])
  | failed _ _ hstill =>
    rw [hstill] at hview
    cases hview
  | dropped _ _ hstill =>
    rw [hstill] at hview
    cases hview

/-- Its call is given up, or its result is taken. -/
theorem Stands.leave (h : Stands pass worker history) : Stands pass worker.abandon history := by
  cases h with
  | fresh hpass hphase _ => exact .fresh hpass hphase rfl
  | loading hleads hphase _ => exact .loading hleads hphase (by simp [abandon])
  | loaded hleads hlater hfresh hloading _ =>
    exact .loaded hleads hlater hfresh hloading (by simp [abandon])
  | failed hloads hphase _ => exact .failed hloads hphase rfl
  | dropped hleads hphase _ => exact .dropped hleads hphase rfl

/-- A worker that stands so goes on to stand so, all its life. -/
theorem Lives.stands {last : Worker α} {deeds : List (Deed α)} (hlives : Lives worker deeds last)
    (h : Stands pass worker history) : Stands pass last (history ++ Deed.exchanges deeds) := by
  induction hlives generalizing history with
  | refl worker =>
    rw [Deed.exchanges, List.filterMap_nil, List.append_nil]
    exact h
  | begin element _ _ ih => exact ih (h.begin element)
  | step hview _ ih => exact ih (h.step hview)
  | want hview reply _ ih =>
    have hrest := ih (h.want hview reply)
    rw [List.append_assoc] at hrest
    exact hrest
  | leave _ _ _ ih => exact ih h.leave

/-- What a worker has asked all its life is what a part of its pass has asked; and this is
the whole of it if the worker has come to the meeting. -/
theorem Stands.exists_leads (h : Stands pass worker history) :
    ∃ events rest, Pass.Leads pass events rest ∧ asks history = asks (ofEvents events) ∧
      (worker.phase = .meeting ∨ worker.phase = .complete ∨ visits history ≠ [] →
        rest = .done) := by
  cases h with
  | fresh _ hphase _ => exact ⟨[], pass, .refl _, rfl, by simp [hphase, visits]⟩
  | @loading events rest hleads hphase _ =>
    exact ⟨events, rest, hleads, rfl, by simp [hphase]⟩
  | @loaded events later hleads hlater _ _ _ =>
    exact ⟨events, .done, hleads, by rw [asks_append, hlater, List.append_nil], fun _ => rfl⟩
  | failed hloads hphase _ =>
    have hvisits := hloads.visits_eq
    cases hloads with
    | @failed events _ hleads => exact ⟨events, _, hleads, rfl, by simp [hphase]⟩
    | @refused events _ _ _ hleads =>
      refine ⟨events, _, hleads, by rw [asks_append]; exact List.append_nil _, ?_⟩
      simp [hphase, hvisits]
  | @dropped events rest hleads hphase _ =>
    exact ⟨events, rest, hleads, rfl, by simp [hphase]⟩

end Worker

end KeyIndex
