import KeyIndex.Proofs.Worker.Call

/-!
# What a worker does next

What comes next in a worker is a step of its own or an exchange, and which of them it is
depends on what its call is doing.  The terms of the worker never change.

Main results:

- Definitions `Worker.Moves`, `Worker.Trades`: the steps and the exchanges of a worker.
- Theorems `Worker.moves_of_view`, `Worker.trades_of_view`: there are no others.
- Theorems `Worker.Moves.terms`, `Worker.Trades.terms`, `Worker.Acts.terms`: they change no
  terms.
-/

namespace KeyIndex

open Rendezvous

namespace Worker

open Exchange

variable {α : Type}

/-- The steps of a worker of its own. -/
inductive Moves (worker : Worker α) : Worker α → Prop where
  | arrived {element : α} {sent : Nat} : worker.call = some (.loading element .done sent) →
      Moves worker
        ((worker.arrived { worker.tally with entriesSent := sent }).waiting element (.arriving 0))
  | failed {element : α} {cause : Failure} {sent : Nat} :
      worker.call = some (.loading element (.failed cause) sent) →
        Moves worker (worker.fail cause)
  | counted {element : α} {counter : Counter} {rest : Pass} {sent : Nat} :
      worker.call = some (.loading element (.count counter rest) sent) →
        Moves worker
          ({ worker with tally := worker.tally.count counter }.loading element rest sent)
  | opened {element : α} : worker.call = some (.meeting element (.over (.ok ()))) →
      Moves worker ({ worker with phase := .complete }.passing element)
  | missed {element : α} {cause : Failure} :
      worker.call = some (.meeting element (.over (.error cause))) →
        Moves worker (worker.fail cause)

/-- The exchanges of a worker, and what the replies lead to. -/
inductive Trades (worker : Worker α) : Exchange α → Worker α → Prop where
  | asked {element : α} {query : Query} {next : Except Failure query.Answer → Pass} {sent : Nat}
      (answer : Except Failure query.Answer) :
      worker.call = some (.loading element (.ask query next) sent) →
        Trades worker (ask query answer) (worker.loading element (next answer) sent)
  | taken {element : α} {entry : IndexEntry} {rest : Pass} {sent : Nat} :
      worker.call = some (.loading element (.emit entry rest) sent) →
        Trades worker (send (.entry entry) (.ok ())) (worker.loading element rest (sent + 1))
  | refused {element : α} {entry : IndexEntry} {rest : Pass} {sent : Nat} (cause : Failure) :
      worker.call = some (.loading element (.emit entry rest) sent) →
        Trades worker (send (.entry entry) (.error cause)) (worker.fail cause)
  | registered {element : α} {seen : Nat} (answer : Except Failure Nat) (elapsed : Nat) :
      worker.call = some (.meeting element (.arriving seen)) →
        Trades worker (register worker.meeting.name worker.meeting.worker answer elapsed)
          (worker.waiting element (worker.meeting.round seen answer elapsed))
  | rested {element : α} {seen length : Nat} {watching : Bool} :
      worker.call = some (.meeting element (.resting seen watching length)) →
        Trades worker (rest worker.meeting.name (if watching then some seen else none) length)
          (worker.waiting element (.arriving seen))
  | passed {element : α} (answer : Except Failure Unit) :
      worker.call = some (.passing element) →
        Trades worker (send (.element element) answer) (worker.ended answer)

/-- A step of its own is one of these. -/
theorem moves_of_view {worker next : Worker α} (h : worker.view = .step next) :
    Moves worker next := by
  unfold view at h
  split at h
  · cases h
  · rename_i element pass sent hcall
    cases pass with
    | done =>
      cases h
      exact .arrived hcall
    | failed cause =>
      cases h
      exact .failed hcall
    | ask query rest => cases h
    | emit entry rest => cases h
    | count counter rest =>
      cases h
      exact .counted hcall
  · rename_i element wait hcall
    cases wait with
    | arriving seen => cases h
    | resting seen watching length => cases h
    | «over» result =>
      cases result with
      | ok _ =>
        cases h
        exact .opened hcall
      | error cause =>
        cases h
        exact .missed hcall
  · cases h
  · cases h

/-- A request and its reply are one of these. -/
theorem trades_of_view {worker : Worker α} {request : Request α}
    {resume : request.Reply → Worker α} (h : worker.view = .want request resume)
    (reply : request.Reply) : Trades worker ⟨request, reply⟩ (resume reply) := by
  unfold view at h
  split at h
  · cases h
  · rename_i element pass sent hcall
    cases pass with
    | done => cases h
    | failed cause => cases h
    | ask query rest =>
      cases h
      exact .asked reply hcall
    | emit entry rest =>
      cases h
      cases reply with
      | ok _ => exact .taken hcall
      | error cause => exact .refused cause hcall
    | count counter rest => cases h
  · rename_i element wait hcall
    cases wait with
    | arriving seen =>
      cases h
      exact .registered reply.1 reply.2 hcall
    | resting seen watching length =>
      cases h
      exact .rested hcall
    | «over» result => cases result <;> cases h
  · rename_i element hcall
    cases h
    exact .passed reply hcall
  · cases h

/-- Two states of a worker on the same terms: with the same place, filter and meeting. -/
structure SameTerms (worker next : Worker α) : Prop where
  layout : next.layout = worker.layout
  filter : next.filter = worker.filter
  meeting : next.meeting = worker.meeting

theorem Moves.terms {worker next : Worker α} (h : Moves worker next) : SameTerms worker next := by
  cases h <;> exact ⟨rfl, rfl, rfl⟩

theorem Trades.terms {worker next : Worker α} {exchange : Exchange α}
    (h : Trades worker exchange next) : SameTerms worker next := by
  cases h <;> exact ⟨rfl, rfl, rfl⟩

theorem begin_terms (worker : Worker α) (element : α) :
    SameTerms worker (worker.begin element) := by
  unfold begin
  split <;> exact ⟨rfl, rfl, rfl⟩

theorem SameTerms.trans {worker middle last : Worker α} (h : SameTerms worker middle)
    (hmore : SameTerms middle last) : SameTerms worker last :=
  ⟨hmore.layout.trans h.layout, hmore.filter.trans h.filter, hmore.meeting.trans h.meeting⟩

theorem Acts.terms {worker last : Worker α} {exchanges : List (Exchange α)}
    (h : Acts worker exchanges last) : SameTerms worker last := by
  induction h with
  | refl worker => exact ⟨rfl, rfl, rfl⟩
  | step hview _ ih => exact (moves_of_view hview).terms.trans ih
  | want hview reply _ ih => exact (trades_of_view hview reply).terms.trans ih

end Worker

end KeyIndex
