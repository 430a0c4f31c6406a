import KeyIndex.Proofs.Worker.Next
import Mathlib.Data.List.Induction

/-!
# The rounds of a meeting

A worker that waits for the others goes through rounds: it registers, is answered, looks at
the clock, and rests unless it is over.  What it does depends on nothing but the answers and
the clock.  It is over well at the first round in which the registration succeeds and counts
all workers.  It is over badly at the first round that is none of these and finds the time up,
and then the failure names the count of the last registration that succeeded and the time that
the worker has waited.  Before that the worker rests after each round, for its interval but not
beyond its time limit.

Main results:

- Definition `Round`: the answer to a registration, and the time on the clock.
- Definitions `Round.Passes`, `Round.IsLate`, `Round.GoesOn`: what a round comes to.
- Definitions `Meeting.restAfter`, `lastCount`: how long a worker rests, and what it knows.
- Theorem `Meeting.after_iff`: what the answer of a round leads to.
- Theorems `Worker.Comes.register`, `Worker.Comes.rest`: what a worker does next, after some
  rounds.
- Theorem `Worker.StillWaits.acts`: there is nothing else that it does while it waits.
- Theorem `Worker.acts_rounds_iff`: how a worker waits, for any answers and any clock.
-/

namespace KeyIndex

/-! ## Rounds -/

namespace Rendezvous

/-- One round of a meeting: what the registration was answered, and how long the worker had
waited then. -/
structure Round where
  answer : Except Failure Nat
  elapsed : Nat

namespace Round

variable (meeting : Meeting) (round : Round)

/-- The count in an answer, if it is one. -/
def count? : Option Nat := round.answer.toOption

/-- How long the worker had waited, in milliseconds. -/
def waited : Nat := round.elapsed / nanosPerMilli

/-- The registration succeeds, and as many workers are counted as are expected. -/
def Passes : Prop := ∃ count, round.answer = .ok count ∧ meeting.expected ≤ count

/-- The worker has a time limit, and has waited for that long. -/
def IsLate : Prop := ∃ timeout, meeting.timeout = some timeout ∧ timeout ≤ round.elapsed

/-- The worker is neither through nor out of time, and another round follows. -/
def GoesOn : Prop := ¬ round.Passes meeting ∧ ¬ round.IsLate meeting

end Round

/-- The count of the last registration that succeeded, zero if there was none. -/
def lastCount (rounds : List Round) : Nat := (rounds.filterMap (·.count?)).getLast?.getD 0

namespace Meeting

/-- How long a worker rests after a round: for its interval, but not beyond its time limit. -/
def restAfter (meeting : Meeting) (round : Round) : Nat :=
  match meeting.timeout with
  | none => meeting.interval
  | some timeout => min meeting.interval (timeout - round.elapsed)

/-- How a worker waits when a round has been answered, after some rounds before it. -/
inductive After (meeting : Meeting) (before : List Round) (round : Round) : Wait → Prop where
  | met : round.Passes meeting → After meeting before round (.over (.ok ()))
  | missed : ¬ round.Passes meeting → round.IsLate meeting → After meeting before round
      (.over (.error (.timedOut meeting.name (lastCount (before ++ [round])) meeting.expected
        round.waited)))
  | rests : round.GoesOn meeting → After meeting before round
      (.resting (lastCount (before ++ [round])) round.count?.isSome (meeting.restAfter round))

end Meeting

variable {meeting : Meeting} {before : List Round} {round : Round} {wait : Wait}

/-- A count that is told is the last one, and a failure leaves what it was. -/
theorem lastCount_concat (before : List Round) (round : Round) :
    lastCount (before ++ [round]) = round.count?.getD (lastCount before) := by
  rw [lastCount, List.filterMap_append]
  cases hcount : round.count? with
  | none => simp [hcount, lastCount]
  | some count => simp [hcount]

/-- The count that a worker watches while it rests is the one that it has just been told. -/
theorem watched_eq (before : List Round) (round : Round) :
    (if round.count?.isSome then some (lastCount (before ++ [round])) else none) =
      round.count? := by
  rw [lastCount_concat]
  cases round.count? <;> rfl

/-- Until its time limit a worker may rest for some time. -/
theorem Round.elapsed_lt (h : ¬ round.IsLate meeting) {timeout : Nat}
    (htimeout : meeting.timeout = some timeout) : round.elapsed < timeout := by
  by_contra hover
  exact h ⟨timeout, htimeout, Nat.not_lt.mp hover⟩

/-- A worker that is not out of time rests for some time, if its interval is not empty. -/
theorem Round.restAfter_pos (h : ¬ round.IsLate meeting) (hinterval : 0 < meeting.interval) :
    0 < meeting.restAfter round := by
  rw [Meeting.restAfter]
  cases htimeout : meeting.timeout with
  | none => exact hinterval
  | some timeout =>
    have hleft := Round.elapsed_lt h htimeout
    show 0 < min meeting.interval (timeout - round.elapsed)
    omega

/-- The clock lets a worker rest, unless it is out of time. -/
theorem Meeting.rest?_of_not_late (h : ¬ round.IsLate meeting) :
    meeting.rest? round.elapsed = some (meeting.restAfter round) := by
  rw [Meeting.rest?, Meeting.restAfter]
  cases htimeout : meeting.timeout with
  | none => rfl
  | some timeout =>
    have hleft := Round.elapsed_lt h htimeout
    simp [hleft]

theorem Meeting.rest?_of_late (h : round.IsLate meeting) :
    meeting.rest? round.elapsed = none := by
  rcases h with ⟨timeout, htimeout, hover⟩
  simp [Meeting.rest?, htimeout, hover]

/-- When all workers are counted the meeting is over, whatever the clock shows. -/
theorem Meeting.round_of_passes (h : round.Passes meeting) (seen : Nat) :
    meeting.round seen round.answer round.elapsed = .over (.ok ()) := by
  rcases h with ⟨count, hanswer, hcount⟩
  simp [Meeting.round, hanswer, hcount]

/-- Otherwise the clock decides, and the worker knows the last count. -/
theorem Meeting.round_of_not_passes (h : ¬ round.Passes meeting) (before : List Round) :
    meeting.round (lastCount before) round.answer round.elapsed =
      match meeting.rest? round.elapsed with
      | none => .over (.error (.timedOut meeting.name (lastCount (before ++ [round]))
          meeting.expected round.waited))
      | some length => .resting (lastCount (before ++ [round])) round.count?.isSome length := by
  rw [lastCount_concat, Round.count?, Round.waited]
  cases hanswer : round.answer with
  | ok count =>
    have hfew : ¬ meeting.expected ≤ count := fun hcount => h ⟨count, hanswer, hcount⟩
    cases hrest : meeting.rest? round.elapsed <;>
      simp [Meeting.round, hfew, hrest, Except.toOption]
  | error cause =>
    cases hrest : meeting.rest? round.elapsed <;> simp [Meeting.round, hrest, Except.toOption]

/-- What follows from the answer of a round. -/
theorem Meeting.after_iff :
    meeting.After before round wait ↔
      wait = meeting.round (lastCount before) round.answer round.elapsed := by
  constructor
  · intro hafter
    cases hafter with
    | met hpasses => rw [Meeting.round_of_passes hpasses]
    | missed hpasses hlate =>
      rw [Meeting.round_of_not_passes hpasses, Meeting.rest?_of_late hlate]
    | rests hgoes =>
      rw [Meeting.round_of_not_passes hgoes.1, Meeting.rest?_of_not_late hgoes.2]
  · rintro rfl
    by_cases hpasses : round.Passes meeting
    · rw [Meeting.round_of_passes hpasses]
      exact .met hpasses
    · by_cases hlate : round.IsLate meeting
      · rw [Meeting.round_of_not_passes hpasses, Meeting.rest?_of_late hlate]
        exact .missed hpasses hlate
      · rw [Meeting.round_of_not_passes hpasses, Meeting.rest?_of_not_late hlate]
        exact .rests ⟨hpasses, hlate⟩

end Rendezvous

open Rendezvous

namespace Worker

open Exchange

variable {α : Type} {meeting : Meeting} {exchanges history : List (Exchange α)} {wait : Wait}
  {start worker next last : Worker α} {element : α}

/-! ## What a worker does in its rounds -/

/-- The registration of a round. -/
def Exchange.registration (meeting : Meeting) (round : Round) : Exchange α :=
  register meeting.name meeting.worker round.answer round.elapsed

/-- The rest after a round.  The worker watches the count that it was told, if it was told
one. -/
def Exchange.pause (meeting : Meeting) (round : Round) : Exchange α :=
  rest meeting.name round.count? (meeting.restAfter round)

/-- All that a worker does in a round after which it goes on. -/
def Exchange.turn (meeting : Meeting) (round : Round) : List (Exchange α) :=
  [registration meeting round, pause meeting round]

/-- How a worker waits that has come to a meeting, after some exchanges: it has been through
some rounds and is at the start of the next one, or a round has just been answered. -/
inductive Comes (meeting : Meeting) : List (Exchange α) → Wait → Prop where
  | between {before : List Round} : (∀ round ∈ before, round.GoesOn meeting) →
      Comes meeting (before.flatMap (turn meeting)) (.arriving (lastCount before))
  | answered {before : List Round} {round : Round} {wait : Wait} :
      (∀ round ∈ before, round.GoesOn meeting) → meeting.After before round wait →
        Comes meeting (before.flatMap (turn meeting) ++ [registration meeting round]) wait

/-- At the start of a round the worker registers. -/
theorem Comes.register {seen : Nat} (h : Comes meeting exchanges (.arriving seen))
    (answer : Except Failure Nat) (elapsed : Nat) :
    Comes meeting (exchanges ++ [register meeting.name meeting.worker answer elapsed])
      (meeting.round seen answer elapsed) := by
  cases h with
  | @between before hbefore =>
    have hafter : meeting.After before ⟨answer, elapsed⟩
        (meeting.round (lastCount before) answer elapsed) := Meeting.after_iff.mpr rfl
    exact .answered hbefore hafter
  | answered _ hafter => cases hafter

/-- The rest that it then takes is the one after the round. -/
theorem Comes.rest {seen length : Nat} {watching : Bool}
    (h : Comes meeting exchanges (.resting seen watching length)) :
    Comes meeting (exchanges ++ [rest meeting.name (if watching then some seen else none) length])
      (.arriving seen) := by
  cases h with
  | @answered before round _ hbefore hafter =>
    cases hafter with
    | rests hgoes =>
      have hall : ∀ other ∈ before ++ [round], other.GoesOn meeting := by
        simp only [List.mem_append, List.mem_singleton]
        rintro other (hmem | rfl)
        · exact hbefore other hmem
        · exact hgoes
      have hturns := Comes.between (α := α) hall
      rw [List.flatMap_append, List.flatMap_singleton] at hturns
      rw [watched_eq, List.append_assoc]
      exact hturns

/-! ## While a worker waits -/

/-- The call of a worker is past the meeting. -/
inductive HasLeft (worker : Worker α) : Prop where
  | passing {element : α} : worker.call = some (.passing element) → HasLeft worker
  | ended {result : Except Failure Unit} : worker.call = some (.ended result) → HasLeft worker

/-- A worker that has come to the meeting as `start` has had some exchanges since.  It is in its
rounds, or it is past the meeting. -/
inductive StillWaits (start : Worker α) (element : α) (history : List (Exchange α)) :
    Worker α → Prop where
  | waiting {wait : Wait} : Comes start.meeting history wait →
      StillWaits start element history (start.waiting element wait)
  | left {worker : Worker α} : worker.HasLeft → StillWaits start element history worker

/-- It takes a step of its own, which is to leave. -/
theorem StillWaits.step (h : StillWaits start element history worker)
    (hview : worker.view = .step next) : StillWaits start element history next := by
  have hmoves := moves_of_view hview
  cases h with
  | waiting _ =>
    cases hmoves with
    | arrived hsame => cases hsame
    | failed hsame => cases hsame
    | counted hsame => cases hsame
    | opened _ => exact .left (.passing rfl)
    | missed _ => exact .left (.ended rfl)
  | left hleft =>
    cases hleft with
    | passing hcall => cases hmoves <;> simp_all
    | ended hcall => cases hmoves <;> simp_all

/-- It has a reply, which is one of a round. -/
theorem StillWaits.want (h : StillWaits start element history worker) {request : Request α}
    {resume : request.Reply → Worker α} (hview : worker.view = .want request resume)
    (reply : request.Reply) :
    StillWaits start element (history ++ [⟨request, reply⟩]) (resume reply) := by
  have htrades := trades_of_view hview reply
  generalize resume reply = next at htrades ⊢
  generalize (⟨request, reply⟩ : Exchange α) = exchange at htrades ⊢
  cases h with
  | waiting hcomes =>
    cases htrades with
    | asked _ hsame => cases hsame
    | taken hsame => cases hsame
    | refused _ hsame => cases hsame
    | registered answer elapsed hsame =>
      cases hsame
      exact .waiting (hcomes.register answer elapsed)
    | rested hsame =>
      cases hsame
      exact .waiting hcomes.rest
    | passed _ hsame => cases hsame
  | left hleft =>
    cases hleft with
    | passing hcall =>
      cases htrades with
      | passed _ _ => exact .left (.ended rfl)
      | _ => simp_all
    | ended hcall => cases htrades <;> simp_all

/-- So it goes on as long as the worker acts. -/
theorem StillWaits.acts (h : StillWaits start element history worker)
    (hacts : Acts worker exchanges last) : StillWaits start element (history ++ exchanges) last := by
  induction hacts generalizing history with
  | refl worker =>
    rw [List.append_nil]
    exact h
  | step hview _ ih => exact ih (h.step hview)
  | want hview reply _ ih =>
    have hnext := ih (h.want hview reply)
    rw [List.append_assoc] at hnext
    exact hnext

/-! ## Any rounds -/

/-- With the answer of a round a worker gets through its registration. -/
theorem acts_registration {before : List Round} {round : Round}
    (hafter : worker.meeting.After before round wait) :
    Acts (worker.waiting element (.arriving (lastCount before)))
      [registration worker.meeting round] (worker.waiting element wait) := by
  rw [Meeting.after_iff.mp hafter]
  exact .want (view_arriving worker element _) (round.answer, round.elapsed) (.refl _)

/-- With the answers of rounds that go on a worker gets through these rounds. -/
theorem acts_turns {before : List Round} (h : ∀ round ∈ before, round.GoesOn worker.meeting) :
    Acts (worker.waiting element (.arriving 0)) (before.flatMap (turn worker.meeting))
      (worker.waiting element (.arriving (lastCount before))) := by
  induction before using List.reverseRecOn with
  | nil => exact .refl _
  | append_singleton before round ih =>
    have hbefore := ih fun other hmem => h other (List.mem_append_left _ hmem)
    have hgoes : round.GoesOn worker.meeting := h round (by simp)
    have hrest := view_resting worker element (lastCount (before ++ [round]))
      (worker.meeting.restAfter round) round.count?.isSome
    rw [watched_eq] at hrest
    have hpause : Acts (worker.waiting element (.resting (lastCount (before ++ [round]))
        round.count?.isSome (worker.meeting.restAfter round))) [pause worker.meeting round]
        (worker.waiting element (.arriving (lastCount (before ++ [round])))) :=
      .want hrest () (.refl _)
    rw [List.flatMap_append, List.flatMap_singleton]
    exact hbefore.append ((acts_registration (.rests hgoes)).append hpause)

/-- How a worker waits, for any answers to its registrations and any clock.  It does what its
rounds are, in this order, and no other thing; and each of its rests has some length and ends
by its time limit. -/
theorem acts_rounds_iff (worker : Worker α) (element : α)
    (hinterval : 0 < worker.meeting.interval) :
    (∀ exchanges wait,
      Acts (worker.waiting element (.arriving 0)) exchanges (worker.waiting element wait) ↔
        Comes worker.meeting exchanges wait) ∧
      ∀ round : Round, round.GoesOn worker.meeting →
        0 < worker.meeting.restAfter round ∧
          (worker.meeting.timeout = none →
            worker.meeting.restAfter round = worker.meeting.interval) ∧
          ∀ timeout, worker.meeting.timeout = some timeout → round.elapsed < timeout ∧
            worker.meeting.restAfter round =
              min worker.meeting.interval (timeout - round.elapsed) := by
  constructor
  · intro exchanges wait
    constructor
    · intro hacts
      have hnone : ∀ round ∈ ([] : List Round), round.GoesOn worker.meeting := by simp
      have hstart : StillWaits worker element [] (worker.waiting element (.arriving 0)) :=
        .waiting (.between hnone)
      have hlast := hstart.acts hacts
      generalize hsame : worker.waiting element wait = last at hlast
      cases hlast with
      | waiting hcomes =>
        cases congrArg Worker.call hsame
        exact hcomes
      | left hleft =>
        subst hsame
        cases hleft with
        | passing hcall => cases hcall
        | ended hcall => cases hcall
    · intro hcomes
      cases hcomes with
      | between hbefore => exact acts_turns hbefore
      | answered hbefore hafter => exact (acts_turns hbefore).append (acts_registration hafter)
  · intro round hgoes
    refine ⟨Round.restAfter_pos hgoes.2 hinterval, ?_, ?_⟩
    · intro hnone
      rw [Meeting.restAfter, hnone]
    · intro timeout htimeout
      refine ⟨Round.elapsed_lt hgoes.2 htimeout, ?_⟩
      rw [Meeting.restAfter, htimeout]

/-- The first of two workers, which registers every 20 milliseconds and gives up after 40. -/
def impatient : Worker Nat where
  layout := ⟨0, 2, 2⟩
  meeting := ⟨"b", 0, 2, 20 * nanosPerMilli, some (40 * nanosPerMilli)⟩
  filter := .empty

/-- A registration fails, another one counts one worker, and so does the last one, at which the
time is up. -/
theorem acts_rounds_impatient :
    0 < impatient.meeting.interval ∧
      Acts (impatient.waiting 7 (.arriving 0))
        [register "b" 0 (.error (.registry "coordinator unavailable")) 0,
          rest "b" none (20 * nanosPerMilli), register "b" 0 (.ok 1) (20 * nanosPerMilli),
          rest "b" (some 1) (20 * nanosPerMilli), register "b" 0 (.ok 1) (40 * nanosPerMilli)]
        (impatient.waiting 7 (.over (.error (.timedOut "b" 1 2 40)))) := by
  have hinterval : 0 < impatient.meeting.interval := by decide
  have hfew : ∀ {answer elapsed}, (∀ count, answer = Except.ok count → count < 2) →
      ¬ (Round.mk answer elapsed).Passes impatient.meeting := by
    rintro answer elapsed h ⟨count, hanswer, hcount⟩
    exact absurd (h count hanswer) (Nat.not_lt.mpr hcount)
  have hsoon : ∀ {answer elapsed}, elapsed < 40 * nanosPerMilli →
      ¬ (Round.mk answer elapsed).IsLate impatient.meeting := by
    rintro answer elapsed h ⟨timeout, htimeout, hover⟩
    cases htimeout
    exact absurd h (Nat.not_lt.mpr hover)
  have hbefore : ∀ round ∈ [Round.mk (.error (.registry "coordinator unavailable")) 0,
      Round.mk (.ok 1) (20 * nanosPerMilli)], round.GoesOn impatient.meeting := by
    simp only [List.mem_cons, List.not_mem_nil, or_false]
    rintro round (rfl | rfl)
    · exact ⟨hfew nofun, hsoon (by decide)⟩
    · exact ⟨hfew (by simp), hsoon (by decide)⟩
  have hlate : (Round.mk (.ok 1) (40 * nanosPerMilli)).IsLate impatient.meeting :=
    ⟨40 * nanosPerMilli, rfl, Nat.le_refl _⟩
  have hcomes := Comes.answered (α := Nat) hbefore (.missed (hfew (by simp)) hlate)
  exact ⟨hinterval, ((acts_rounds_iff impatient 7 hinterval).1 _ _).mpr hcomes⟩

end Worker

end KeyIndex
