import KeyIndex.Proofs.Pass.Survey
import KeyIndex.Proofs.Worker.Call

/-!
# How far a worker gets on its way

The tasks on the way of a worker are exchanges with the table and the output, as long as
nothing goes wrong.  A part of a load does the first tasks of a way.  If a question is not
answered, the load is over, and nothing was done but the tasks before it.

Main results:

- Definition `Worker.Exchange.ofTask`: a task as an exchange.
- Theorem `Pass.Obeys.of_leads`: a part of a pass does the first tasks of a way, or ends
  at a question without an answer.
- Theorem `Worker.Acts.unique`: with the same replies a call comes to one end.
- Theorem `Worker.Loads.acts`: a pass that fails ends the call.
-/

namespace KeyIndex

open Worker Exchange

namespace Worker

variable {α : Type}

namespace Exchange

/-- An inquiry that is answered. -/
def ofInquiry (inquiry : Inquiry) : Exchange α := ask inquiry.query (.ok inquiry.answer)

/-- An entry that the output takes. -/
def ofEntry (entry : IndexEntry) : Exchange α := send (.entry entry) (.ok ())

/-- A task that is done. -/
def ofTask : Task → Exchange α
  | .inquire inquiry => ofInquiry inquiry
  | .send entry => ofEntry entry

/-- Whether an exchange is one with the table. -/
def isAsk : Exchange α → Bool
  | ⟨.ask _, _⟩ => true
  | _ => false

/-- The exchanges with the table, in order. -/
def asks (exchanges : List (Exchange α)) : List (Exchange α) := exchanges.filter isAsk

/-- The question of an exchange with the table. -/
def query? : Exchange α → Option Query
  | ⟨.ask query, _⟩ => some query
  | _ => none

/-- The questions that were asked, in order. -/
def queries (exchanges : List (Exchange α)) : List Query := exchanges.filterMap query?

@[simp] theorem asks_append (exchanges more : List (Exchange α)) :
    asks (exchanges ++ more) = asks exchanges ++ asks more :=
  List.filter_append exchanges more

@[simp] theorem queries_append (exchanges more : List (Exchange α)) :
    queries (exchanges ++ more) = queries exchanges ++ queries more :=
  List.filterMap_append

/-- In visits the table is not asked. -/
theorem asks_of_isVisit {visits : List (Exchange α)} (h : ∀ visit ∈ visits, visit.isVisit) :
    asks visits = [] := by
  refine List.filter_eq_nil_iff.mpr fun visit hmem => ?_
  have hvisit := h visit hmem
  rcases visit with ⟨_ | _ | _ | _, reply⟩
  · cases hvisit
  · cases hvisit
  · exact Bool.false_ne_true
  · exact Bool.false_ne_true

/-- All questions are asked in exchanges with the table. -/
@[simp] theorem queries_asks (exchanges : List (Exchange α)) :
    queries (asks exchanges) = queries exchanges := by
  rw [queries, queries, asks, List.filterMap_filter]
  congr 1
  funext exchange
  rcases exchange with ⟨request, reply⟩
  cases request <;> rfl

@[simp] theorem output_map_ofInquiry (inquiries : List Inquiry) :
    output (inquiries.map ofInquiry : List (Exchange α)) = [] := by
  simp [output, List.filterMap_map, Function.comp_def, ofInquiry, taken?, ask]

@[simp] theorem output_map_ofEntry (entries : List IndexEntry) :
    output (entries.map ofEntry : List (Exchange α)) = entries.map .entry := by
  simp [output, List.filterMap_map, Function.comp_def, ofEntry, taken?, send]

/-- The questions that were asked in a part of a pass. -/
@[simp] theorem queries_ofEvents (events : List Pass.Event) :
    queries (ofEvents events : List (Exchange α)) = Pass.Event.queries events := by
  induction events with
  | nil => rfl
  | cons event events ih =>
    cases event with
    | asked query answer => exact congrArg (query :: ·) ih
    | sent entry => exact ih
    | counted counter => exact ih

end Exchange

end Worker

/-! ## Parts of a pass -/

namespace Pass

variable {α : Type}

/-- A part of a pass that obeys a specification does the first tasks of one that is as the
specification says.  Or it ends at a question without an answer, which is the next task,
and the pass fails as the inquiry reports it. -/
theorem Obeys.of_leads {pass rest : Pass} {events : List Event} {spec : List Task → Prop}
    (h : pass.Obeys spec) (hleads : Leads pass events rest) :
    (∃ front, (ofEvents events : List (Exchange α)) = front.map ofTask ∧
        rest.Obeys fun tasks => spec (front ++ tasks)) ∨
      ∃ front inquiry back cause, spec (front ++ .inquire inquiry :: back) ∧
        (ofEvents events : List (Exchange α)) =
          front.map ofTask ++ [Exchange.ask inquiry.query (.error cause)] ∧
        rest = .failed (inquiry.report cause) := by
  induction hleads generalizing spec with
  | refl pass => exact .inl ⟨[], rfl, h⟩
  | @ask query next events rest answer hleads ih =>
    rcases h with ⟨report, hfails, hnext⟩
    cases answer with
    | ok answer =>
      rcases ih (hnext answer) with ⟨front, hfront, hrest⟩ |
        ⟨front, inquiry, back, cause, hspec, hfront, hrest⟩
      · exact .inl ⟨.inquire ⟨query, answer, report⟩ :: front,
          congrArg (Exchange.ask query (.ok answer) :: ·) hfront, hrest⟩
      · exact .inr ⟨.inquire ⟨query, answer, report⟩ :: front, inquiry, back, cause, hspec,
          congrArg (Exchange.ask query (.ok answer) :: ·) hfront, hrest⟩
    | error cause =>
      rw [hfails cause] at hleads
      cases hleads
      -- The other inquiries of the way are made up: any answers do.
      rcases (hnext default).exists_leads with ⟨back, -, hback, -⟩
      exact .inr ⟨[], _, back, cause, hback, rfl, rfl⟩
  | @emit entry next rest events _ ih =>
    rcases ih h with ⟨front, hfront, hrest⟩ |
      ⟨front, inquiry, back, cause, hspec, hfront, hrest⟩
    · exact .inl ⟨.send entry :: front, congrArg (ofEntry entry :: ·) hfront, hrest⟩
    · exact .inr ⟨.send entry :: front, inquiry, back, cause, hspec,
        congrArg (ofEntry entry :: ·) hfront, hrest⟩
  | count _ ih => exact ih h

end Pass

/-! ## The end of a call -/

namespace Worker

variable {α : Type}

/-- Two runs of a call to its end, where the replies of the one are the first of the other:
they are the same. -/
theorem Acts.unique {worker first second : Worker α} {exchanges more : List (Exchange α)}
    {result other : Except Failure Unit} (hfirst : Acts worker exchanges first)
    (hresult : first.result? = some result) (hsecond : Acts worker more second)
    (hother : second.result? = some other) (hpart : exchanges <+: more) :
    exchanges = more ∧ first = second := by
  induction hfirst generalizing more with
  | refl worker =>
    rcases hsecond.of_still (view_of_result hresult) with ⟨rfl, rfl⟩
    exact ⟨rfl, rfl⟩
  | step hview _ ih => exact ih hresult (hsecond.of_step hother hview) hpart
  | want hview reply _ ih =>
    rcases hsecond.of_want hother hview with ⟨answer, rest, rfl, hrest⟩
    rcases List.cons_prefix_cons.mp hpart with ⟨hsame, htail⟩
    cases hsame
    rcases ih hresult hrest htail with ⟨rfl, rfl⟩
    exact ⟨rfl, rfl⟩

/-- A pass that fails ends the call with its failure, and with what it has counted. -/
theorem Loads.acts_counting {worker : Worker α} {element : α} {pass : Pass} {sent : Nat}
    {exchanges : List (Exchange α)} {cause : Failure} (h : Loads pass exchanges (.error cause)) :
    ∃ counters, Acts (worker.loading element pass sent) exchanges
      ({ worker with tally := worker.tally.countAll counters }.fail cause) := by
  cases h with
  | @failed events _ hleads =>
    refine ⟨Pass.Event.counters events, ?_⟩
    rw [← List.append_nil (ofEvents events)]
    exact (acts_loading hleads).append (.step rfl (.refl _))
  | @refused events entry next _ hleads =>
    refine ⟨Pass.Event.counters events, ?_⟩
    exact (acts_loading hleads).append (.want (view_emit _ element _ _ _) (.error cause) (.refl _))

/-- A pass that fails ends the call with its failure. -/
theorem Loads.acts {worker : Worker α} {element : α} {pass : Pass} {sent : Nat}
    {exchanges : List (Exchange α)} {cause : Failure} (h : Loads pass exchanges (.error cause)) :
    ∃ tally, Acts (worker.loading element pass sent) exchanges
      ({ worker with tally }.fail cause) := by
  rcases h.acts_counting with ⟨counters, hacts⟩
  exact ⟨_, hacts⟩

end Worker

end KeyIndex
