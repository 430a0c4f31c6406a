import KeyIndex.Proofs.Worker.Call
import KeyIndex.Proofs.Worker.Make

/-!
# One pass for all calls

The first call of a worker decides for all others.  In it the worker opens: it makes its
pass over the table and meets the other workers.  If that succeeds, the element of each
call, that of the first one included, is offered to the output once, and its answer is
the result.  If it fails, no element is ever offered, and every later call is refused at
once.

Main results:

- Definitions `Worker.Finishes`, `Worker.FinishesAll`: calls that come to their ends.
- Definition `Worker.Opens`: how the opening of a worker ends.
- Theorems `Worker.Finishes.of_fresh`, `Worker.Finishes.of_complete`,
  `Worker.Finishes.of_failed`: a call, by the phase of its worker.
- Theorem `Worker.calls_of_make`: all calls of a worker, one after another.
-/

namespace KeyIndex

open Rendezvous

namespace Worker

open Exchange

variable {α : Type}

/-! ## Calls that come to their ends -/

/-- A call that has come to its end: its element, what was exchanged in it, its result,
and the worker after it. -/
structure Finished (α : Type) where
  element : α
  exchanges : List (Exchange α)
  result : Except Failure Unit
  after : Worker α

/-- A worker can come to the end of its next call in the given way. -/
def Finishes (worker : Worker α) (call : Finished α) : Prop :=
  ∃ last, Acts (worker.begin call.element) call.exchanges last ∧
    last.result? = some call.result ∧ call.after = last.abandon

/-- A worker can come to the ends of its next calls, one after another. -/
inductive FinishesAll : Worker α → List (Finished α) → Prop where
  | nil (worker : Worker α) : FinishesAll worker []
  | cons {worker : Worker α} {call : Finished α} {calls : List (Finished α)} :
      worker.Finishes call → FinishesAll call.after calls → FinishesAll worker (call :: calls)

/-- The opening of a worker ends with a result: it fails with its pass, or it ends as
its meeting does after the pass. -/
inductive Opens (worker : Worker α) : List (Exchange α) → Except Failure Unit → Prop where
  | failed {exchanges : List (Exchange α)} {cause : Failure} :
      Loads (.load worker.layout worker.filter) exchanges (.error cause) →
        Opens worker exchanges (.error cause)
  | met {exchanges visits : List (Exchange α)} {result : Except Failure Unit} :
      Loads (.load worker.layout worker.filter) exchanges (.ok ()) →
        Attends worker.meeting (.arriving 0) visits (.over result) →
          Opens worker (exchanges ++ visits) result

/-- In a pass the output takes entries only. -/
theorem Loads.output_eq {pass : Pass} {exchanges : List (Exchange α)}
    {result : Except Failure Unit} (h : Loads pass exchanges result) :
    ∃ entries : List IndexEntry, output exchanges = entries.map .entry := by
  cases h with
  | done hleads => exact ⟨_, output_ofEvents _⟩
  | failed hleads => exact ⟨_, output_ofEvents _⟩
  | @refused events entry next cause hleads =>
    refine ⟨Pass.Event.entries events, ?_⟩
    rw [output_append, output_send_error, List.append_nil, output_ofEvents]

/-- While a worker opens, the output takes entries only. -/
theorem Opens.output_eq {worker : Worker α} {exchanges : List (Exchange α)}
    {result : Except Failure Unit} (h : worker.Opens exchanges result) :
    ∃ entries : List IndexEntry, output exchanges = entries.map .entry := by
  cases h with
  | failed hloads => exact hloads.output_eq
  | met hloads hattends =>
    rcases hloads.output_eq with ⟨entries, hentries⟩
    refine ⟨entries, ?_⟩
    rw [output_append, hattends.output_eq, List.append_nil, hentries]

/-! ## One call -/

/-- The call of a fresh worker opens it.  If that fails, so does the call with the same
cause; else the element is offered to the output, and its answer is the result. -/
theorem Finishes.of_fresh {worker : Worker α} {call : Finished α} (h : worker.Finishes call)
    (hfresh : worker.phase = .fresh) :
    call.after.layout = worker.layout ∧
      ((∃ cause, worker.Opens call.exchanges (.error cause) ∧ call.result = .error cause ∧
          call.after.phase = .failed) ∨
        ∃ opening, worker.Opens opening (.ok ()) ∧
          call.exchanges = opening ++ [send (.element call.element) call.result] ∧
          call.after.phase = .complete) := by
  rcases h with ⟨last, hacts, hresult, hafter⟩
  rw [begin_of_fresh call.element hfresh] at hacts
  rw [hafter]
  rcases hacts.of_loading hresult with
    ⟨cause, tally, hloads, hcause, rfl⟩ | ⟨events, rest, hleads, hsplit, hrest⟩
  · exact ⟨rfl, .inl ⟨cause, .failed hloads, hcause, rfl⟩⟩
  · rcases Acts.of_meeting hrest hresult with ⟨visits, met, more, hattends, rfl, hover⟩
    rcases Acts.of_over hover hresult with
      ⟨cause, rfl, rfl, hcause, rfl⟩ | ⟨rfl, rfl, rfl⟩
    · refine ⟨rfl, .inl ⟨cause, ?_, hcause, rfl⟩⟩
      rw [hsplit, List.append_nil]
      exact .met (.done hleads) hattends
    · refine ⟨rfl, .inr ⟨_, .met (.done hleads) hattends, ?_, rfl⟩⟩
      rw [hsplit, List.append_assoc]

/-- The call of a worker that is open offers its element to the output, and nothing else
happens. -/
theorem Finishes.of_complete {worker : Worker α} {call : Finished α}
    (h : worker.Finishes call) (hcomplete : worker.phase = .complete) :
    call.exchanges = [send (.element call.element) call.result] ∧
      call.after.phase = .complete := by
  rcases h with ⟨last, hacts, hresult, hafter⟩
  rw [begin_of_complete call.element hcomplete] at hacts
  rcases hacts.of_passing hresult with ⟨hexchanges, rfl⟩
  exact ⟨hexchanges, hafter ▸ hcomplete⟩

/-- The call of a worker that has failed is refused, and nothing happens. -/
theorem Finishes.of_failed {worker : Worker α} {call : Finished α} (h : worker.Finishes call)
    (hfailed : worker.phase = .failed) :
    call.exchanges = [] ∧ call.result = .error (.incomplete worker.layout.worker) ∧
      call.after.phase = .failed ∧ call.after.layout = worker.layout := by
  rcases h with ⟨last, hacts, hresult, hafter⟩
  rw [begin_of_closed call.element (by simp [hfailed]) (by simp [hfailed])] at hacts
  rcases hacts.of_still rfl with ⟨hexchanges, rfl⟩
  have hcause : call.result = .error (.incomplete worker.layout.worker) :=
    (Option.some.inj hresult).symm
  rw [hafter]
  exact ⟨hexchanges, hcause, rfl, rfl⟩

/-! ## All calls -/

/-- Every later call of a worker that is open does as the next one. -/
theorem FinishesAll.of_complete {worker : Worker α} {calls : List (Finished α)}
    (h : worker.FinishesAll calls) (hcomplete : worker.phase = .complete) :
    ∀ call ∈ calls, call.exchanges = [send (.element call.element) call.result] ∧
      call.after.phase = .complete := by
  induction h with
  | nil worker => simp
  | cons hfinishes _ ih =>
    have hfirst := hfinishes.of_complete hcomplete
    exact List.forall_mem_cons.mpr ⟨hfirst, ih hfirst.2⟩

/-- Every later call of a worker that has failed is refused. -/
theorem FinishesAll.of_failed {worker : Worker α} {calls : List (Finished α)}
    (h : worker.FinishesAll calls) (hfailed : worker.phase = .failed) :
    ∀ call ∈ calls, call.exchanges = [] ∧
      call.result = .error (.incomplete worker.layout.worker) ∧ call.after.phase = .failed := by
  induction h with
  | nil worker => simp
  | cons hfinishes _ ih =>
    rcases hfinishes.of_failed hfailed with ⟨hexchanges, hresult, hphase, hlayout⟩
    refine List.forall_mem_cons.mpr ⟨⟨hexchanges, hresult, hphase⟩, ?_⟩
    rw [← hlayout]
    exact ih hphase

/-- All that the output takes in some calls, in order. -/
def Finished.outputs (calls : List (Finished α)) : List (Item α) :=
  calls.flatMap fun call => output call.exchanges

/-- The elements of the calls that succeeded, in order. -/
def Finished.passed (calls : List (Finished α)) : List α :=
  (calls.filter fun call => call.result.isOk).map (·.element)

/-- What the output takes of an element depends on its own answer. -/
theorem output_send (item : Item α) (answer : Except Failure Unit) :
    output [send item answer] = if answer.isOk then [item] else [] := by
  cases answer <;> rfl

/-- Calls that only pass their elements on bring those of the successful ones to the
output. -/
theorem outputs_of_sends {calls : List (Finished α)}
    (h : ∀ call ∈ calls, call.exchanges = [send (.element call.element) call.result]) :
    Finished.outputs calls = (Finished.passed calls).map .element := by
  induction calls with
  | nil => rfl
  | cons call calls ih =>
    rcases List.forall_mem_cons.mp h with ⟨hcall, hcalls⟩
    have hrest := ih hcalls
    rw [Finished.outputs] at hrest ⊢
    rw [List.flatMap_cons, hrest, hcall, output_send]
    by_cases hok : call.result.isOk <;> simp [Finished.passed, hok]

/-- The calls of a worker that did not open: the first one has the failure of the
opening, and the others are refused; nothing but entries was taken by the output. -/
structure StaysClosed (worker : Worker α) (first : Finished α) (later : List (Finished α)) :
    Prop where
  phase : ∀ call ∈ first :: later, call.after.phase = .failed
  opening : ∃ cause, worker.Opens first.exchanges (.error cause) ∧ first.result = .error cause
  elements : ∀ call ∈ first :: later, ∀ element, .element element ∉ output call.exchanges
  refused : ∀ call ∈ later,
    call.exchanges = [] ∧ call.result = .error (.incomplete worker.layout.worker)

/-- The calls of a worker that opened in the first one: each has the answer of the output
to its element as its result, and apart from the opening nothing else happens. -/
structure StaysOpen (worker : Worker α) (first : Finished α) (later : List (Finished α)) :
    Prop where
  phase : ∀ call ∈ first :: later, call.after.phase = .complete
  opening : ∃ exchanges, worker.Opens exchanges (.ok ()) ∧
    first.exchanges = exchanges ++ [send (.element first.element) first.result]
  passed : ∀ call ∈ later, call.exchanges = [send (.element call.element) call.result]

/-- What the output takes of a worker that did not open: entries only, while no call
succeeds. -/
theorem StaysClosed.outputs_eq {worker : Worker α} {first : Finished α}
    {later : List (Finished α)} (h : StaysClosed worker first later) :
    (∃ entries : List IndexEntry, Finished.outputs (first :: later) = entries.map .entry) ∧
      Finished.passed (first :: later) = [] := by
  rcases h.opening with ⟨cause, hopens, hcause⟩
  rcases hopens.output_eq with ⟨entries, hentries⟩
  have hnothing : ∀ call ∈ later, output call.exchanges = [] := by
    intro call hcall
    rw [(h.refused call hcall).1, output_nil]
  constructor
  · refine ⟨entries, ?_⟩
    rw [Finished.outputs, List.flatMap_cons, hentries, List.flatMap_eq_nil_iff.mpr hnothing,
      List.append_nil]
  · rw [Finished.passed, List.map_eq_nil_iff, List.filter_eq_nil_iff]
    refine List.forall_mem_cons.mpr ⟨by simp [hcause], fun call hcall => ?_⟩
    simp [(h.refused call hcall).2]

/-- What the output takes of a worker that opened: entries, and after them the elements of
the calls that succeed. -/
theorem StaysOpen.outputs_eq {worker : Worker α} {first : Finished α}
    {later : List (Finished α)} (h : StaysOpen worker first later) :
    ∃ entries : List IndexEntry, Finished.outputs (first :: later) =
      entries.map .entry ++ (Finished.passed (first :: later)).map .element := by
  rcases h.opening with ⟨opening, hopens, hsplit⟩
  rcases hopens.output_eq with ⟨entries, hentries⟩
  have hlater := outputs_of_sends h.passed
  refine ⟨entries, ?_⟩
  rw [Finished.outputs] at hlater ⊢
  rw [List.flatMap_cons, hlater, hsplit, output_append, hentries, output_send]
  by_cases hok : first.result.isOk <;> simp [Finished.passed, hok]

/-- The first call of a fresh worker decides for all others. -/
theorem FinishesAll.closed_or_open {worker : Worker α} {first : Finished α}
    {later : List (Finished α)} (h : worker.FinishesAll (first :: later))
    (hfresh : worker.phase = .fresh) :
    StaysClosed worker first later ∨ StaysOpen worker first later := by
  cases h with
  | cons hfirst hlater =>
    obtain ⟨hlayout, ⟨cause, hopens, hcause, hphase⟩ | ⟨opening, hopens, hsplit, hphase⟩⟩ :=
      hfirst.of_fresh hfresh
    · have hrefused := hlater.of_failed hphase
      rw [hlayout] at hrefused
      rcases hopens.output_eq with ⟨entries, hentries⟩
      refine .inl ⟨?_, ⟨cause, hopens, hcause⟩, ?_, fun call hcall => ?_⟩
      · exact List.forall_mem_cons.mpr ⟨hphase, fun call hcall => (hrefused call hcall).2.2⟩
      · refine List.forall_mem_cons.mpr ⟨fun element => by simp [hentries], ?_⟩
        intro call hcall element
        simp [(hrefused call hcall).1]
      · exact ⟨(hrefused call hcall).1, (hrefused call hcall).2.1⟩
    · have hpassed := hlater.of_complete hphase
      refine .inr ⟨?_, ⟨opening, hopens, hsplit⟩, fun call hcall => (hpassed call hcall).1⟩
      exact List.forall_mem_cons.mpr ⟨hphase, fun call hcall => (hpassed call hcall).2⟩

/-- All calls of a worker that could be made: the output takes entries, and after them the
elements of the calls that succeed; only the first call asks the table or registers; and
after it the worker is closed or open for good. -/
theorem calls_of_make {engine : Regex.Engine} {layout : Layout} {settings : Settings}
    {worker : Worker α} {first : Finished α} {later : List (Finished α)}
    (hmake : make engine layout settings = .ok worker)
    (hcalls : worker.FinishesAll (first :: later)) :
    (∃ entries : List IndexEntry, Finished.outputs (first :: later) =
        entries.map .entry ++ (Finished.passed (first :: later)).map .element) ∧
      (∀ call ∈ later, ∀ exchange ∈ call.exchanges, exchange.isSend) ∧
      (StaysClosed worker first later ∨ StaysOpen worker first later) := by
  have hfresh : worker.phase = .fresh := by rw [(eq_of_make hmake).2.2]
  rcases hcalls.closed_or_open hfresh with hclosed | hopen
  · rcases hclosed.outputs_eq with ⟨⟨entries, hentries⟩, hpassed⟩
    refine ⟨⟨entries, ?_⟩, ?_, .inl hclosed⟩
    · rw [hentries, hpassed, List.map_nil, List.append_nil]
    · intro call hcall
      simp [(hclosed.refused call hcall).1]
  · refine ⟨hopen.outputs_eq, ?_, .inr hopen⟩
    intro call hcall
    rw [hopen.passed call hcall]
    simp [isSend, send]

/-! ## A worker that is alone -/

/-- The only worker of a job, before its first call. -/
def lone : Worker Nat where
  layout := ⟨0, 1, 1⟩
  filter := .emptyText
  meeting := terms ⟨0, 1, 1⟩ .unpartitioned

/-- Its first call, over a table without commits and with an output that is closed. -/
def loneFirst : Finished Nat where
  element := 7
  exchanges := [ask .latestInstant (.ok none), register defaultRendezvous 0 (.ok 1) 0,
    send (.element 7) (.error .outputClosed)]
  result := .error .outputClosed
  after := { lone with phase := .complete }

/-- Its second call, with an output that takes the element. -/
def loneSecond : Finished Nat where
  element := 8
  exchanges := [send (.element 8) (.ok ())]
  result := .ok ()
  after := { lone with phase := .complete }

theorem finishes_lone : lone.FinishesAll [loneFirst, loneSecond] := by
  have hfirst : lone.Finishes loneFirst :=
    ⟨_, .want rfl _ (.step rfl (.want rfl _ (.step rfl (.want rfl _ (.refl _))))), rfl, rfl⟩
  have hsecond : loneFirst.after.Finishes loneSecond := ⟨_, .want rfl _ (.refl _), rfl, rfl⟩
  exact .cons hfirst (.cons hsecond (.nil _))

/-- The worker is open after its first call, although the output did not take the element. -/
theorem calls_of_lone :
    make .builtin ⟨0, 1, 1⟩ .unpartitioned = .ok lone ∧ lone.FinishesAll [loneFirst, loneSecond] ∧
      StaysOpen lone loneFirst [loneSecond] ∧ loneFirst.result = .error .outputClosed := by
  have hmake : make .builtin ⟨0, 1, 1⟩ .unpartitioned = .ok lone := make_unpartitioned Nat ⟨0, 1, 1⟩
  refine ⟨hmake, finishes_lone, ?_, rfl⟩
  rcases (calls_of_make hmake finishes_lone).2.2 with hclosed | hopen
  · cases hclosed.phase loneFirst (by simp)
  · exact hopen

end Worker

end KeyIndex
