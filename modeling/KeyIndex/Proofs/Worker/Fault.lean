import KeyIndex.Proofs.Worker.Output
import KeyIndex.Proofs.Worker.Way

/-!
# Loads that fail

A load fails at the first thing that goes wrong: a question that is not answered, or an
entry that the output does not take.  Nothing is done after it, so neither does the worker
register, nor is the element passed on.  Since all files of a slice are read before any of
its entries is sent, a question without an answer leaves the entries of whole slices in the
output; and an entry that is not taken leaves those that a load without faults would have
sent before it.

Main results:

- Definition `Worker.HaltsAt`: a worker comes to a halt at one of its stops.
- Theorem `Worker.Loads.haltsAt`: a load that fails comes to a halt.
- Theorem `Pass.Leads.exists_rest`: a load without faults that begins with the answers of
  another does what the other has done.
- Definition `Worker.Finished.Halts`: what a call has done whose load fails.
- Theorem `Worker.failed_load_of_make`: such a call there is, and it has done no more.
-/

namespace KeyIndex

/-! ## Where a task stands on the way -/

/-- An element of two lists put together stands in the first of them or in the second. -/
theorem append_eq_append_cons {α : Type} {first second front back : List α} {a : α}
    (h : first ++ second = front ++ a :: back) :
    (∃ middle, first = front ++ a :: middle) ∨
      ∃ middle, front = first ++ middle ∧ second = middle ++ a :: back := by
  rcases List.append_eq_append_iff.mp h with ⟨middle, hfront, hsecond⟩ | ⟨middle, hfirst, hrest⟩
  · exact .inr ⟨middle, hfront, hsecond⟩
  · cases middle with
    | nil => exact .inr ⟨[], by rw [hfirst, List.append_nil, List.append_nil], hrest.symm⟩
    | cons other middle =>
      rcases List.cons.inj hrest with ⟨rfl, -⟩
      exact .inl ⟨middle, hfirst⟩

namespace Stop

/-- Each task on a way is one of a stop, and the tasks before it are those of the stops
before, and the first ones of that stop. -/
theorem exists_of_allTasks_eq {stops : List Stop} {front back : List Task} {task : Task}
    (h : allTasks stops = front ++ task :: back) :
    ∃ before stop after inner outer, stops = before ++ stop :: after ∧
      stop.tasks = inner ++ task :: outer ∧ front = allTasks before ++ inner := by
  induction stops generalizing front with
  | nil => simp [allTasks] at h
  | cons first stops ih =>
    have hsplit : first.tasks ++ allTasks stops = front ++ task :: back := h
    rcases append_eq_append_cons hsplit with ⟨outer, hfirst⟩ | ⟨middle, rfl, hrest⟩
    · exact ⟨[], first, stops, front, outer, rfl, hfirst, rfl⟩
    · rcases ih hrest with ⟨before, stop, after, inner, outer, rfl, htasks, rfl⟩
      exact ⟨first :: before, stop, after, inner, outer, rfl, htasks,
        (List.append_assoc _ _ _).symm⟩

/-- Before an inquiry of a stop there are only other inquiries. -/
theorem exists_of_tasks_eq_inquire {stop : Stop} {inner outer : List Task} {inquiry : Inquiry}
    (h : stop.tasks = inner ++ .inquire inquiry :: outer) :
    ∃ answered unasked, stop.inquiries = answered ++ inquiry :: unasked ∧
      inner = answered.map .inquire := by
  rcases append_eq_append_cons h with ⟨middle, hfirst⟩ | ⟨middle, -, hsecond⟩
  · rcases List.map_eq_append_iff.mp hfirst with ⟨answered, rest, hsplit, rfl, hrest⟩
    rcases List.map_eq_cons_iff.mp hrest with ⟨other, unasked, rfl, hother, -⟩
    cases hother
    exact ⟨answered, unasked, hsplit, rfl⟩
  · have hmem : Task.inquire inquiry ∈ stop.entries.map Task.send := by simp [hsecond]
    simp at hmem

/-- Before an entry of a stop there are all its inquiries, and other entries. -/
theorem exists_of_tasks_eq_send {stop : Stop} {inner outer : List Task} {entry : IndexEntry}
    (h : stop.tasks = inner ++ .send entry :: outer) :
    ∃ sent unsent, stop.entries = sent ++ entry :: unsent ∧
      inner = stop.inquiries.map .inquire ++ sent.map .send := by
  rcases append_eq_append_cons h with ⟨middle, hfirst⟩ | ⟨middle, rfl, hsecond⟩
  · have hmem : Task.send entry ∈ stop.inquiries.map Task.inquire := by simp [hfirst]
    simp at hmem
  · rcases List.map_eq_append_iff.mp hsecond with ⟨sent, rest, hsplit, rfl, hrest⟩
    rcases List.map_eq_cons_iff.mp hrest with ⟨other, unsent, rfl, hother, -⟩
    cases hother
    exact ⟨sent, unsent, hsplit, rfl⟩

end Stop

/-! ## Halting at a stop -/

namespace Worker

open Exchange

variable {α : Type}

/-- A worker that has left some stops behind comes to a halt at the next one, with a cause:
one of its inquiries there is not answered, or one of its entries is not taken. -/
inductive HaltsAt (before : List Stop) (stop : Stop) : List (Exchange α) → Failure → Prop where
  | unanswered {answered unasked : List Inquiry} {inquiry : Inquiry} {cause : Failure} :
      stop.inquiries = answered ++ inquiry :: unasked →
        HaltsAt before stop
          ((Stop.allTasks before).map ofTask ++ answered.map ofInquiry ++
            [ask inquiry.query (.error cause)])
          (inquiry.report cause)
  | refused {sent unsent : List IndexEntry} {entry : IndexEntry} {cause : Failure} :
      stop.entries = sent ++ entry :: unsent →
        HaltsAt before stop
          ((Stop.allTasks before).map ofTask ++ stop.inquiries.map ofInquiry ++
            sent.map ofEntry ++ [send (.entry entry) (.error cause)])
          cause

/-- A load that fails comes to a halt on the way of some survey. -/
theorem Loads.haltsAt {layout : Layout} {filter : Regex} {exchanges : List (Exchange α)}
    {cause : Failure} (h : Loads (.load layout filter) exchanges (.error cause)) :
    ∃ (told : Survey) (before : List Stop) (stop : Stop) (after : List Stop),
      told.stops layout filter = before ++ stop :: after ∧ HaltsAt before stop exchanges cause := by
  have hobeys := Pass.obeys_load layout filter
  cases h with
  | @failed events _ hleads =>
    rcases hobeys.of_leads (α := α) hleads with
      ⟨front, -, hrest⟩ | ⟨front, inquiry, back, failure, ⟨told, htold⟩, hfront, hcause⟩
    · exact hrest.elim
    · -- The question without an answer is an inquiry at one of the stops.
      cases hcause
      rcases Stop.exists_of_allTasks_eq htold.symm with
        ⟨before, stop, after, inner, outer, hstops, htasks, rfl⟩
      rcases Stop.exists_of_tasks_eq_inquire htasks with ⟨answered, unasked, hsplit, rfl⟩
      refine ⟨told, before, stop, after, hstops, ?_⟩
      rw [hfront, List.map_append, List.map_map]
      exact .unanswered hsplit
  | @refused events entry next _ hleads =>
    rcases hobeys.of_leads (α := α) hleads with
      ⟨front, hfront, hrest⟩ | ⟨front, inquiry, back, failure, -, -, hcause⟩
    · -- The refused entry is the next task, whatever would have come after it.
      have hnext : next.Obeys fun tasks => ∃ told : Survey,
          front ++ .send entry :: tasks = Stop.allTasks (told.stops layout filter) := hrest
      rcases hnext.exists_leads with ⟨back, -, ⟨told, htold⟩, -⟩
      rcases Stop.exists_of_allTasks_eq htold.symm with
        ⟨before, stop, after, inner, outer, hstops, htasks, rfl⟩
      rcases Stop.exists_of_tasks_eq_send htasks with ⟨sent, unsent, hsplit, rfl⟩
      refine ⟨told, before, stop, after, hstops, ?_⟩
      rw [hfront, List.map_append, List.map_append, List.map_map, List.map_map, ← List.append_assoc]
      exact .refused hsplit
    · cases hcause

/-- What is done at some stops sends their entries. -/
@[simp] theorem output_map_ofTask (stops : List Stop) :
    output ((Stop.allTasks stops).map ofTask : List (Exchange α)) =
      (Stop.allEntries stops).map .entry := by
  induction stops with
  | nil => rfl
  | cons stop stops ih =>
    have htasks : Stop.allTasks (stop :: stops) = stop.tasks ++ Stop.allTasks stops := rfl
    have hinquiries : stop.inquiries.map (ofTask (α := α) ∘ .inquire) =
      stop.inquiries.map ofInquiry := rfl
    have hentries : stop.entries.map (ofTask (α := α) ∘ .send) = stop.entries.map ofEntry := rfl
    rw [htasks, List.map_append, output_append, ih, Stop.tasks, List.map_append, output_append,
      List.map_map, List.map_map, hinquiries, hentries, output_map_ofInquiry,
      output_map_ofEntry, Stop.allEntries, Stop.allEntries, List.flatMap_cons, List.map_append]
    rfl

/-- What the output has taken of a worker that halts without an answer: the entries of the
stops that it has left behind. -/
theorem HaltsAt.output_of_ask {before : List Stop} {stop : Stop} {exchanges : List (Exchange α)}
    {cause : Failure} (h : HaltsAt before stop exchanges cause) {query : Query}
    {answer : Except Failure query.Answer}
    (hlast : exchanges.getLast? = some (ask query answer)) :
    output exchanges = (Stop.allEntries before).map .entry := by
  cases h with
  | unanswered hsplit =>
    rw [output_append, output_append, output_map_ofTask, output_map_ofInquiry, List.append_nil]
    exact List.append_nil _
  | refused hsplit =>
    rw [List.getLast?_append_of_ne_nil _ (by simp)] at hlast
    cases hlast

end Worker

/-! ## Loads without faults -/

namespace Pass

open Worker Exchange

variable {α : Type}

/-- A part of a load that has not failed can be gone on with to the end of the load. -/
theorem Leads.exists_done {layout : Layout} {filter : Regex} {events : List Event} {rest : Pass}
    (h : Leads (.load layout filter) events rest) (hrest : ∀ cause, rest ≠ .failed cause) :
    ∃ later, Leads rest later .done := by
  rcases (obeys_load layout filter).of_leads (α := Unit) h with
    ⟨front, -, hobeys⟩ | ⟨front, inquiry, back, cause, -, -, hfailed⟩
  · rcases hobeys.exists_leads with ⟨-, later, -, hlater⟩
    exact ⟨later, hlater⟩
  · exact absurd hfailed (hrest _)

/-- A part of a pass, and a whole pass without faults that begins with the same answers: the
second does all that the first has done, and then it gets through what is left. -/
theorem Leads.exists_rest {pass middle : Pass} {part events : List Event}
    (hpart : Leads pass part middle) (hdone : Leads pass events .done)
    (hasks : asks (ofEvents part : List (Exchange α)) <+: asks (ofEvents events)) :
    ∃ later, Leads middle later .done ∧
      (ofEvents events : List (Exchange α)) = ofEvents part ++ ofEvents later := by
  induction hpart generalizing events with
  | refl pass => exact ⟨events, hdone, rfl⟩
  | @ask query rest part middle answer _ ih =>
    cases hdone with
    | @ask _ _ events _ other hdone =>
      rcases List.cons_prefix_cons.mp hasks with ⟨hsame, htail⟩
      have hanswer : (Exchange.ask query answer : Exchange α) = Exchange.ask query other := hsame
      cases hanswer
      rcases ih hdone htail with ⟨later, hlater, hsplit⟩
      exact ⟨later, hlater, congrArg (Exchange.ask query answer :: ·) hsplit⟩
  | @emit entry rest part middle _ ih =>
    cases hdone with
    | emit hdone =>
      rcases ih hdone hasks with ⟨later, hlater, hsplit⟩
      exact ⟨later, hlater, congrArg (ofEntry entry :: ·) hsplit⟩
  | count _ ih =>
    cases hdone with
    | count hdone =>
      have hrest := ih hdone hasks
      exact hrest

/-- A load that has come to an entry, and a load without faults that begins with the same
answers: the second does all that the first has done, and then it sends the entry. -/
theorem Leads.exchanges_isPrefix {pass next : Pass} {part events : List Event} {entry : IndexEntry}
    (hpart : Leads pass part (.emit entry next)) (hdone : Leads pass events .done)
    (hasks : asks (ofEvents part : List (Exchange α)) <+: asks (ofEvents events)) :
    (ofEvents part ++ [ofEntry entry] : List (Exchange α)) <+: ofEvents events := by
  rcases hpart.exists_rest hdone hasks with ⟨later, hlater, hsplit⟩
  rw [hsplit]
  cases hlater with
  | emit _ => exact (List.prefix_append_right_inj _).mpr (List.cons_prefix_cons.mpr
      ⟨rfl, List.nil_prefix⟩)

end Pass

namespace Worker

open Exchange

variable {α : Type}

/-- A load that fails at an entry has come to the entry before. -/
theorem Loads.exists_leads {layout : Layout} {filter : Regex} {exchanges : List (Exchange α)}
    {entry : IndexEntry} {cause : Failure} {answer : Except Failure Unit}
    (h : Loads (.load layout filter) exchanges (.error cause))
    (hlast : exchanges.getLast? = some (send (.entry entry) answer)) :
    ∃ part next, Pass.Leads (.load layout filter) part (.emit entry next) ∧
      exchanges = ofEvents part ++ [send (.entry entry) (.error cause)] := by
  cases h with
  | failed hleads =>
    rcases (Pass.obeys_load layout filter).of_leads (α := α) hleads with
      ⟨front, -, hrest⟩ | ⟨front, inquiry, back, failure, -, hfront, -⟩
    · exact hrest.elim
    · rw [hfront, List.getLast?_append_of_ne_nil _ (by simp)] at hlast
      cases hlast
  | @refused part other next _ hleads =>
    rw [List.getLast?_append_of_ne_nil _ (by simp)] at hlast
    cases hlast
    exact ⟨part, next, hleads, rfl⟩

/-- What a load asked that fails at an entry, a load without faults can begin with. -/
theorem Loads.exists_complete {layout : Layout} {filter : Regex} {exchanges : List (Exchange α)}
    {entry : IndexEntry} {cause : Failure} {answer : Except Failure Unit}
    (h : Loads (.load layout filter) exchanges (.error cause))
    (hlast : exchanges.getLast? = some (send (.entry entry) answer)) :
    ∃ complete, Loads (.load layout filter) complete (.ok ()) ∧
      asks exchanges <+: asks complete := by
  rcases h.exists_leads hlast with ⟨part, next, hleads, rfl⟩
  rcases hleads.exists_done nofun with ⟨later, hlater⟩
  refine ⟨_, .done (hleads.append hlater), ?_⟩
  have hsend : asks [(send (.entry entry) (.error cause) : Exchange α)] = [] := rfl
  rw [asks_append, hsend, List.append_nil, ofEvents_append, asks_append]
  exact List.prefix_append _ _

/-- A load that fails at an entry, and a load without faults that begins with the same
answers: the output has taken the first entries of the second, and the next one of them is
the entry that was refused. -/
theorem Loads.output_isPrefix {layout : Layout} {filter : Regex}
    {exchanges complete : List (Exchange α)} {entry : IndexEntry} {cause : Failure}
    {answer : Except Failure Unit} (h : Loads (.load layout filter) exchanges (.error cause))
    (hlast : exchanges.getLast? = some (send (.entry entry) answer))
    (hcomplete : Loads (.load layout filter) complete (.ok ()))
    (hasks : asks exchanges <+: asks complete) :
    output exchanges ++ [.entry entry] <+: output complete := by
  rcases h.exists_leads hlast with ⟨part, next, hleads, rfl⟩
  cases hcomplete with
  | @done events hdone =>
    have hsame : asks (ofEvents part) <+: asks (ofEvents events : List (Exchange α)) := by
      rw [asks_append] at hasks
      exact (List.prefix_append _ _).trans hasks
    have houtput := (hleads.exchanges_isPrefix hdone hsame).filterMap taken?
    rw [List.filterMap_append] at houtput
    rw [output_append, output_send_error, List.append_nil]
    exact houtput

/-! ## The call of a load that fails -/

/-- A load that fails is the whole of a first call. -/
theorem Loads.exists_finishes {worker : Worker α} {exchanges : List (Exchange α)} {cause : Failure}
    (h : Loads (.load worker.layout worker.filter) exchanges (.error cause))
    (hfresh : worker.phase = .fresh) (element : α) :
    ∃ call, worker.Finishes call ∧ call.element = element ∧ call.exchanges = exchanges := by
  have hacts : ∃ tally, Acts (worker.begin element) exchanges
      ({ worker with phase := .loading, tally }.fail cause) := by
    rw [begin_of_fresh element hfresh]
    exact h.acts
  rcases hacts with ⟨tally, hacts⟩
  exact ⟨⟨element, exchanges, .error cause, _⟩, ⟨_, hacts, rfl, rfl⟩, rfl, rfl⟩

/-- What a first call has done whose load fails with a cause. -/
structure Finished.Halts (call : Finished α) (worker : Worker α) (cause : Failure) : Prop where
  result : call.result = .error cause
  phase : call.after.phase = .failed
  unregistered : visits call.exchanges = []
  elements : ∀ element, .element element ∉ output call.exchanges
  /-- The worker has come to a halt at one of its stops.  Without an answer, the output has
  taken the entries of the stops that it has left behind. -/
  way : ∃ (told : Survey) (before : List Stop) (stop : Stop) (after : List Stop),
    told.stops worker.layout worker.filter = before ++ stop :: after ∧
      HaltsAt before stop call.exchanges cause ∧
      ∀ query answer, call.exchanges.getLast? = some (ask query answer) →
        output call.exchanges = (Stop.allEntries before).map .entry
  /-- At an entry that is not taken, the output has taken those that come before it in every
  load without faults that begins with the same answers; and there is such a load. -/
  refused : ∀ entry answer, call.exchanges.getLast? = some (send (.entry entry) answer) →
    (∃ complete, Loads (.load worker.layout worker.filter) complete (.ok ()) ∧
      asks call.exchanges <+: asks complete) ∧
    ∀ complete, Loads (.load worker.layout worker.filter) complete (.ok ()) →
      asks call.exchanges <+: asks complete →
        output call.exchanges ++ [.entry entry] <+: output complete

/-- The first call of a fresh worker that begins with a load that fails does nothing after
it. -/
theorem Finishes.halts {worker : Worker α} {call : Finished α} {loaded : List (Exchange α)}
    {cause : Failure} (hcall : worker.Finishes call) (hfresh : worker.phase = .fresh)
    (hload : Loads (.load worker.layout worker.filter) loaded (.error cause))
    (hpart : loaded <+: call.exchanges) :
    call.exchanges = loaded ∧ call.Halts worker cause := by
  rcases hcall with ⟨last, hacts, hresult, hafter⟩
  rw [begin_of_fresh call.element hfresh] at hacts
  rcases hload.acts with ⟨tally, hfails⟩
  rcases hfails.unique rfl hacts hresult hpart with ⟨rfl, rfl⟩
  rcases hload.output_eq with ⟨entries, hentries⟩
  rcases hload.haltsAt with ⟨told, before, stop, after, hstops, hhalts⟩
  refine ⟨rfl, (Option.some.inj hresult).symm, by rw [hafter]; rfl, hload.visits_eq,
    by simp [hentries], ?_, fun entry answer hlast => ⟨hload.exists_complete hlast, ?_⟩⟩
  · exact ⟨told, before, stop, after, hstops, hhalts,
      fun query answer hlast => hhalts.output_of_ask hlast⟩
  · exact fun complete hcomplete hasks => hload.output_isPrefix hlast hcomplete hasks

/-- The first call of a worker that could be made, if its load fails: there is such a call, and
each of them has the failure of the load as its result and does nothing after it.  The load
has failed at the first question without an answer, or at the first entry that was not taken;
and what the output has taken before are the entries of the slices that were done with, or
the first entries of a load without faults. -/
theorem failed_load_of_make {engine : Regex.Engine} {layout : Layout} {settings : Settings}
    {worker : Worker α} {loaded : List (Exchange α)} {cause : Failure}
    (hmake : make engine layout settings = .ok worker)
    (hload : Loads (.load layout worker.filter) loaded (.error cause)) (element : α) :
    (∃ call, worker.Finishes call ∧ call.element = element ∧ call.exchanges = loaded) ∧
      ∀ call, worker.Finishes call → loaded <+: call.exchanges →
        call.exchanges = loaded ∧ call.Halts worker cause := by
  rcases fresh_of_make hmake with ⟨hfresh, -, rfl⟩
  exact ⟨hload.exists_finishes hfresh element, fun call hcall hpart =>
    hcall.halts hfresh hload hpart⟩

/-- Where the second of two slices cannot be read, the first call of a worker fails there, and only
the entry of the first slice is in the output. -/
theorem failed_load_of_lone :
    make .builtin ⟨0, 1, 1⟩ .unpartitioned = .ok lone ∧
      ∃ call : Finished Nat, lone.Finishes call ∧
        Loads (.load ⟨0, 1, 1⟩ lone.filter) call.exchanges
          (.error (.baseFile "b" (.decode "torn"))) ∧
        call.Halts lone (.baseFile "b" (.decode "torn")) ∧
        output call.exchanges = [.entry Contents.singleEntry] := by
  have hmake : make .builtin ⟨0, 1, 1⟩ .unpartitioned = .ok lone := make_unpartitioned Nat ⟨0, 1, 1⟩
  have hresult : (Pass.load ⟨0, 1, 1⟩ .emptyText).result
      (Contents.twoSlices (.error (.decode "torn"))).table =
        .error (.baseFile "b" (.decode "torn")) := by cbv
  have hentries : (Pass.load ⟨0, 1, 1⟩ .emptyText).entries
      (Contents.twoSlices (.error (.decode "torn"))).table = [Contents.singleEntry] := by cbv
  have hleads := Pass.leads_events (Contents.twoSlices (.error (.decode "torn"))).table
    (.load ⟨0, 1, 1⟩ .emptyText)
  rw [hresult] at hleads
  have hload := Loads.failed (α := Nat) hleads
  rcases failed_load_of_make hmake hload 7 with ⟨⟨call, hcall, -, hloaded⟩, hall⟩
  have hhalts := (hall call hcall (by rw [hloaded])).2
  refine ⟨hmake, call, hcall, by rw [hloaded]; exact hload, hhalts, ?_⟩
  rw [hloaded, output_ofEvents]
  exact congrArg (List.map Item.entry) hentries

end Worker

end KeyIndex
