import KeyIndex.Proofs.Worker.OneShot
import KeyIndex.Table.Contents
import Mathlib

/-!
# What a worker sends

Where nothing goes wrong, the first call of a worker sends the share of the worker and
after it the element: the table answers what it is asked, the output takes what it is
sent, and the meeting ends well.  What the worker has counted then agrees with what the
table holds and with what was sent.

Main results:

- Definition `Worker.Finished.Smooth`: a call in which nothing goes wrong.
- Theorem `Worker.Finishes.of_smooth`: what is sent and counted in such a first call.
- Theorem `Worker.exists_smooth`: with a table that answers and a meeting that ends well
  there is such a call.
- Theorem `Worker.first_call_of_make`: both together, for every worker that can be made.
-/

namespace KeyIndex

open Rendezvous

/-- Whether an item is an entry of the index. -/
def Item.isEntry {α : Type} : Item α → Bool
  | entry _ => true
  | element _ => false

namespace Worker

open Exchange

variable {α : Type}

/-- In a call nothing goes wrong: the table gives its answers, the output takes every
item, and the meeting ends well. -/
structure Finished.Smooth (call : Finished α) (table : Table) (meeting : Meeting) : Prop where
  answered : ∀ query answer, ask query answer ∈ call.exchanges → table.answer query = answer
  taken : ∀ item answer, send item answer ∈ call.exchanges → answer = .ok ()
  met : Attends meeting (.arriving 0) (visits call.exchanges) (.over (.ok ()))

/-- A first call in which nothing goes wrong succeeds.  It has made the whole pass over
the table, and it has sent the entries of the pass and its element. -/
theorem Finishes.of_smooth {worker : Worker α} {call : Finished α} {table : Table}
    (h : worker.Finishes call) (hfresh : worker.phase = .fresh)
    (hsmooth : call.Smooth table worker.meeting) :
    call.result = .ok () ∧ (Pass.load worker.layout worker.filter).result table = .ok () ∧
      output call.exchanges =
        ((Pass.load worker.layout worker.filter).entries table).map .entry ++
          [.element call.element] ∧
      call.after.tally =
        { worker.tally.countAll ((Pass.load worker.layout worker.filter).counters table) with
          entriesSent := ((Pass.load worker.layout worker.filter).entries table).length } := by
  rcases h with ⟨last, hacts, hresult, hafter⟩
  rw [begin_of_fresh call.element hfresh] at hacts
  rcases hacts.of_loading hresult with
    ⟨cause, tally, hloads, -⟩ | ⟨events, rest, hleads, hsplit, hrest⟩
  · -- A worker whose pass fails does not come to the meeting.
    have hmet := hsmooth.met
    rw [hloads.visits_eq] at hmet
    cases hmet
  · rcases Acts.of_meeting hrest hresult with ⟨attended, met, more, hattends, rfl, hover⟩
    rcases Acts.of_over hover hresult with
      ⟨cause, rfl, rfl, -⟩ | ⟨rfl, rfl, rfl⟩
    · have hmet := hsmooth.met
      rw [hsplit, visits_append, visits_ofEvents, List.append_nil, hattends.visits_eq] at hmet
      cases hattends.unique hmet
    · have hok : call.result = .ok () := hsmooth.taken (.element call.element) _ (by simp [hsplit])
      have hanswered : Pass.Answered table events := by
        intro query answer hmem
        refine hsmooth.answered query answer ?_
        rw [hsplit]
        exact List.mem_append_left _ (mem_ofEvents_ask.mpr hmem)
      rcases hleads.events_eq hanswered with ⟨hevents, hload⟩
      have hcourse : (Pass.load worker.layout worker.filter).events table = events := by
        rw [hevents, Pass.events, List.append_nil]
      refine ⟨hok, hload, ?_, ?_⟩
      · rw [hsplit, output_append, output_append, output_ofEvents, hattends.output_eq, hok,
          Pass.entries, hcourse]
        rfl
      · rw [hafter, Pass.counters, Pass.entries, hcourse]
        simp only [abandon, ended, arrived, Nat.zero_add]

/-- Where the table answers all that is asked, and the meeting can end well, there is a
first call in which nothing goes wrong. -/
theorem exists_smooth {worker : Worker α} {table : Table} {attended : List (Exchange α)}
    (hfresh : worker.phase = .fresh)
    (hanswers : table.Answers ((Pass.load worker.layout worker.filter).asked table))
    (hmet : Attends worker.meeting (.arriving 0) attended (.over (.ok ()))) (element : α) :
    ∃ call, worker.Finishes call ∧ call.element = element ∧
      call.Smooth table worker.meeting ∧ visits call.exchanges = attended := by
  have hload := Pass.load_of_answers hanswers
  have hleads := Pass.leads_events table (Pass.load worker.layout worker.filter)
  rw [hload] at hleads
  have hcall : ∃ last,
      Acts (worker.begin element)
        (ofEvents ((Pass.load worker.layout worker.filter).events table) ++
          (attended ++ [send (.element element) (.ok ())])) last ∧
        last.result? = some (.ok ()) := by
    rw [begin_of_fresh element hfresh]
    refine exists_acts hleads ?_ (.ok ())
    exact hmet
  rcases hcall with ⟨last, hacts, hresult⟩
  have hvisits : visits (ofEvents ((Pass.load worker.layout worker.filter).events table) ++
      (attended ++ [send (.element element) (.ok ())])) = attended := by
    rw [visits_append, visits_append, visits_ofEvents, hmet.visits_eq]
    exact List.append_nil _
  refine ⟨⟨element, _, .ok (), last.abandon⟩, ⟨last, hacts, hresult, rfl⟩, rfl,
    ⟨?_, ?_, ?_⟩, hvisits⟩
  · intro query answer hmem
    rcases List.mem_append.mp hmem with hmem | hmem
    · exact Pass.answered_events table _ query answer (mem_ofEvents_ask.mp hmem)
    · rcases List.mem_append.mp hmem with hmem | hmem
      · cases hmet.isVisit _ hmem
      · have hlast : ask query answer = send (.element element) (.ok ()) :=
          List.mem_singleton.mp hmem
        cases hlast
  · intro item answer hmem
    rcases List.mem_append.mp hmem with hmem | hmem
    · exact answer_of_mem_ofEvents hmem
    · rcases List.mem_append.mp hmem with hmem | hmem
      · cases hmet.isVisit _ hmem
      · have hlast : send item answer = send (.element element) (.ok ()) :=
          List.mem_singleton.mp hmem
        cases hlast
        rfl
  · rw [hvisits]
    exact hmet

/-- The entries among what a worker has sent. -/
theorem filter_isEntry (entries : List IndexEntry) (element : α) :
    ((entries.map Item.entry ++ [Item.element element]).filter Item.isEntry).length =
      entries.length := by
  have hentries : (entries.map (Item.entry (α := α))).filter Item.isEntry = entries.map .entry :=
    List.filter_eq_self.mpr (by simp [Item.isEntry])
  rw [List.filter_append, hentries]
  simp [Item.isEntry]

/-- The first call of a worker that could be made, over a table that answers all that is
asked, with an output that takes every item and a meeting that ends well: there is such a
call, and each of them sends the share of the worker, in the order of the table, and then
the element.  The worker has counted each listed partition once, each live slice once, and
each entry that was sent. -/
theorem first_call_of_make {engine : Regex.Engine} {layout : Layout} {settings : Settings}
    {worker : Worker α} {filter : Regex} {table : Table} {attended : List (Exchange α)}
    (hmake : make engine layout settings = .ok worker)
    (hfilter : settings.filter engine = .ok filter)
    (hanswers : table.Answers ((Pass.load layout filter).asked table))
    (hmet : Attends worker.meeting (.arriving 0) attended (.over (.ok ()))) (element : α) :
    (∃ call, worker.Finishes call ∧ call.element = element ∧
        call.Smooth table worker.meeting ∧ visits call.exchanges = attended) ∧
      ∀ call, worker.Finishes call → call.element = element → call.Smooth table worker.meeting →
        call.result = .ok () ∧
        output call.exchanges =
          (table.share filter layout.owns).map .entry ++ [.element element] ∧
        (table.latest = none → output call.exchanges = [.element element]) ∧
        call.after.tally.partitionsLoaded + call.after.tally.partitionsSkipped =
          table.listed.length ∧
        call.after.tally.slicesLoaded + call.after.tally.slicesNotOwned =
          (table.live filter).length ∧
        call.after.tally.entriesSent =
          ((output call.exchanges).filter Item.isEntry).length := by
  rcases eq_of_make hmake with ⟨-, hsame, hworker⟩
  obtain rfl : filter = worker.filter := Except.ok.inj (hfilter.symm.trans hsame)
  have hfresh : worker.phase = .fresh := by rw [hworker]
  have hlayout : worker.layout = layout := by rw [hworker]
  have htally : worker.tally = {} := by rw [hworker]
  refine ⟨exists_smooth hfresh (hlayout ▸ hanswers) hmet element, ?_⟩
  rintro call hcall rfl hsmooth
  rcases hcall.of_smooth hfresh hsmooth with ⟨hok, hload, hsent, hcounted⟩
  rw [hlayout] at hload hsent hcounted
  rw [htally] at hcounted
  have hshare := (Pass.load_of_ok hload).1
  rcases Pass.tally_load_sum hload with ⟨hpartitions, hslices⟩
  refine ⟨hok, by rw [hsent, hshare], ?_, ?_, ?_, ?_⟩
  · intro hnone
    rw [hsent, hshare]
    simp [Table.share, Table.live, hnone]
  · rw [hcounted]
    exact hpartitions
  · rw [hcounted]
    exact hslices
  · rw [hcounted, hsent, filter_isEntry]

end Worker

/-! ## Tables with one slice and with two -/

/-- A table without partitions, with one live slice that has one key. -/
def Contents.single : Contents where
  latest := .ok (some ⟨"20240101"⟩)
  partitions := .ok [""]
  slices := [("", .ok [(FileSlice.empty "" ⟨"fg-1"⟩ ⟨"20240101"⟩).setBaseFile ⟨"a", 1⟩])]
  baseFiles := [("a", .ok [⟨"x", ""⟩])]

/-- Its entry. -/
def Contents.singleEntry : IndexEntry := ⟨⟨"x", ""⟩, ⟨"", ⟨"20240101"⟩, ⟨"fg-1"⟩⟩⟩

/-- A table without partitions, with two live slices.  The first one is that of the table
above, and `second` is what comes of reading the base file of the other one. -/
def Contents.twoSlices (second : Except Failure (List RecordKey)) : Contents where
  latest := .ok (some ⟨"20240101"⟩)
  partitions := .ok [""]
  slices := [("", .ok
    [(FileSlice.empty "" ⟨"fg-1"⟩ ⟨"20240101"⟩).setBaseFile ⟨"a", 1⟩,
      (FileSlice.empty "" ⟨"fg-2"⟩ ⟨"20240101"⟩).setBaseFile ⟨"b", 1⟩])]
  baseFiles := [("a", .ok [⟨"x", ""⟩]), ("b", second)]

namespace Worker

open Exchange

/-- A worker that is alone sends the entry of the table and then its element. -/
theorem first_call_of_lone :
    make .builtin ⟨0, 1, 1⟩ .unpartitioned = .ok lone ∧
      Settings.unpartitioned.filter .builtin = .ok .emptyText ∧
      Contents.single.table.Answers
        ((Pass.load ⟨0, 1, 1⟩ .emptyText).asked Contents.single.table) ∧
      Attends lone.meeting (.arriving 0)
        [(register defaultRendezvous 0 (.ok 1) 0 : Exchange Nat)] (.over (.ok ())) ∧
      ∃ call, lone.Finishes call ∧ call.Smooth Contents.single.table lone.meeting ∧
        output call.exchanges = [.entry Contents.singleEntry, .element 7] := by
  have hmake : make .builtin ⟨0, 1, 1⟩ .unpartitioned = .ok lone := make_unpartitioned Nat ⟨0, 1, 1⟩
  have hload : (Pass.load ⟨0, 1, 1⟩ .emptyText).result Contents.single.table = .ok () := by cbv
  have hanswers := (Pass.fair_load ⟨0, 1, 1⟩ .emptyText Contents.single.table).mp
    (by rw [hload, isOk_ok])
  have hmet : Attends lone.meeting (.arriving 0)
      [(register defaultRendezvous 0 (.ok 1) 0 : Exchange Nat)] (.over (.ok ())) :=
    .register _ _ (.refl _)
  have hshare : Contents.single.table.share .emptyText (Layout.owns ⟨0, 1, 1⟩) =
      [Contents.singleEntry] := by cbv
  obtain ⟨⟨call, hcall, helement, hsmooth, -⟩, hall⟩ :=
    first_call_of_make hmake Settings.filter_unpartitioned hanswers hmet 7
  rcases hall call hcall helement hsmooth with ⟨-, hsent, -⟩
  refine ⟨hmake, Settings.filter_unpartitioned, hanswers, hmet, call, hcall, hsmooth, ?_⟩
  rw [hsent, hshare]
  rfl

end Worker

end KeyIndex
