import KeyIndex.Proofs.Worker.Fault

/-!
# What a worker has counted of its entries

While a worker loads, it keeps the number of the entries that its output has taken beside its
tally.  The number goes into the tally at the end of the load, and at no other time: from then
on the tally is right, whatever becomes of the worker, and after a load that fails it shows no
entries at all, however many were taken.

Main results:

- Definition `Worker.Finished.entriesTaken`: how many entries the output takes in some calls.
- Definition `Worker.Finished.FailsToLoad`: the load of a worker fails in a call.
- Theorem `Worker.Finishes.entriesSent_of_fresh`: what the tally shows after the first call.
- Theorem `Worker.Finishes.tally_of_later`: no later call changes the tally.
- Theorem `Worker.entriesSent_eq_entriesTaken_iff`: when the tally is right.
- Theorem `Worker.entriesSent_torn`: a tally that is not.
-/

namespace KeyIndex

open Rendezvous

/-- To count something else changes nothing in the number of entries. -/
@[simp] theorem Tally.entriesSent_countAll (tally : Tally) (counters : List Counter) :
    (tally.countAll counters).entriesSent = tally.entriesSent := by
  rw [Tally.countAll_eq]

namespace Worker

open Exchange

variable {α : Type}

/-! ## What is to be counted -/

/-- How many entries of the index the output takes in some calls. -/
def Finished.entriesTaken (calls : List (Finished α)) : Nat :=
  (Finished.outputs calls).countP Item.isEntry

/-- In a call the load of the worker fails, at a question without an answer or at an entry that
is not taken. -/
def Finished.FailsToLoad (call : Finished α) (worker : Worker α) : Prop :=
  ∃ cause, Loads (.load worker.layout worker.filter) call.exchanges (.error cause)

theorem Finished.entriesTaken_cons (call : Finished α) (calls : List (Finished α)) :
    entriesTaken (call :: calls) =
      (output call.exchanges).countP Item.isEntry + entriesTaken calls := by
  simp [entriesTaken, outputs]

/-- What is taken at the end of a call is an element, if anything. -/
theorem countP_isEntry_send (element : α) (answer : Except Failure Unit) :
    (output [send (.element element) answer]).countP Item.isEntry = 0 := by
  rw [output_send]
  split <;> rfl

/-- The entries of a part of a pass are all that is taken in it. -/
theorem countP_isEntry_ofEvents (events : List Pass.Event) :
    (output (ofEvents events : List (Exchange α))).countP Item.isEntry =
      (Pass.Event.entries events).length := by
  rw [output_ofEvents, List.countP_eq_length.mpr (by simp [Item.isEntry]), List.length_map]

/-! ## The first call -/

/-- In a first call that comes to the end of its pass, no load fails. -/
theorem not_failsToLoad {worker : Worker α} {call : Finished α} {events : List Pass.Event}
    {rest : List (Exchange α)} (hleads : Pass.Leads (.load worker.layout worker.filter) events .done)
    (hsplit : call.exchanges = ofEvents events ++ rest) : ¬ call.FailsToLoad worker := by
  rintro ⟨cause, hloads⟩
  have hsame : ofEvents events ++ rest = call.exchanges ++ [] := by
    rw [hsplit, List.append_nil]
  exact hloads.not_done hleads hsame

/-- After the first call the tally shows no entries if the load has failed in it, and otherwise
the entries that were taken in it. -/
theorem Finishes.entriesSent_of_fresh {worker : Worker α} {call : Finished α}
    (h : worker.Finishes call) (hfresh : worker.phase = .fresh)
    (hnone : worker.tally.entriesSent = 0) :
    call.FailsToLoad worker ∧ call.after.tally.entriesSent = 0 ∨
      ¬ call.FailsToLoad worker ∧
        call.after.tally.entriesSent = (output call.exchanges).countP Item.isEntry := by
  rcases h with ⟨last, hacts, hresult, hafter⟩
  rw [begin_of_fresh call.element hfresh] at hacts
  rcases hacts.of_loading hresult with ⟨cause, -, hloads, -⟩ | ⟨events, rest, hleads, hsplit, hrest⟩
  · rcases hloads.acts_counting with ⟨counters, hfails⟩
    rcases hfails.unique rfl hacts hresult (List.prefix_refl _) with ⟨-, rfl⟩
    refine .inl ⟨⟨cause, hloads⟩, ?_⟩
    rw [hafter]
    exact (Tally.entriesSent_countAll _ _).trans hnone
  · refine .inr ⟨not_failsToLoad hleads hsplit, ?_⟩
    rcases Acts.of_meeting hrest hresult with ⟨visits, met, more, hattends, rfl, hover⟩
    rw [hsplit, hafter, output_append, output_append, hattends.output_eq, List.nil_append,
      List.countP_append, countP_isEntry_ofEvents]
    rcases Acts.of_over hover hresult with ⟨cause, -, rfl, -, rfl⟩ | ⟨-, rfl, rfl⟩
    · exact Nat.zero_add _
    · rw [countP_isEntry_send]
      exact Nat.zero_add _

/-! ## Later calls -/

/-- A later call leaves the tally as it is, and no entry is taken in it. -/
theorem Finishes.tally_of_later {worker : Worker α} {call : Finished α}
    (h : worker.Finishes call) (hfresh : worker.phase ≠ .fresh) :
    call.after.tally = worker.tally ∧ call.after.phase ≠ .fresh ∧
      (output call.exchanges).countP Item.isEntry = 0 := by
  rcases h with ⟨last, hacts, hresult, hafter⟩
  by_cases hcomplete : worker.phase = .complete
  · rw [begin_of_complete call.element hcomplete] at hacts
    rcases hacts.of_passing hresult with ⟨hexchanges, rfl⟩
    rw [hafter, hexchanges]
    exact ⟨rfl, hfresh, countP_isEntry_send _ _⟩
  · rw [begin_of_closed call.element hfresh hcomplete] at hacts
    rcases hacts.of_still rfl with ⟨hexchanges, rfl⟩
    rw [hafter, hexchanges]
    exact ⟨rfl, nofun, rfl⟩

/-- So do all later calls. -/
theorem FinishesAll.tally_of_later {worker : Worker α} {calls : List (Finished α)}
    (h : worker.FinishesAll calls) (hfresh : worker.phase ≠ .fresh) :
    (∀ call ∈ calls, call.after.tally = worker.tally) ∧ Finished.entriesTaken calls = 0 := by
  induction h with
  | nil worker => exact ⟨by simp, rfl⟩
  | @cons worker call calls hcall _ ih =>
    rcases hcall.tally_of_later hfresh with ⟨htally, hphase, hnone⟩
    rcases ih hphase with ⟨hsame, hrest⟩
    rw [htally] at hsame
    refine ⟨List.forall_mem_cons.mpr ⟨htally, hsame⟩, ?_⟩
    rw [Finished.entriesTaken_cons, hnone, hrest]

/-! ## All calls -/

/-- After each call of a worker that could be made, the tally shows either no entries, if the
load has failed in the first call, or all the entries that the output has taken.  So it is
right exactly if no entry was taken in a load that failed. -/
theorem entriesSent_eq_entriesTaken_iff {engine : Regex.Engine} {layout : Layout}
    {settings : Settings} {worker : Worker α} {calls : List (Finished α)} {first last : Finished α}
    (hmake : make engine layout settings = .ok worker) (hcalls : worker.FinishesAll calls)
    (hfirst : calls.head? = some first) (hlast : calls.getLast? = some last) :
    (last.after.tally.entriesSent = Finished.entriesTaken calls ↔
        (first.FailsToLoad worker → Finished.entriesTaken calls = 0)) ∧
      (first.FailsToLoad worker → last.after.tally.entriesSent = 0) := by
  have hnone : worker.tally.entriesSent = 0 := by rw [(eq_of_make hmake).2.2]
  cases hcalls with
  | nil => cases hfirst
  | @cons _ call later hcall hlater =>
    obtain rfl : call = first := Option.some.inj hfirst
    have hafter : call.after.phase ≠ .fresh := by
      rcases (hcall.of_fresh (fresh_of_make hmake).1).2 with ⟨-, -, -, hphase⟩ | ⟨-, -, -, hphase⟩ <;>
        simp [hphase]
    rcases hlater.tally_of_later hafter with ⟨hsame, hlaterTaken⟩
    have htally : last.after.tally = call.after.tally := by
      rcases List.mem_cons.mp (List.mem_of_getLast? hlast) with rfl | hmem
      · rfl
      · exact hsame last hmem
    rw [htally, Finished.entriesTaken_cons, hlaterTaken, Nat.add_zero]
    rcases hcall.entriesSent_of_fresh (fresh_of_make hmake).1 hnone with
      ⟨hfails, hsent⟩ | ⟨hloads, hsent⟩
    · rw [hsent]
      exact ⟨⟨fun heq _ => heq.symm, fun hzero => (hzero hfails).symm⟩, fun _ => rfl⟩
    · exact ⟨⟨fun _ hfails => absurd hfails hloads, fun _ => hsent⟩,
        fun hfails => absurd hfails hloads⟩

/-! ## A worker that is alone, over a table with two slices -/

/-- After a call in which the entries of both slices are taken, the tally shows them. -/
theorem entriesSent_whole :
    make .builtin ⟨0, 1, 1⟩ .unpartitioned = .ok lone ∧
      ∃ call : Finished Nat, lone.FinishesAll [call] ∧ Finished.entriesTaken [call] = 2 ∧
        call.after.tally.entriesSent = 2 := by
  have hmake : make .builtin ⟨0, 1, 1⟩ .unpartitioned = .ok lone := make_unpartitioned Nat ⟨0, 1, 1⟩
  let table := (Contents.twoSlices (.ok [⟨"y", ""⟩])).table
  have hload : (Pass.load ⟨0, 1, 1⟩ .emptyText).result table = .ok () := by cbv
  have hentries : ((Pass.load ⟨0, 1, 1⟩ .emptyText).entries table).length = 2 := by cbv
  have hanswers := (Pass.fair_load ⟨0, 1, 1⟩ .emptyText table).mp (by rw [hload, isOk_ok])
  have hmet : Attends lone.meeting (.arriving 0)
      [(register defaultRendezvous 0 (.ok 1) 0 : Exchange Nat)] (.over (.ok ())) :=
    .register _ _ (.refl _)
  rcases @exists_smooth Nat lone table _ rfl hanswers hmet 7 with ⟨call, hcall, -, hsmooth, hvisits⟩
  have htaken : Finished.entriesTaken [call] = 2 := by
    rw [Finished.entriesTaken_cons, (hcall.of_smooth rfl hsmooth).2.2.1, List.countP_eq_length_filter,
      filter_isEntry]
    exact hentries
  -- A worker whose load fails does not come to the meeting.
  have hloads : ¬ call.FailsToLoad lone := by
    rintro ⟨cause, hloads⟩
    rw [hloads.visits_eq] at hvisits
    cases hvisits
  have hcalls : lone.FinishesAll [call] := .cons hcall (.nil _)
  refine ⟨hmake, call, hcalls, htaken, ?_⟩
  rw [← htaken]
  exact (entriesSent_eq_entriesTaken_iff hmake hcalls rfl rfl).1.mpr fun hfails =>
    absurd hfails hloads

/-- After a call in which the entry of the first slice is taken and the second slice cannot be
read, the tally shows no entries. -/
theorem entriesSent_torn :
    make .builtin ⟨0, 1, 1⟩ .unpartitioned = .ok lone ∧
      ∃ call : Finished Nat, lone.Finishes call ∧
        Loads (.load ⟨0, 1, 1⟩ lone.filter) call.exchanges
          (.error (.baseFile "b" (.decode "torn"))) ∧
        Finished.outputs [call] = [.entry Contents.singleEntry] ∧
        Finished.entriesTaken [call] = 1 ∧ call.after.tally.entriesSent = 0 := by
  have hmake : make .builtin ⟨0, 1, 1⟩ .unpartitioned = .ok lone := make_unpartitioned Nat ⟨0, 1, 1⟩
  let table := (Contents.twoSlices (.error (.decode "torn"))).table
  have hload : (Pass.load ⟨0, 1, 1⟩ .emptyText).result table =
      .error (.baseFile "b" (.decode "torn")) := by cbv
  have hentries : (Pass.load ⟨0, 1, 1⟩ .emptyText).entries table = [Contents.singleEntry] := by cbv
  have hleads := Pass.leads_events table (.load ⟨0, 1, 1⟩ .emptyText)
  rw [hload] at hleads
  have hloads := Loads.failed (α := Nat) hleads
  rcases @Loads.exists_finishes Nat lone _ _ hloads rfl 7 with ⟨call, hcall, -, hexchanges⟩
  rw [← hexchanges] at hloads
  have houtputs : Finished.outputs [call] = [.entry Contents.singleEntry] := by
    rw [Finished.outputs, List.flatMap_singleton, hexchanges, output_ofEvents]
    exact congrArg (List.map Item.entry) hentries
  refine ⟨hmake, call, hcall, hloads, houtputs, ?_, ?_⟩
  · rw [Finished.entriesTaken, houtputs]
    rfl
  · rcases hcall.entriesSent_of_fresh rfl rfl with ⟨-, hsent⟩ | ⟨hnone, -⟩
    · exact hsent
    · exact absurd ⟨_, hloads⟩ hnone

end Worker

end KeyIndex
