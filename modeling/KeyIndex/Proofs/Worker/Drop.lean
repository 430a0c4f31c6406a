import KeyIndex.Proofs.Worker.Fault
import KeyIndex.Proofs.Worker.Life

/-!
# First calls that are given up

The first call of a worker may be given up at any request of its pass, or of the meeting after
it.  The output has then taken the first entries of a load without faults, and it may take the
next one, if that has just been offered.  The worker has not failed, but it is shut: each later
call is refused at once, and nothing is asked, sent or registered any more.

Main results:

- Definition `Worker.Reaches`: how far a first call has come.
- Theorems `Worker.Reaches.step`, `Worker.Reaches.want`, `Worker.Acts.reaches`: no request and
  no reply leads anywhere else.
- Theorem `Worker.Reaches.output_isPrefix`: what the output has taken by then.
- Definition `Worker.Shut`, Theorem `Worker.Lives.refuses`: what becomes of a worker that is
  shut.
- Theorem `Worker.dropped_of_make`: a first call that is given up.
-/

namespace KeyIndex

open Rendezvous

namespace Worker

open Exchange

variable {α : Type} {pass : Pass} {worker next last : Worker α} {history : List (Exchange α)}

/-! ## How far a first call has come -/

/-- A worker has done with its pass and with the meeting, or has failed in one of them. -/
structure IsPast (worker : Worker α) : Prop where
  loading : worker.phase ≠ .loading
  meeting : worker.phase ≠ .meeting
  pass : ∀ element rest sent, worker.call ≠ some (.loading element rest sent)
  wait : ∀ element wait, worker.call ≠ some (.meeting element wait)

/-- How far the first call of a worker has come after some exchanges: it has made a part of its
pass; or it has come to the end of the pass, and has been at the meeting since; or it is past
both. -/
inductive Reaches (pass : Pass) (worker : Worker α) : List (Exchange α) → Prop where
  | loading {element : α} {events : List Pass.Event} {rest : Pass} {sent : Nat} :
      Pass.Leads pass events rest → worker.phase = .loading →
        worker.call = some (.loading element rest sent) → Reaches pass worker (ofEvents events)
  | meeting {element : α} {events : List Pass.Event} {visits : List (Exchange α)} {wait : Wait} :
      Pass.Leads pass events .done → (∀ visit ∈ visits, visit.isVisit) →
        worker.phase = .meeting → worker.call = some (.meeting element wait) →
          Reaches pass worker (ofEvents events ++ visits)
  | past {history : List (Exchange α)} : worker.IsPast → Reaches pass worker history

/-- A worker that fails is past everything. -/
theorem isPast_fail (worker : Worker α) (cause : Failure) : (worker.fail cause).IsPast :=
  ⟨by simp [fail], by simp [fail], by simp [fail], by simp [fail]⟩

/-- It takes a step of its own. -/
theorem Reaches.step (h : Reaches pass worker history) (hview : worker.view = .step next) :
    Reaches pass next history := by
  have hmoves := moves_of_view hview
  cases h with
  | @loading element events rest sent hleads hphase hcall =>
    cases hmoves with
    | arrived hsame =>
      cases hcall.symm.trans hsame
      rw [← List.append_nil (ofEvents events)]
      exact .meeting hleads (by simp) rfl rfl
    | failed _ => exact .past (isPast_fail _ _)
    | @counted _ counter _ _ hsame =>
      cases hcall.symm.trans hsame
      rw [← ofEvents_concat_counted events counter]
      exact .loading hleads.counted hphase rfl
    | opened hsame => cases hcall.symm.trans hsame
    | missed hsame => cases hcall.symm.trans hsame
  | meeting _ _ _ hcall =>
    cases hmoves with
    | arrived hsame => cases hcall.symm.trans hsame
    | failed hsame => cases hcall.symm.trans hsame
    | counted hsame => cases hcall.symm.trans hsame
    | opened _ =>
      exact .past ⟨by simp [passing], by simp [passing], by simp [passing], by simp [passing]⟩
    | missed _ => exact .past (isPast_fail _ _)
  | past hpast =>
    cases hmoves with
    | arrived hsame => exact absurd hsame (hpast.pass _ _ _)
    | failed hsame => exact absurd hsame (hpast.pass _ _ _)
    | counted hsame => exact absurd hsame (hpast.pass _ _ _)
    | opened hsame => exact absurd hsame (hpast.wait _ _)
    | missed hsame => exact absurd hsame (hpast.wait _ _)

/-- It has a reply. -/
theorem Reaches.want (h : Reaches pass worker history) {request : Request α}
    {resume : request.Reply → Worker α} (hview : worker.view = .want request resume)
    (reply : request.Reply) : Reaches pass (resume reply) (history ++ [⟨request, reply⟩]) := by
  have htrades := trades_of_view hview reply
  generalize resume reply = next at htrades ⊢
  generalize (⟨request, reply⟩ : Exchange α) = exchange at htrades ⊢
  cases h with
  | loading hleads hphase hcall =>
    cases htrades with
    | asked answer hsame =>
      cases hcall.symm.trans hsame
      rw [← ofEvents_concat_asked]
      exact .loading (hleads.asked answer) hphase rfl
    | taken hsame =>
      cases hcall.symm.trans hsame
      rw [← ofEvents_concat_sent]
      exact .loading hleads.sent hphase rfl
    | refused cause _ => exact .past (isPast_fail _ _)
    | registered answer elapsed hsame => cases hcall.symm.trans hsame
    | rested hsame => cases hcall.symm.trans hsame
    | passed answer hsame => cases hcall.symm.trans hsame
  | meeting hleads hvisits hphase hcall =>
    rw [List.append_assoc]
    cases htrades with
    | asked answer hsame => cases hcall.symm.trans hsame
    | taken hsame => cases hcall.symm.trans hsame
    | refused cause hsame => cases hcall.symm.trans hsame
    | registered answer elapsed _ =>
      exact .meeting hleads (List.forall_mem_append.mpr ⟨hvisits, by simp [isVisit, register]⟩)
        hphase rfl
    | rested _ =>
      exact .meeting hleads (List.forall_mem_append.mpr ⟨hvisits, by simp [isVisit, rest]⟩)
        hphase rfl
    | passed answer hsame => cases hcall.symm.trans hsame
  | past hpast =>
    cases htrades with
    | asked answer hsame => exact absurd hsame (hpast.pass _ _ _)
    | taken hsame => exact absurd hsame (hpast.pass _ _ _)
    | refused cause hsame => exact absurd hsame (hpast.pass _ _ _)
    | registered answer elapsed hsame => exact absurd hsame (hpast.wait _ _)
    | rested hsame => exact absurd hsame (hpast.wait _ _)
    | passed answer _ =>
      exact .past ⟨hpast.loading, hpast.meeting, by simp [ended], by simp [ended]⟩

/-- So far it comes in any part of its call. -/
theorem Acts.reaches {exchanges : List (Exchange α)} (hacts : Acts worker exchanges last)
    (h : Reaches pass worker history) : Reaches pass last (history ++ exchanges) := by
  induction hacts generalizing history with
  | refl worker =>
    rw [List.append_nil]
    exact h
  | step hview _ ih => exact ih (h.step hview)
  | want hview reply _ ih =>
    have hrest := ih (h.want hview reply)
    rw [List.append_assoc] at hrest
    exact hrest

/-- So far a fresh worker comes. -/
theorem reaches_of_fresh {element : α} {exchanges : List (Exchange α)}
    (hfresh : worker.phase = .fresh) (hacts : Acts (worker.begin element) exchanges last) :
    Reaches (.load worker.layout worker.filter) last exchanges := by
  have hbegun : Reaches (.load worker.layout worker.filter) (worker.begin element) [] := by
    rw [begin_of_fresh element hfresh]
    exact .loading (.refl _) rfl rfl
  exact hacts.reaches hbegun

/-! ## What the output has taken -/

/-- The item that a worker offers to the output. -/
def offered? (worker : Worker α) : Option (Item α) :=
  match worker.view with
  | .want (.send item) _ => some item
  | _ => none

/-- In a pass a worker offers the entry that comes next in it. -/
theorem offered?_isPrefix {element : α} {rest : Pass} {sent : Nat} {later : List Pass.Event}
    (hcall : worker.call = some (.loading element rest sent)) (hlater : Pass.Leads rest later .done) :
    worker.offered?.toList <+: output (ofEvents later) := by
  rw [offered?, view, hcall]
  cases rest with
  | emit entry rest =>
    cases hlater with
    | emit _ => exact List.cons_prefix_cons.mpr ⟨rfl, List.nil_prefix⟩
  | done => exact List.nil_prefix
  | failed cause => exact List.nil_prefix
  | ask query rest => exact List.nil_prefix
  | count counter rest => exact List.nil_prefix

/-- At the meeting a worker offers nothing. -/
theorem offered?_of_meeting {element : α} {wait : Wait}
    (hcall : worker.call = some (.meeting element wait)) : worker.offered? = none := by
  rw [offered?, view, hcall]
  rcases wait with seen | ⟨seen, watching, length⟩ | cause | _ <;> rfl

/-- A call that has not come past the meeting, and a load without faults that begins with the
same answers: the output has taken the first entries of the second, and the next one of them
is the one that is offered, if any is. -/
theorem Reaches.output_isPrefix (h : Reaches pass worker history) {complete : List (Exchange α)}
    (hphase : worker.phase = .loading ∨ worker.phase = .meeting)
    (hcomplete : Loads pass complete (.ok ())) (hasks : asks history <+: asks complete) :
    output history ++ worker.offered?.toList <+: output complete := by
  cases hcomplete with
  | done hdone =>
    cases h with
    | loading hleads _ hcall =>
      rcases hleads.exists_rest hdone hasks with ⟨later, hlater, hsplit⟩
      rw [hsplit, output_append]
      exact (List.prefix_append_right_inj _).mpr (offered?_isPrefix hcall hlater)
    | meeting hleads hvisits _ hcall =>
      rw [asks_append, asks_of_isVisit hvisits, List.append_nil] at hasks
      rcases hleads.exists_rest hdone hasks with ⟨later, -, hsplit⟩
      rw [offered?_of_meeting hcall, output_append, output_of_isVisit hvisits, hsplit, output_append,
        List.append_nil, Option.toList_none, List.append_nil]
      exact List.prefix_append _ _
    | past hpast => exact absurd hphase (not_or.mpr ⟨hpast.loading, hpast.meeting⟩)

/-- What a load has asked that waits for a reply, a load without faults can begin with. -/
theorem Reaches.exists_complete {layout : Layout} {filter : Regex}
    (h : Reaches (.load layout filter) worker history)
    (hphase : worker.phase = .loading ∨ worker.phase = .meeting) (hwaits : worker.Waits) :
    ∃ complete, Loads (.load layout filter) complete (.ok ()) ∧
      asks history <+: asks complete := by
  cases h with
  | @loading _ _ rest _ hleads _ hcall =>
    -- A load that has failed does not wait for a reply.
    have hrest : ∀ cause, rest ≠ .failed cause := by
      rintro cause rfl
      exact hwaits (worker.fail cause) (by rw [view, hcall]; rfl)
    rcases hleads.exists_done hrest with ⟨later, hlater⟩
    refine ⟨_, .done (hleads.append hlater), ?_⟩
    rw [ofEvents_append, asks_append]
    exact List.prefix_append _ _
  | meeting hleads hvisits _ _ =>
    refine ⟨_, .done hleads, ?_⟩
    rw [asks_append, asks_of_isVisit hvisits, List.append_nil]
  | past hpast => exact absurd hphase (not_or.mpr ⟨hpast.loading, hpast.meeting⟩)

/-! ## Workers that are shut -/

/-- A worker is shut: it will not begin with a pass, nor pass an element on; and a call that it
is in has been refused. -/
structure Shut (worker : Worker α) : Prop where
  fresh : worker.phase ≠ .fresh
  complete : worker.phase ≠ .complete
  call : ∀ call, worker.call = some call →
    worker.phase = .failed ∧ call = .ended (.error (.incomplete worker.layout.worker))

/-- A worker whose call is given up while it loads or waits for the others is shut. -/
theorem shut_abandon (hphase : worker.phase = .loading ∨ worker.phase = .meeting) :
    worker.abandon.Shut := by
  rcases hphase with hphase | hphase <;>
    exact ⟨by simp [abandon, hphase], by simp [abandon, hphase], by simp [abandon]⟩

/-- It refuses an element. -/
theorem Shut.begin_eq (h : worker.Shut) (element : α) :
    worker.begin element = worker.fail (.incomplete worker.layout.worker) :=
  begin_of_closed element h.fresh h.complete

/-- It has failed then. -/
theorem Shut.phase_begin (h : worker.Shut) (element : α) :
    (worker.begin element).phase = .failed := by
  rw [h.begin_eq]
  rfl

/-- It is shut after it. -/
theorem Shut.begin (h : worker.Shut) (element : α) : (worker.begin element).Shut := by
  rw [h.begin_eq]
  exact ⟨by simp [fail], by simp [fail], by simp [fail]⟩

/-- It is still. -/
theorem Shut.view_eq (h : worker.Shut) : worker.view = .still := by
  rw [view]
  cases hcall : worker.call with
  | none => rfl
  | some call =>
    rw [(h.call call hcall).2]

/-- It leaves a call with the refusal as its result. -/
theorem Shut.result_eq (h : worker.Shut) (hcall : worker.call ≠ none) :
    worker.phase = .failed ∧
      worker.result? = some (.error (.incomplete worker.layout.worker)) := by
  rcases Option.ne_none_iff_exists'.mp hcall with ⟨call, hsome⟩
  rcases h.call call hsome with ⟨hphase, rfl⟩
  exact ⟨hphase, by rw [result?, hsome]⟩

/-- It is shut after that, too. -/
theorem Shut.leave (h : worker.Shut) : worker.abandon.Shut :=
  ⟨h.fresh, h.complete, by simp [abandon]⟩

/-- What becomes of a worker that is shut: it has no exchanges, each of its calls is left with
the refusal as its result, it has failed once it has been in a call, and it would refuse the
next element at once. -/
structure Refuses (index : UInt32) (deeds : List (Deed α)) (last : Worker α) : Prop where
  silent : Deed.exchanges deeds = []
  refused : ∀ result, .left result ∈ deeds → result = some (.error (.incomplete index))
  phase : deeds ≠ [] → last.phase = .failed
  next : last.call = none → ∀ element, (last.begin element).phase = .failed ∧
    (last.begin element).result? = some (.error (.incomplete index))

/-- So it is before anything becomes of it. -/
theorem Shut.refuses (h : worker.Shut) : Refuses worker.layout.worker [] worker := by
  refine ⟨rfl, by simp, by simp, fun _ element => ?_⟩
  rw [h.begin_eq]
  exact ⟨rfl, rfl⟩

/-- So it is if it was given an element before. -/
theorem Refuses.begun {index : UInt32} {deeds : List (Deed α)} (h : Refuses index deeds last)
    (hfailed : last.phase = .failed) (element : α) : Refuses index (.begun element :: deeds) last :=
  ⟨h.silent, by simpa using h.refused, fun _ => hfailed, h.next⟩

/-- So it is if it left a call with the refusal before. -/
theorem Refuses.left {index : UInt32} {deeds : List (Deed α)} (h : Refuses index deeds last)
    (hfailed : last.phase = .failed) :
    Refuses index (.left (some (.error (.incomplete index))) :: deeds) last :=
  ⟨h.silent, by simpa using h.refused, fun _ => hfailed, h.next⟩

/-- A worker that is shut and has failed has failed for good. -/
theorem Lives.failed_of_shut {deeds : List (Deed α)} (hlives : Lives worker deeds last)
    (h : worker.Shut) (hfailed : worker.phase = .failed) : last.phase = .failed := by
  induction hlives with
  | refl worker => exact hfailed
  | begin element _ _ ih => exact ih (h.begin element) (h.phase_begin element)
  | step hview _ _ => exact absurd hview (h.view_eq ▸ nofun)
  | want hview _ _ _ => exact absurd hview (h.view_eq ▸ nofun)
  | leave _ _ _ ih => exact ih h.leave hfailed

/-- A worker that is shut refuses, all its life. -/
theorem Lives.refuses {deeds : List (Deed α)} (hlives : Lives worker deeds last)
    (h : worker.Shut) : Refuses worker.layout.worker deeds last := by
  induction hlives with
  | refl worker => exact h.refuses
  | begin element _ hrest ih =>
    have hrefuses := ih (h.begin element)
    rw [(begin_terms _ element).layout] at hrefuses
    exact hrefuses.begun (hrest.failed_of_shut (h.begin element) (h.phase_begin element)) element
  | step hview _ _ => exact absurd hview (h.view_eq ▸ nofun)
  | want hview _ _ _ => exact absurd hview (h.view_eq ▸ nofun)
  | leave hcall _ hrest ih =>
    rcases h.result_eq hcall with ⟨hfailed, hresult⟩
    rw [hresult]
    exact (ih h.leave).left (hrest.failed_of_shut h.leave hfailed)

/-! ## A first call that is given up -/

/-- The first call of a worker that could be made, given up while it waits for a reply, in its
pass or at the meeting.  There is a load without faults that begins with the same answers, and
for every such load: the output has taken its first entries, and the one that is offered is the
next.  No element has been taken or is offered.  And however the worker goes on, it refuses. -/
theorem dropped_of_make {engine : Regex.Engine} {layout : Layout} {settings : Settings}
    {worker dropped : Worker α} {element : α} {exchanges : List (Exchange α)}
    (hmake : make engine layout settings = .ok worker)
    (hacts : Acts (worker.begin element) exchanges dropped)
    (hphase : dropped.phase = .loading ∨ dropped.phase = .meeting) (hwaits : dropped.Waits) :
    (∃ complete, Loads (.load layout worker.filter) complete (.ok ()) ∧
        asks exchanges <+: asks complete) ∧
      (∀ complete, Loads (.load layout worker.filter) complete (.ok ()) →
        asks exchanges <+: asks complete →
          output exchanges ++ dropped.offered?.toList <+: output complete) ∧
      (∃ entries : List IndexEntry,
        output exchanges ++ dropped.offered?.toList = entries.map .entry) ∧
      ∀ deeds last, dropped.abandon.Lives deeds last → Refuses layout.worker deeds last := by
  rcases fresh_of_make hmake with ⟨hfresh, -, rfl⟩
  have hreaches := reaches_of_fresh hfresh hacts
  have hlayout : dropped.abandon.layout = worker.layout :=
    ((begin_terms worker element).trans hacts.terms).layout
  have hexists := hreaches.exists_complete hphase hwaits
  refine ⟨hexists, fun complete hcomplete hasks => hreaches.output_isPrefix hphase hcomplete hasks,
    ?_, fun deeds last hlives => hlayout ▸ hlives.refuses (shut_abandon hphase)⟩
  -- The first items of a load are entries, since all its items are.
  rcases hexists with ⟨complete, hcomplete, hasks⟩
  rcases hcomplete.output_eq with ⟨entries, hentries⟩
  have hfirst := hreaches.output_isPrefix hphase hcomplete hasks
  rw [hentries, List.prefix_iff_eq_take, ← List.map_take] at hfirst
  exact ⟨_, hfirst⟩

/-- A worker that is given up at the meeting has sent the entry of the table, and refuses. -/
theorem dropped_of_lone :
    make .builtin ⟨0, 1, 1⟩ .unpartitioned = .ok lone ∧
      ∃ exchanges dropped, Acts (lone.begin 7) exchanges dropped ∧ dropped.phase = .meeting ∧
        dropped.Waits ∧ output exchanges = [.entry Contents.singleEntry] ∧
        ∀ deeds last, dropped.abandon.Lives deeds last → Refuses 0 deeds last := by
  have hmake : make .builtin ⟨0, 1, 1⟩ .unpartitioned = .ok lone := make_unpartitioned Nat ⟨0, 1, 1⟩
  have hload : (Pass.load ⟨0, 1, 1⟩ .emptyText).result Contents.single.table = .ok () := by cbv
  have hentries : (Pass.load ⟨0, 1, 1⟩ .emptyText).entries Contents.single.table =
      [Contents.singleEntry] := by cbv
  have hleads := Pass.leads_events Contents.single.table (.load ⟨0, 1, 1⟩ .emptyText)
  rw [hload] at hleads
  rcases @exists_acts_arrived Nat lone _ rfl hleads 7 with ⟨tally, hacts⟩
  have hwaits := (waits_of_want (view_arriving (lone.arrived tally) 7 0)).2
  refine ⟨hmake, _, _, hacts, rfl, hwaits, ?_,
    (dropped_of_make hmake hacts (.inr rfl) hwaits).2.2.2⟩
  rw [output_ofEvents]
  exact congrArg (List.map Item.entry) hentries

end Worker

end KeyIndex
