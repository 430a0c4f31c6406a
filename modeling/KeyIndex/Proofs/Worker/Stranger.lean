import KeyIndex.Proofs.Pass.Concern
import KeyIndex.Proofs.Pass.Split
import KeyIndex.Proofs.Worker.Life
import KeyIndex.Proofs.Worker.Output

/-!
# Files of others

What is in the files of other workers does not show in the life of a worker: over two tables
that are the same for the worker it lives the same lives.  The world outside gives the
worker its elements and its replies, and it takes the results or gives the calls up; once
it is settled what the world outside does, but for the answers of the table, nothing else
is left open.

Main results:

- Theorem `Worker.Lives.over_of_sameFor`: a life over a table is one over every table that
  is the same for the worker.
- Definition `Worker.Deed.cue`: what the world outside has done.
- Theorem `Worker.Lives.unique`: with the same cues there is one life over a table.
- Theorem `Worker.same_lives_of_make`: both together, for every worker that can be made.
-/

namespace KeyIndex

namespace Worker

open Exchange

variable {α : Type}

/-! ## Lives over a table -/

/-- A question that a fresh worker asks in a life over a table concerns it. -/
theorem Lives.concerns {worker last : Worker α} {deeds : List (Deed α)} {table : Table}
    (h : worker.Lives deeds last) (hphase : worker.phase = .fresh) (hcall : worker.call = none)
    (hover : Deed.Over table deeds) {query : Query} {answer : Except Failure query.Answer}
    (hmem : ask query answer ∈ Deed.exchanges deeds) : table.Concerns worker.layout query := by
  have hstands := h.stands (stands_fresh hphase hcall)
  rw [List.nil_append] at hstands
  rcases hstands.exists_leads with ⟨events, rest, hleads, hasks, -⟩
  have hiff : ∀ query answer,
      ask query answer ∈ Deed.exchanges deeds ↔ .asked query answer ∈ events := by
    intro query answer
    have hsame : ask query answer ∈ asks (Deed.exchanges deeds) ↔
        (ask query answer : Exchange α) ∈ asks (ofEvents events) := by rw [hasks]
    rw [← mem_ofEvents_ask (α := α)]
    simpa [asks, isAsk, ask] using hsame
  have hanswered : Pass.Answered table events :=
    fun query answer hevent => hover query answer ((hiff query answer).mpr hevent)
  have hasked : query ∈ (Pass.load worker.layout worker.filter).asked table := by
    rw [Pass.asked, (hleads.events_eq hanswered).1, Pass.Event.queries_append]
    exact List.mem_append_left _ (List.mem_filterMap.mpr ⟨_, (hiff query answer).mp hmem, rfl⟩)
  exact Pass.concerns_of_mem_asked hasked

/-- A life of a fresh worker over a table is one over every table that is the same for the
worker. -/
theorem Lives.over_of_sameFor {worker last : Worker α} {deeds : List (Deed α)}
    {table other : Table} (h : worker.Lives deeds last) (hphase : worker.phase = .fresh)
    (hcall : worker.call = none) (hsame : table.SameFor other worker.layout)
    (hover : Deed.Over table deeds) : Deed.Over other deeds := by
  intro query answer hmem
  rw [hsame query (h.concerns hphase hcall hover hmem)]
  exact hover query answer hmem

/-! ## What the world outside does -/

/-- What the world outside does in the life of a worker, but for the answers of the table. -/
inductive Cue (α : Type) where
  /-- It gives the worker an element. -/
  | element (element : α)
  /-- The output takes an item, or it does not. -/
  | output (answer : Except Failure Unit)
  /-- The registry gives its answer, after some time. -/
  | registry (answer : Except Failure Nat) (elapsed : Nat)
  /-- A question has its answer, whatever it is, or a rest is over. -/
  | onward
  /-- The result of a call is taken, or the call is given up. -/
  | leave

/-- What the world outside has done in an exchange. -/
def Exchange.cue : Exchange α → Cue α
  | ⟨.ask _, _⟩ => .onward
  | ⟨.send _, answer⟩ => .output answer
  | ⟨.register _ _, (answer, elapsed)⟩ => .registry answer elapsed
  | ⟨.rest _ _ _, _⟩ => .onward

/-- What the world outside has done in a deed. -/
def Deed.cue : Deed α → Cue α
  | begun element => .element element
  | traded exchange => exchange.cue
  | left _ => .leave

/-- Two replies to one request that are the same for the world outside are the same, if they
are the same where they are answers of a table. -/
theorem reply_eq_of_cue {request : Request α} {reply other : request.Reply}
    (hcue : (Exchange.mk request reply).cue = (Exchange.mk request other).cue)
    (hask : ∀ query, request = .ask query → reply = other) : reply = other := by
  cases request with
  | ask query => exact hask query rfl
  | send item => exact Cue.output.inj hcue
  | register name worker =>
    rcases Cue.registry.inj hcue with ⟨hanswer, helapsed⟩
    exact Prod.ext hanswer helapsed
  | rest name seen length => rfl

/-- A worker without a call is given an element next. -/
theorem Lives.of_call_none {worker last : Worker α} {deeds : List (Deed α)}
    (h : worker.Lives deeds last) (hcall : worker.call = none) :
    deeds = [] ∧ last = worker ∨
      ∃ element rest, deeds = .begun element :: rest ∧ (worker.begin element).Lives rest last := by
  have hstill := view_of_call_none hcall
  cases h with
  | refl => exact .inl ⟨rfl, rfl⟩
  | begin element _ hrest => exact .inr ⟨element, _, rfl, hrest⟩
  | step hview _ => rw [hstill] at hview; cases hview
  | want hview => rw [hstill] at hview; cases hview
  | leave hsome => exact absurd hcall hsome

/-- A worker that has a step of its own to take takes it next. -/
theorem Lives.of_step {worker next last : Worker α} {deeds : List (Deed α)}
    (h : worker.Lives deeds last) (hview : worker.view = .step next) :
    deeds = [] ∧ last = worker ∨ next.Lives deeds last := by
  cases h with
  | refl => exact .inl ⟨rfl, rfl⟩
  | begin _ hcall => rw [view_of_call_none hcall] at hview; cases hview
  | step hstep hrest =>
    rw [hview] at hstep
    cases hstep
    exact .inr hrest
  | want hwant => rw [hview] at hwant; cases hwant
  | leave _ hwaits => exact absurd hview (hwaits next)

/-- A worker that waits in a call has a reply to its request next, or it is left. -/
theorem Lives.of_waits {worker last : Worker α} {deeds : List (Deed α)}
    (h : worker.Lives deeds last) (hcall : worker.call ≠ none) (hwaits : worker.Waits) :
    deeds = [] ∧ last = worker ∨
      (∃ rest, deeds = .left worker.result? :: rest ∧ worker.abandon.Lives rest last) ∨
      ∃ request resume reply rest, worker.view = .want request resume ∧
        deeds = .traded ⟨request, reply⟩ :: rest ∧ (resume reply).Lives rest last := by
  cases h with
  | refl => exact .inl ⟨rfl, rfl⟩
  | begin _ hnone => exact absurd hnone hcall
  | step hstep => exact absurd hstep (hwaits _)
  | want hwant reply hrest => exact .inr (.inr ⟨_, _, reply, _, hwant, rfl, hrest⟩)
  | leave _ _ hrest => exact .inr (.inl ⟨_, rfl, hrest⟩)

/-- The rest of a life over a table is over the table. -/
theorem Deed.Over.tail {table : Table} {deed : Deed α} {deeds : List (Deed α)}
    (h : Deed.Over table (deed :: deeds)) : Deed.Over table deeds := by
  intro query answer hmem
  refine h query answer ?_
  rw [Deed.exchanges, List.filterMap_cons]
  split
  · exact hmem
  · exact List.mem_cons_of_mem _ hmem

/-- With the same cues there is one life over a table; and if it leaves the worker waiting, it
leaves it in one state. -/
theorem Lives.unique {worker last : Worker α} {deeds : List (Deed α)} {table : Table}
    (h : worker.Lives deeds last) (hover : Deed.Over table deeds) {later : Worker α}
    {others : List (Deed α)} (hother : worker.Lives others later)
    (hothers : Deed.Over table others) (hcues : deeds.map Deed.cue = others.map Deed.cue) :
    deeds = others ∧ (last.Waits → later.Waits → last = later) := by
  induction h generalizing others with
  | refl worker =>
    rw [List.map_nil, eq_comm, List.map_eq_nil_iff] at hcues
    subst hcues
    refine ⟨rfl, fun hwaits _ => ?_⟩
    cases hother with
    | refl => rfl
    | step hview => exact absurd hview (hwaits _)
  | begin element hcall _ ih =>
    rcases hother.of_call_none hcall with ⟨rfl, -⟩ | ⟨other, rest, rfl, hrest⟩
    · cases hcues
    · rcases List.cons.inj hcues with ⟨hcue, htail⟩
      cases hcue
      rcases ih hover.tail hrest hothers.tail htail with ⟨rfl, hlast⟩
      exact ⟨rfl, hlast⟩
  | step hview _ ih =>
    rcases hother.of_step hview with ⟨rfl, rfl⟩ | hrest
    · exact ⟨List.map_eq_nil_iff.mp hcues, fun _ hwaits => absurd hview (hwaits _)⟩
    · exact ih hover hrest hothers hcues
  | @want worker last request resume deeds hview reply _ ih =>
    rcases waits_of_want hview with ⟨hcall, hwaits⟩
    rcases hother.of_waits hcall hwaits with ⟨rfl, -⟩ | ⟨rest, rfl, -⟩ |
      ⟨request', resume', other, rest, hview', rfl, hrest⟩
    · cases hcues
    · rcases List.cons.inj hcues with ⟨hcue, -⟩
      cases request <;> cases hcue
    · rw [hview] at hview'
      cases hview'
      rcases List.cons.inj hcues with ⟨hcue, htail⟩
      -- The table has one answer, and the other replies show in the cues.
      have hreply : reply = other := by
        refine reply_eq_of_cue hcue ?_
        rintro query rfl
        have hfirst := hover query reply (List.mem_cons_self)
        exact hfirst.symm.trans (hothers query other List.mem_cons_self)
      subst hreply
      rcases ih hover.tail hrest hothers.tail htail with ⟨rfl, hlast⟩
      exact ⟨rfl, hlast⟩
  | leave hcall hwaits _ ih =>
    rcases hother.of_waits hcall hwaits with ⟨rfl, -⟩ | ⟨rest, rfl, hrest⟩ |
      ⟨request, resume, other, rest, -, rfl, -⟩
    · cases hcues
    · rcases List.cons.inj hcues with ⟨-, htail⟩
      rcases ih hover.tail hrest hothers.tail htail with ⟨rfl, hlast⟩
      exact ⟨rfl, hlast⟩
    · rcases List.cons.inj hcues with ⟨hcue, -⟩
      cases request <;> cases hcue

/-- A worker that could be made, and two tables that are the same for it, so that they differ at
most in what is in files to which no slice of the worker refers: a life over one of them is
one over the other; and two lives, one over each of them, with the same cues are one life,
which leaves the worker in one state. -/
theorem same_lives_of_make {engine : Regex.Engine} {layout : Layout} {settings : Settings}
    {worker : Worker α} {table other : Table} (hmake : make engine layout settings = .ok worker)
    (hsame : table.SameFor other layout) :
    (∀ deeds last, worker.Lives deeds last → (Deed.Over table deeds ↔ Deed.Over other deeds)) ∧
      ∀ deeds last others later, worker.Lives deeds last → worker.Lives others later →
        Deed.Over table deeds → Deed.Over other others →
          deeds.map Deed.cue = others.map Deed.cue →
            deeds = others ∧ (last.Waits → later.Waits → last = later) := by
  rcases fresh_of_make hmake with ⟨hphase, hcall, rfl⟩
  -- A life over the other table is one over the first as well, where lives are unique.
  refine ⟨fun deeds last hlives => ⟨?_, ?_⟩, ?_⟩
  · exact hlives.over_of_sameFor hphase hcall hsame
  · exact hlives.over_of_sameFor hphase hcall hsame.symm
  · intro deeds last others later hlives hother hover hothers hcues
    have hback := hother.over_of_sameFor hphase hcall hsame.symm hothers
    exact hlives.unique hover hother hback hcues

end Worker

/-- What is in the base file of the second slice does not concern the worker of the first
one. -/
theorem Contents.sameFor_twoSlices (second other : Except Failure (List RecordKey)) :
    (twoSlices second).table.SameFor (twoSlices other).table ⟨1, 2, 2⟩ := by
  intro query hconcerns
  cases query with
  | baseKeys path =>
    rcases hconcerns rfl with ⟨slice, ⟨partition, asOf, slices, hslices, hmem⟩, howns, hrefers⟩
    by_cases hpartition : partition = ""
    · subst hpartition
      cases hslices
      rcases List.mem_cons.mp hmem with rfl | hmem
      · rcases hrefers with ⟨file, hfile, rfl⟩
        cases hfile
        rfl
      · cases List.mem_singleton.mp hmem
        have hnot : Layout.owns ⟨1, 2, 2⟩ ⟨"fg-2"⟩ = false := by decide
        exact absurd howns (ne_of_eq_of_ne hnot Bool.false_ne_true)
    · have hnone : (twoSlices second).table.answer (.slices partition asOf) =
          .ok ([] : List FileSlice) := by
        have hne : (partition == "") = false := beq_false_of_ne hpartition
        simp only [table, twoSlices, List.lookup_cons, hne]
        rfl
      rw [hnone] at hslices
      cases hslices
      cases hmem
  | _ => rfl

namespace Worker

open Exchange

/-- The worker of the first slice comes to the meeting over a table where the second one can be
read, and what it has done is a life over a table where it cannot. -/
theorem same_lives_of_first :
    ∃ worker : Worker Nat, make .builtin ⟨1, 2, 2⟩ .unpartitioned = .ok worker ∧
      (Contents.twoSlices (.ok [])).table.SameFor
        (Contents.twoSlices (.error (.decode "torn"))).table ⟨1, 2, 2⟩ ∧
      ∃ deeds last, worker.Lives deeds last ∧ last.phase = .meeting ∧
        output (Deed.exchanges deeds) = [.entry Contents.singleEntry] ∧
        Deed.Over (Contents.twoSlices (.ok [])).table deeds ∧
        Deed.Over (Contents.twoSlices (.error (.decode "torn"))).table deeds := by
  have hmake := make_unpartitioned Nat ⟨1, 2, 2⟩
  have hsame := Contents.sameFor_twoSlices (.ok []) (.error (.decode "torn"))
  have hlayout : Layout.make 1 2 2 = .ok ⟨1, 2, 2⟩ := rfl
  have hpeer := (Layout.mem_peers_iff_make hlayout).mpr ⟨1, hlayout⟩
  have hsingle : (Pass.load ⟨0, 1, 1⟩ .emptyText).result
      (Contents.twoSlices (.ok [])).table = .ok () := by cbv
  have hone : Layout.make 0 1 1 = .ok ⟨0, 1, 1⟩ := rfl
  have hresult := (Pass.load_ok_iff_peers hlayout hone).mp hsingle ⟨1, 2, 2⟩ hpeer
  have hshare : (Contents.twoSlices (.ok [])).table.share .emptyText (Layout.owns ⟨1, 2, 2⟩) =
      [Contents.singleEntry] := by cbv
  obtain ⟨deeds, last, hlives, hover, hphase, -, houtput⟩ :=
    @exists_lives_of_load Nat
      ⟨⟨1, 2, 2⟩, terms ⟨1, 2, 2⟩ .unpartitioned, .emptyText, .fresh, {}, none⟩ _ rfl rfl hresult 7
  rw [(Pass.load_of_ok hresult).1, hshare] at houtput
  exact ⟨_, hmake, hsame, deeds, last, hlives, hphase, houtput, hover,
    ((same_lives_of_make hmake hsame).1 deeds last hlives).mp hover⟩

end Worker

end KeyIndex
