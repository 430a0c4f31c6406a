import KeyIndex.Proofs.Crew.Alone
import KeyIndex.Proofs.Crew.Member
import KeyIndex.Proofs.Pass.Split
import KeyIndex.Proofs.Worker.Output

/-!
# No element before all have loaded

The slots of the name hold only members that have loaded, whatever is cleared and made
again, and each member once.  So a count of as many workers as the crew has can only be
seen when all have loaded, and no member passes an element on before.

Main results:

- Definition `Crew.IsOwn`: the slots of the name.
- Definition `Crew.Inv`: what holds of a crew at any time.
- Theorems `Crew.Inv.use_find`, `Crew.Inv.use_enter`, `Crew.Inv.use_publish`,
  `Crew.Inv.use_clear`, `Crew.Inv.use_register`: what is done with the registry keeps it.
- Theorem `Crew.Inv.set`: so does what a member does, if it stands as before.
- Theorems `Crew.Inv.step`, `Crew.Inv.runs`: so does every step, and every run.
- Theorem `Crew.delivered_after_loaded`: elements are delivered only after all members
  have loaded.
-/

namespace KeyIndex

open Rendezvous Worker Exchange

namespace Crew

variable {α : Type} {name : String} {workers : UInt32} {crew next : Crew α}

/-! ## What holds of a crew -/

/-- A slot of the name: no other name leads to it, and it holds only members of the crew
that have loaded, each of them once.  The name may lead to it, or may have led to it before
it was cleared. -/
structure IsOwn (name : String) (workers : UInt32) (crew : Crew α) (slot : SlotId) : Prop where
  made : slot < crew.registry.slots.length
  leads : ∀ entry ∈ crew.registry.names, entry.2 = slot → entry.1 = name
  nodup : (crew.registry.slot slot).workers.Nodup
  loaded : ∀ worker ∈ (crew.registry.slot slot).workers,
    worker < workers ∧ (crew.members worker).HasLoaded

/-- What holds of a crew at any time. -/
structure Inv (name : String) (workers : UInt32) (crew : Crew α) : Prop where
  sound : crew.registry.Sound
  own : ∀ entry ∈ crew.registry.names, entry.1 = name → crew.IsOwn name workers entry.2
  stands : ∀ index < workers, (crew.members index).Stands name workers index
    (crew.IsOwn name workers) (crew.AllLoaded workers)

/-- Where as many workers are in a slot of the name as the crew has, all have loaded. -/
theorem IsOwn.allLoaded {slot : SlotId} (h : crew.IsOwn name workers slot)
    (hcount : workers.toNat ≤ (crew.registry.slot slot).workers.length) :
    crew.AllLoaded workers := by
  intro index hindex
  have hmem : index ∈ (crew.registry.slot slot).workers :=
    mem_of_length_le h.nodup (fun worker hworker => (h.loaded worker hworker).1) hcount hindex
  exact (h.loaded index hmem).2

/-! ## The registry -/

/-- With another state of the registry the invariant is kept, if the slots of the name
stay slots of the name, and the name leads to such slots. -/
theorem Inv.use (h : crew.Inv name workers) {registry : Registry} (hsound : registry.Sound)
    (hkeeps : ∀ slot, crew.IsOwn name workers slot →
      (crew.use registry).IsOwn name workers slot)
    (hleads : ∀ entry ∈ registry.names, entry.1 = name →
      (crew.use registry).IsOwn name workers entry.2) :
    (crew.use registry).Inv name workers where
  sound := hsound
  own := hleads
  stands index hindex := (h.stands index hindex).mono hkeeps id

/-- To look a name up keeps the slots of the name. -/
theorem IsOwn.use_find {slot : SlotId} (h : crew.IsOwn name workers slot) (called : String) :
    (crew.use (crew.registry.find called).1).IsOwn name workers slot where
  made := h.made.trans_le (Registry.length_le_find _ _)
  leads := by
    intro entry hentry hslot
    rcases Registry.mem_names_find.mp hentry with hentry | rfl
    · exact h.leads entry hentry hslot
    · rcases Registry.find_old_or_new crew.registry called with hold | hnew
      · exact h.leads _ hold hslot
      · exact absurd (hnew.symm.trans hslot) h.made.ne'
  nodup := by
    rw [registry_use, Registry.slot_find]
    exact h.nodup
  loaded := by
    rw [registry_use, Registry.slot_find]
    exact h.loaded

theorem Inv.use_find (h : crew.Inv name workers) (called : String) :
    (crew.use (crew.registry.find called).1).Inv name workers := by
  have hsound := h.sound.find called
  refine h.use hsound (fun slot hown => hown.use_find called) ?_
  intro entry hentry hname
  rcases Registry.mem_names_find.mp hentry with hold | rfl
  · exact (h.own entry hold hname).use_find called
  · rcases Registry.find_old_or_new crew.registry called with hold | hnew
    · exact (h.own _ hold hname).use_find called
    · -- The slot is new, so nobody is in it, and only the name leads to it.
      have hempty : (crew.registry.slot (crew.registry.find called).2).workers = [] := by
        rw [hnew, Registry.slot_of_length_le le_rfl]
      refine ⟨hsound.made _ hentry, ?_, ?_, ?_⟩
      · intro other hother hsame
        exact ((hsound.apart other hother _ hentry).mpr hsame).trans hname
      · rw [registry_use, Registry.slot_find, hempty]
        exact List.nodup_nil
      · rw [registry_use, Registry.slot_find, hempty]
        simp

/-- To enter a worker in a slot keeps the slots of the name, if it is not one of them, or
the worker is a member that has loaded. -/
theorem IsOwn.use_enter {slot entered : SlotId} {worker : UInt32}
    (h : crew.IsOwn name workers slot) (hmade : entered < crew.registry.slots.length)
    (hloaded : crew.IsOwn name workers entered →
      worker < workers ∧ (crew.members worker).HasLoaded) :
    (crew.use (crew.registry.enter entered worker).1).IsOwn name workers slot := by
  have hslot : ((crew.use (crew.registry.enter entered worker).1).registry.slot slot).workers =
      if slot = entered then (crew.registry.slot entered).workers.insert worker
      else (crew.registry.slot slot).workers := by
    rw [registry_use, Registry.slot_enter hmade]
    split <;> rfl
  refine ⟨?_, h.leads, ?_, ?_⟩
  · exact h.made.trans_eq (Registry.length_update _ _ _).symm
  · rw [hslot]
    split
    · rename_i hsame
      exact (hsame ▸ h.nodup).insert
    · exact h.nodup
  · rw [hslot]
    split
    · rename_i hsame
      subst hsame
      intro other hother
      rcases List.mem_insert_iff.mp hother with rfl | hother
      · exact hloaded h
      · exact h.loaded other hother
    · exact h.loaded

theorem Inv.use_enter (h : crew.Inv name workers) {entered : SlotId} (worker : UInt32)
    (hmade : entered < crew.registry.slots.length)
    (hloaded : crew.IsOwn name workers entered →
      worker < workers ∧ (crew.members worker).HasLoaded) :
    (crew.use (crew.registry.enter entered worker).1).Inv name workers :=
  h.use (h.sound.update _ _) (fun _ hown => hown.use_enter hmade hloaded)
    fun entry hentry hname => (h.own entry hentry hname).use_enter hmade hloaded

/-- To publish a count keeps the slots of the name. -/
theorem IsOwn.use_publish {slot : SlotId} (h : crew.IsOwn name workers slot) (id : SlotId)
    (count : Nat) : (crew.use (crew.registry.publish id count)).IsOwn name workers slot where
  made := h.made.trans_eq (Registry.length_update _ _ _).symm
  leads := h.leads
  nodup := by
    rw [registry_use, Registry.workers_publish]
    exact h.nodup
  loaded := by
    rw [registry_use, Registry.workers_publish]
    exact h.loaded

theorem Inv.use_publish (h : crew.Inv name workers) (id : SlotId) (count : Nat) :
    (crew.use (crew.registry.publish id count)).Inv name workers :=
  h.use (h.sound.update _ _) (fun _ hown => hown.use_publish id count)
    fun entry hentry hname => (h.own entry hentry hname).use_publish id count

/-- To clear a name keeps the slots of the name. -/
theorem IsOwn.use_clear {slot : SlotId} (h : crew.IsOwn name workers slot) (called : String) :
    (crew.use (crew.registry.clear called)).IsOwn name workers slot where
  made := h.made
  leads entry hentry := h.leads entry (Registry.mem_names_of_clear hentry)
  nodup := h.nodup
  loaded := h.loaded

theorem Inv.use_clear (h : crew.Inv name workers) (called : String) :
    (crew.use (crew.registry.clear called)).Inv name workers :=
  h.use (h.sound.clear called) (fun _ hown => hown.use_clear called)
    fun entry hentry hname =>
      (h.own entry (Registry.mem_names_of_clear hentry) hname).use_clear called

/-- To register under another name keeps what holds of the crew: the slot of the other name
is no slot of this one. -/
theorem Inv.use_register (h : crew.Inv name workers) {called : String} (worker : UInt32)
    (hother : called ≠ name) :
    (crew.use (crew.registry.register called worker).1).Inv name workers := by
  have hfound := h.use_find called
  have hmem : (called, (crew.registry.find called).2) ∈ (crew.registry.find called).1.names :=
    Registry.mem_names_find.mpr (.inr rfl)
  have hentered := hfound.use_enter worker (hfound.sound.made _ hmem)
    fun hown => absurd (hown.leads _ hmem rfl) hother
  exact hentered.use_publish _ _

/-! ## The members -/

/-- When one member goes on, no member loses anything. -/
theorem extends_set {index : UInt32} {member : Member α}
    (h : (crew.members index).Extends member) (other : UInt32) :
    (crew.members other).Extends ((crew.set index member).members other) := by
  by_cases hsame : other = index
  · subst hsame
    rw [members_set_self]
    exact h
  · rw [members_set_of_ne hsame]
    exact .refl _

/-- Who has loaded has still loaded after one member has gone on. -/
theorem hasLoaded_set {index other : UInt32} {member : Member α}
    (hextends : (crew.members index).Extends member) (h : (crew.members other).HasLoaded) :
    ((crew.set index member).members other).HasLoaded :=
  h.extend (extends_set hextends other)

/-- When one member goes on, the slots of the name stay slots of the name. -/
theorem IsOwn.set {index : UInt32} {member : Member α} {slot : SlotId}
    (h : crew.IsOwn name workers slot) (hextends : (crew.members index).Extends member) :
    (crew.set index member).IsOwn name workers slot where
  made := h.made
  leads := h.leads
  nodup := h.nodup
  loaded worker hworker :=
    ⟨(h.loaded worker hworker).1, hasLoaded_set hextends (h.loaded worker hworker).2⟩

/-- When one member goes on to a state in which it stands as before, the invariant is
kept. -/
theorem Inv.set (h : crew.Inv name workers) {index : UInt32} {member : Member α}
    (hextends : (crew.members index).Extends member)
    (hstands : member.Stands name workers index (crew.IsOwn name workers)
      (crew.AllLoaded workers)) : (crew.set index member).Inv name workers where
  sound := h.sound
  own entry hentry hname := (h.own entry hentry hname).set hextends
  stands other hother := by
    have hown : ∀ slot, crew.IsOwn name workers slot →
        (crew.set index member).IsOwn name workers slot :=
      fun slot hslot => hslot.set hextends
    have hall : crew.AllLoaded workers → (crew.set index member).AllLoaded workers :=
      fun hall worker hworker => hasLoaded_set hextends (hall worker hworker)
    by_cases hsame : other = index
    · subst hsame
      rw [members_set_self]
      exact hstands.mono hown hall
    · rw [members_set_of_ne hsame]
      exact (h.stands other hother).mono hown hall

/-! ## Every step -/

/-- A crew before its first step satisfies the invariant: the slot of the name is empty, and
no member has done anything. -/
theorem Starts.inv {groups : UInt32} (h : crew.Starts name workers groups) :
    crew.Inv name workers where
  sound := h.registry.sound
  own := by
    rintro ⟨called, slot⟩ hentry rfl
    have hsound := h.registry.sound
    have hempty : (crew.registry.slot slot).workers = [] := by
      rw [← hsound.workers_eq hentry]
      exact h.unregistered
    refine ⟨hsound.made _ hentry, ?_, ?_, ?_⟩
    · exact fun other hother hsame => (hsound.apart other hother _ hentry).mpr hsame
    · rw [hempty]
      exact List.nodup_nil
    · rw [hempty]
      simp
  stands index hindex := by
    rcases h.made index hindex with ⟨engine, settings, hname, hmake⟩
    rcases h.unused index hindex with ⟨hhistory, herrand⟩
    rcases eq_of_make hmake with ⟨-, -, hworker⟩
    have hcall : (crew.members index).worker.call = none := by rw [hworker]
    have hphase : (crew.members index).worker.phase = .fresh := by rw [hworker]
    refine ⟨?_, fun _ => ⟨hhistory, hcall⟩, ?_, ?_, ?_, ?_⟩
    · rw [hworker]
      exact ⟨hname, rfl, rfl⟩
    · rw [hphase]
      intro hcomplete
      cases hcomplete
    · simp [Member.delivered, hhistory]
    · rw [hcall]
      trivial
    · rw [herrand]
      trivial

/-- Every step keeps the invariant. -/
theorem Inv.step (h : crew.Inv name workers) (hstep : Step name workers crew next) :
    next.Inv name workers := by
  cases hstep with
  | @call index element hindex hcall =>
    exact h.set (Member.extends_begin _ element) ((h.stands index hindex).begin hcall element)
  | @leave index hindex =>
    exact h.set (Member.extends_leave _) (h.stands index hindex).leave
  | @move index _ hindex hview =>
    have hmoves := moves_of_view hview
    exact h.set (Member.extends_move hmoves) ((h.stands index hindex).move hmoves)
  | @reply index _ _ reply hindex hview huncounted =>
    have htrades := trades_of_view hview reply
    refine h.set (Member.extends_trade htrades) ((h.stands index hindex).trade htrades ?_)
    intro called worker count elapsed hcounted
    exact absurd hcounted (huncounted called worker count elapsed)
  | @find index called _ _ hindex hview _ =>
    have hfound := h.use_find called
    rcases (h.stands index hindex).of_register hview with ⟨harriving, rfl, -⟩
    have hown := hfound.own _ (Registry.mem_names_find.mpr (.inr rfl)) rfl
    exact hfound.set (Member.extends_go _ _) ((hfound.stands index hindex).find harriving hown)
  | @enter _ _ worker _ slot hindex hview herrand =>
    have hstands := h.stands _ hindex
    rcases hstands.of_register hview with ⟨harriving, -, rfl⟩
    have hslot := hstands.errand
    rw [herrand] at hslot
    have hmember := hstands.hasLoaded harriving
    have hentered := h.use_enter worker hslot.2.made fun _ => ⟨hindex, hmember⟩
    have hown := hslot.2.use_enter hslot.2.made fun _ => ⟨hindex, hmember⟩
    exact hentered.set (Member.extends_go _ _)
      ((hentered.stands worker hindex).enter harriving hown.allLoaded)
  | @publish index called worker resume slot count elapsed hindex hview herrand =>
    have hpublished := h.use_publish slot count
    have htrades := trades_of_view hview (.ok count, elapsed)
    have hcount := (hpublished.stands index hindex).errand
    rw [members_use, herrand] at hcount
    refine hpublished.set (Member.extends_trade htrades)
      ((hpublished.stands index hindex).trade htrades ?_)
    intro _ _ _ _ hsame
    cases hsame
    exact hcount.2
  | look called => exact h.use_find called
  | other called worker hother => exact h.use_register worker hother
  | clear called => exact h.use_clear called

/-- Every run keeps the invariant. -/
theorem Inv.runs (h : crew.Inv name workers) (hruns : Runs name workers crew next) :
    next.Inv name workers := by
  induction hruns with
  | refl => exact h
  | tail _ hstep ih => exact ih.step hstep

/-! ## Members go on -/

/-- In a step every member stays on its terms, and forgets nothing. -/
theorem Step.extends (hstep : Step name workers crew next) (index : UInt32) :
    (crew.members index).Extends (next.members index) := by
  cases hstep with
  | call element _ _ => exact extends_set (Member.extends_begin _ element) index
  | leave _ => exact extends_set (Member.extends_leave _) index
  | move _ hview => exact extends_set (Member.extends_move (moves_of_view hview)) index
  | reply reply _ hview _ =>
    exact extends_set (Member.extends_trade (trades_of_view hview reply)) index
  | @find _ called =>
    exact @extends_set _ (crew.use (crew.registry.find called).1) _ _
      (Member.extends_go _ _) index
  | @enter _ _ worker _ slot =>
    exact @extends_set _ (crew.use (crew.registry.enter slot worker).1) _ _
      (Member.extends_go _ _) index
  | @publish _ _ _ _ slot count elapsed _ hview _ =>
    exact @extends_set _ (crew.use (crew.registry.publish slot count)) _ _
      (Member.extends_trade (trades_of_view hview (.ok count, elapsed))) index
  | look called => exact .refl _
  | other called worker _ => exact .refl _
  | clear called => exact .refl _

theorem Runs.extends (hruns : Runs name workers crew next) (index : UInt32) :
    (crew.members index).Extends (next.members index) := by
  induction hruns with
  | refl => exact .refl _
  | tail _ hstep ih => exact ih.trans (hstep.extends index)

/-! ## Deliveries -/

/-- Where one member goes on and delivers nothing, nobody does. -/
theorem delivered_set {index : UInt32} {member : Member α}
    (h : member.delivered = (crew.members index).delivered) (other : UInt32) :
    ((crew.set index member).members other).delivered = (crew.members other).delivered := by
  by_cases hsame : other = index
  · subst hsame
    rw [members_set_self, h]
  · rw [members_set_of_ne hsame]

/-- A step in which something is delivered is taken when all members have loaded. -/
theorem Inv.of_delivered (h : crew.Inv name workers) (hstep : Step name workers crew next)
    {index : UInt32} (hnew : (next.members index).delivered ≠ (crew.members index).delivered) :
    crew.AllLoaded workers := by
  have hreply : ∀ {other : UInt32} {exchange : Exchange α} {after : Worker α},
      other < workers → Trades (crew.members other).worker exchange after →
        ((crew.members other).trade exchange after).delivered ≠ (crew.members other).delivered →
          crew.AllLoaded workers :=
    fun hother htrades hmore => (h.stands _ hother).of_delivered htrades hmore
  cases hstep with
  | call element _ _ => exact (hnew (delivered_set (by rfl) index)).elim
  | leave _ => exact (hnew (delivered_set (by rfl) index)).elim
  | move _ _ => exact (hnew (delivered_set (by rfl) index)).elim
  | reply reply hother hview _ =>
    refine hreply hother (trades_of_view hview reply) fun hsame => ?_
    exact hnew (delivered_set hsame index)
  | @find _ called =>
    exact (hnew (@delivered_set _ (crew.use (crew.registry.find called).1) _ _ (by rfl) index)).elim
  | @enter _ _ worker _ slot =>
    exact (hnew
      (@delivered_set _ (crew.use (crew.registry.enter slot worker).1) _ _ (by rfl) index)).elim
  | @publish _ _ _ _ slot count elapsed hother hview _ =>
    refine hreply hother (trades_of_view hview (.ok count, elapsed)) fun hsame => ?_
    exact hnew (@delivered_set _ (crew.use (crew.registry.publish slot count)) _ _ hsame index)
  | look called => exact absurd rfl hnew
  | other called worker _ => exact absurd rfl hnew
  | clear called => exact absurd rfl hnew

/-- Whatever a crew has done since it started: a step in which a member delivers an element
is taken when every worker of the job has come to the end of its load, so that its output
has taken its share of the index; and where the load of one of them has failed, none of them
has delivered any element. -/
theorem delivered_after_loaded {start : Crew α} {groups : UInt32}
    (hstart : start.Starts name workers groups) (hruns : Runs name workers start crew) :
    (∀ next index, Step name workers crew next →
        (next.members index).delivered ≠ (crew.members index).delivered →
          ∀ other < workers,
            (crew.members other).worker.layout = ⟨other, workers, groups⟩ ∧
              (crew.members other).HasLoaded ∧ (crew.members other).HasSentShare) ∧
      ((∃ failed < workers, (crew.members failed).HasFailed) →
        ∀ index < workers, (crew.members index).delivered = []) := by
  have hinv := hstart.inv.runs hruns
  constructor
  · intro next index hstep hnew other hother
    have hloaded := hinv.of_delivered hstep hnew other hother
    rcases hstart.made other hother with ⟨engine, settings, -, hmake⟩
    have hplace : (crew.members other).worker.layout = ⟨other, workers, groups⟩ := by
      rw [(Runs.extends hruns other).terms.layout, (eq_of_make hmake).2.2]
    exact ⟨hplace, hloaded, hloaded.hasSentShare⟩
  · rintro ⟨failed, hfailed, hfailure⟩ index hindex
    by_contra hsome
    have hall := (hinv.stands index hindex).delivered hsome
    exact (hall failed hfailed).not_failed hfailure

/-! ## A crew of two -/

/-- Two workers of a job before their first calls. -/
def pair : Crew Nat where
  registry := {}
  members index := {
    worker := {
      layout := ⟨index, 2, 2⟩
      filter := .emptyText
      meeting := terms ⟨index, 2, 2⟩ .unpartitioned } }

theorem starts_pair : pair.Starts defaultRendezvous 2 2 where
  made index _ := ⟨.builtin, .unpartitioned, rfl, make_unpartitioned Nat ⟨index, 2, 2⟩⟩
  unused _ _ := ⟨rfl, rfl⟩
  registry := .empty
  unregistered := rfl

/-- Their table, in which each of them owns a slice with one key. -/
def pairTable : Table := (Contents.twoSlices (.ok [⟨"y", ""⟩])).table

/-- The entry of the first worker; that of the second one is the entry of the other slice. -/
def pairEntry : IndexEntry := ⟨⟨"y", ""⟩, ⟨"", ⟨"20240101"⟩, ⟨"fg-2"⟩⟩⟩

/-- Either of them loads over their table, and sends its share. -/
theorem load_pairTable {index : UInt32} {share : List IndexEntry}
    (hmake : Layout.make index 2 2 = .ok ⟨index, 2, 2⟩)
    (hshare : pairTable.share .emptyText (Layout.owns ⟨index, 2, 2⟩) = share) :
    (Pass.load ⟨index, 2, 2⟩ .emptyText).result pairTable = .ok () ∧
      (Pass.load ⟨index, 2, 2⟩ .emptyText).entries pairTable = share := by
  have hsingle : Layout.make 0 1 1 = .ok ⟨0, 1, 1⟩ := rfl
  have hload : (Pass.load ⟨0, 1, 1⟩ .emptyText).result pairTable = .ok () := by cbv
  have hpeer := (Layout.mem_peers_iff_make hmake).mpr ⟨index, hmake⟩
  have hresult := (Pass.load_ok_iff_peers hmake hsingle).mp hload ⟨index, 2, 2⟩ hpeer
  exact ⟨hresult, (Pass.load_of_ok hresult).1.trans hshare⟩

/-- What the output of a member that is enrolled has taken are the entries of its pass. -/
theorem output_enrolled (member : Member α) (table : Table) (element : α) (tally : Tally)
    (count : Nat) : output (member.enrolled table element tally count).history =
      (member.pass.entries table).map .entry := by
  rw [Member.enrolled, output_append, output_ofEvents]
  exact List.append_nil _

/-- The crew when the first worker has registered and waits for the second one. -/
def pairWaiting (tally : Tally) : Crew Nat :=
  (pair.use (({} : Registry).register defaultRendezvous 0).1).set 0
    ((pair.members 0).enrolled pairTable 7 tally 1)

/-- Both load over their table, the first one registers and waits, and when the second one has
registered it is about to pass its element on. -/
theorem runs_pair : ∃ crew, Runs defaultRendezvous 2 pair crew ∧
    (crew.members 1).worker.call = some (.passing 8) ∧
      output (crew.members 0).history = [.entry pairEntry] ∧
      output (crew.members 1).history = [.entry Contents.singleEntry] := by
  have hfirst := @load_pairTable 0 [pairEntry] rfl (by cbv)
  have hsecond := @load_pairTable 1 [Contents.singleEntry] rfl (by cbv)
  have hwaiting : ∃ tally, Runs defaultRendezvous 2 pair (pairWaiting tally) :=
    @exists_runs_enrolled Nat defaultRendezvous 2 0 pair pairTable _ 1 (by decide) rfl rfl rfl rfl
      hfirst.1 rfl 7
  rcases hwaiting with ⟨tally, hruns⟩
  rcases @exists_runs_enrolled Nat defaultRendezvous 2 1 (pairWaiting tally) pairTable _ 2
    (by decide) rfl rfl rfl rfl hsecond.1 rfl 8 with ⟨later, hmore⟩
  refine ⟨_, (hruns.trans hmore).tail (@Step.move _ _ _ _ 1 _ (by decide) rfl), rfl, ?_, ?_⟩
  · exact (output_enrolled (pair.members 0) pairTable 7 tally 1).trans (congrArg _ hfirst.2)
  · exact (output_enrolled (pair.members 1) pairTable 8 later 2).trans (congrArg _ hsecond.2)

/-- The second worker delivers its element after both have loaded, and have sent what they
own. -/
theorem delivered_pair : ∃ crew next, pair.Starts defaultRendezvous 2 2 ∧
    Runs defaultRendezvous 2 pair crew ∧ Step defaultRendezvous 2 crew next ∧
      (crew.members 1).delivered = [] ∧ (next.members 1).delivered = [8] ∧
      ((crew.members 0).HasLoaded ∧ (crew.members 0).HasSentShare ∧
        output (crew.members 0).history = [.entry pairEntry]) ∧
      (crew.members 1).HasLoaded ∧ (crew.members 1).HasSentShare ∧
        output (crew.members 1).history = [.entry Contents.singleEntry] := by
  rcases runs_pair with ⟨crew, hruns, hcall, hfirst, hsecond⟩
  have hview : (crew.members 1).worker.view =
      .want (.send (.element 8)) fun answer => (crew.members 1).worker.ended answer := by
    rw [view, hcall]
    rfl
  have hstep : Step defaultRendezvous 2 crew _ :=
    @Step.reply _ _ _ crew 1 (.send (.element 8)) _ (.ok ()) (by decide) hview
      (ne_register_of_isVisit rfl)
  have hnothing : (crew.members 1).delivered = [] := by
    rw [Member.delivered, hsecond]
    rfl
  have hdelivered : ((crew.set 1 ((crew.members 1).trade ⟨.send (.element 8), .ok ()⟩
      ((crew.members 1).worker.ended (.ok ())))).members 1).delivered = [8] := by
    rw [members_set_self, Member.delivered_trade, hnothing]
    rfl
  have hloaded := (delivered_after_loaded starts_pair hruns).1 _ 1 hstep
    (by rw [hdelivered, hnothing]; simp)
  exact ⟨crew, _, starts_pair, hruns, hstep, hnothing, hdelivered,
    ⟨(hloaded 0 (by decide)).2.1, (hloaded 0 (by decide)).2.2, hfirst⟩,
    (hloaded 1 (by decide)).2.1, (hloaded 1 (by decide)).2.2, hsecond⟩

end Crew

end KeyIndex
