import KeyIndex.Proofs.Rendezvous.Registry
import KeyIndex.Rendezvous.Guest
import Mathlib.Logic.Relation

/-!
# Who is there when a guest is through

A guest of a meeting is through when a registration counts as many workers as it expects.  The
registry may be used by anybody in the meantime, and before: workers are registered under any
name, names are cleared, and time goes by.  At the registration that lets the guest through it
is registered itself, and at least as many workers as it expects are, each of them once.  These
are its peers if nobody is registered under the name with a number that no peer has; a worker of
a larger job that is left there counts like a peer.

Main results:

- Theorems `Registry.Made.nodup_workers`, `Registry.Made.register`: who is registered in a
  registry that was made by its operations.
- Definition `Attendance.Step`: what may happen at a venue where a guest waits.
- Definition `Attendance.Opens`: the registration that lets a guest through.
- Theorem `Attendance.Runs.exists_opens`: a guest is through by such a registration only.
- Theorem `Attendance.peers_of_opens`: who is registered then, if nobody else is.
- Theorem `Attendance.opens_without_peer`: a meeting that opens without one of its peers.
-/

namespace KeyIndex.Rendezvous

/-! ## Registrations -/

namespace Registry

variable {registry : Registry} {name : String}

/-- Nobody is in a slot twice. -/
theorem Made.nodup_workers (h : registry.Made) (id : SlotId) :
    (registry.slot id).workers.Nodup := by
  induction h with
  | empty => exact List.nodup_nil
  | find called _ ih =>
    rw [slot_find]
    exact ih
  | @enter before entered worker _ ih =>
    by_cases hmade : entered < before.slots.length
    · rw [slot_enter hmade]
      by_cases hsame : id = entered
      · subst hsame
        rw [if_pos rfl]
        exact ih.insert
      · rw [if_neg hsame]
        exact ih
    · have hunchanged : (before.enter entered worker).1 = before := by
        rw [Registry.enter, update, List.modify_eq_self (Nat.not_lt.mp hmade)]
      rw [hunchanged]
      exact ih
  | publish entered count _ ih =>
    rw [workers_publish]
    exact ih
  | clear called _ ih => exact ih

/-- Who is registered under a name is registered once. -/
theorem Made.nodup (h : registry.Made) (name : String) : (registry.workers name).Nodup := by
  rw [workers]
  split
  · exact h.nodup_workers _
  · exact List.nodup_nil

/-- Registering leaves a registry that was made by its operations. -/
theorem Made.made_register (h : registry.Made) (name : String) (worker : UInt32) :
    (registry.register name worker).1.Made :=
  .publish _ _ (.enter _ _ (.find _ h))

/-- After a registration the worker is registered under the name, and the answer is the number
of workers that are. -/
theorem Made.register (h : registry.Made) (name : String) (worker : UInt32) :
    worker ∈ (registry.register name worker).1.workers name ∧
      (registry.register name worker).2 = (registry.register name worker).1.registered name := by
  let found := registry.find name
  let entered := found.1.enter found.2 worker
  have hsound := (h.made_register name worker).sound
  have hleads : (name, found.2) ∈ found.1.names := mem_names_find.mpr (.inr rfl)
  have hmade : found.2 < found.1.slots.length := (h.sound.find name).made _ hleads
  have hworkers : (registry.register name worker).1.workers name =
      (entered.1.slot found.2).workers := by
    rw [hsound.workers_eq hleads]
    exact workers_publish _ _ _ _
  rw [registered, hworkers]
  constructor
  · rw [slot_enter hmade, if_pos rfl]
    exact (Slot.mem_enter _ _ _).mpr (.inl rfl)
  · rfl

end Registry

/-! ## A guest among others -/

/-- A venue, and a guest that waits there. -/
structure Attendance where
  venue : Venue
  guest : Guest

namespace Attendance

variable {meeting : Meeting} {state next before after : Attendance}

/-- The workers that are registered under the name of a meeting. -/
def present (state : Attendance) (meeting : Meeting) : List UInt32 :=
  state.venue.host.registry.workers meeting.name

/-- What may happen at a venue where a guest waits: the guest acts, anybody registers any worker,
clears a name or looks one up, or time goes by. -/
inductive Step : Attendance → Attendance → Prop where
  | act {state : Attendance} {venue : Venue} {guest : Guest} :
      Guest.act? state.venue state.guest = some (venue, guest) → Step state ⟨venue, guest⟩
  | register {state : Attendance} (called : String) (worker : UInt32) :
      Step state ⟨(state.venue.enter called worker).1, state.guest⟩
  | clear {state : Attendance} (called : String) :
      Step state ⟨state.venue.clear called, state.guest⟩
  | look {state : Attendance} (called : String) :
      Step state ⟨{ state.venue with host := (state.venue.host.watch? called).1 }, state.guest⟩
  | elapse {state : Attendance} (time : Nat) :
      Step state ⟨{ state.venue with now := state.venue.now + time }, state.guest⟩

/-- Some steps, in any order. -/
def Runs : Attendance → Attendance → Prop := Relation.ReflTransGen Step

/-- A guest that comes to a meeting, and a registry that nobody has used. -/
def start (meeting : Meeting) (now : Nat) : Attendance :=
  ⟨{ host := .shared {}, now }, .ofMeeting meeting⟩

/-- The guest registers, and this lets it through. -/
structure Opens (meeting : Meeting) (before after : Attendance) : Prop where
  arriving : ∃ seen, before.guest.aim = .meeting meeting (.arriving seen)
  act : Guest.act? before.venue before.guest = some (after.venue, after.guest)
  through : after.guest.aim = .meeting meeting (.over (.ok ()))

/-! ## What a guest does -/

/-- What a rest changes: at most a name is looked up, and the rest goes on or is over. -/
theorem rest?_cases {σ : Type} {venue later : Venue} {stay : Stay} {name : String}
    {seen : Option Nat} {length : Nat} {resting rested : Stay → σ} {result : σ}
    (h : venue.rest? stay name seen length resting rested = some (later, result)) :
    (later.host = venue.host ∨ later.host = (venue.host.watch? name).1) ∧
      ((∃ stay, result = resting stay) ∨ ∃ stay, result = rested stay) := by
  unfold Venue.rest? at h
  split at h
  · cases seen with
    | none =>
      cases h
      exact ⟨.inl rfl, .inl ⟨_, rfl⟩⟩
    | some seen =>
      cases h
      exact ⟨.inr rfl, .inl ⟨_, rfl⟩⟩
  · split at h
    · cases h
      exact ⟨.inl rfl, .inr ⟨_, rfl⟩⟩
    · cases h

/-- What an act of a guest of a meeting is: it registers; or it rests; or it is told that the
meeting is over. -/
inductive Deed (meeting : Meeting) (before after : Attendance) : Prop where
  | registers {seen elapsed : Nat} : before.guest.aim = .meeting meeting (.arriving seen) →
      after.venue = (before.venue.enter meeting.name meeting.worker).1 →
        after.guest.aim = .meeting meeting
          (meeting.round seen (before.venue.enter meeting.name meeting.worker).2 elapsed) →
          Deed meeting before after
  | rests {wait : Wait} : after.venue.host = before.venue.host ∨
      after.venue.host = (before.venue.host.watch? meeting.name).1 →
        after.guest.aim = .meeting meeting wait → (∀ result, wait ≠ .over result) →
          Deed meeting before after
  | leaves {result : Except Failure Unit} :
      before.guest.aim = .meeting meeting (.over result) → after.venue = before.venue →
        after.guest.aim = .none result → Deed meeting before after

/-- There are no other acts. -/
theorem deed_of_act {wait : Wait} (haim : before.guest.aim = .meeting meeting wait)
    (hact : Guest.act? before.venue before.guest = some (after.venue, after.guest)) :
    Deed meeting before after := by
  rcases before with ⟨venue, aim, stay⟩
  rcases after with ⟨later, guest⟩
  simp only at haim hact
  subst haim
  cases wait with
  | arriving seen =>
    cases hact
    exact .registers rfl rfl rfl
  | resting seen watching length =>
    rcases rest?_cases hact with ⟨hhost, ⟨stay, hguest⟩ | ⟨stay, hguest⟩⟩
    · subst hguest
      exact .rests hhost rfl nofun
    · subst hguest
      exact .rests hhost rfl nofun
  | «over» result =>
    cases hact
    exact .leaves rfl rfl rfl

/-! ## What holds at any time -/

/-- The venue has a registry that all share, and the guest is at its meeting or has its
result. -/
structure Inv (meeting : Meeting) (state : Attendance) : Prop where
  host : ∃ registry : Registry, state.venue.host = .shared registry ∧ registry.Made
  guest : (∃ wait, state.guest.aim = .meeting meeting wait) ∨
    ∃ result, state.guest.aim = .none result

theorem inv_start (meeting : Meeting) (now : Nat) : Inv meeting (start meeting now) :=
  ⟨⟨{}, rfl, .empty⟩, .inl ⟨_, rfl⟩⟩

/-- A guest that has its result does nothing. -/
theorem act?_of_none {venue : Venue} {guest : Guest} {result : Except Failure Unit}
    (h : guest.aim = .none result) : Guest.act? venue guest = none := by
  rcases guest with ⟨aim, stay⟩
  simp only at h
  subst h
  rfl

/-- Every step keeps this. -/
theorem Inv.step (h : Inv meeting state) (hstep : Step state next) : Inv meeting next := by
  rcases h.host with ⟨registry, hhost, hmade⟩
  cases hstep with
  | @act venue guest hact =>
    rcases h.guest with ⟨wait, haim⟩ | ⟨result, haim⟩
    · have hdeed : Deed meeting _ ⟨venue, guest⟩ := deed_of_act haim hact
      cases hdeed with
      | registers _ hvenue hguest =>
        refine ⟨⟨(registry.register meeting.name meeting.worker).1, ?_,
          hmade.made_register _ _⟩, .inl ⟨_, hguest⟩⟩
        rw [hvenue, Venue.enter, hhost]
        rfl
      | rests hsame hguest _ =>
        refine ⟨?_, .inl ⟨_, hguest⟩⟩
        rcases hsame with hsame | hsame
        · exact ⟨registry, hsame.trans hhost, hmade⟩
        · refine ⟨(registry.find meeting.name).1, ?_, .find _ hmade⟩
          rw [hsame, hhost]
          rfl
      | leaves _ hvenue hguest =>
        refine ⟨⟨registry, ?_, hmade⟩, .inr ⟨_, hguest⟩⟩
        rw [hvenue, hhost]
    · rw [act?_of_none haim] at hact
      cases hact
  | register called worker =>
    refine ⟨⟨(registry.register called worker).1, ?_, hmade.made_register _ _⟩, h.guest⟩
    rw [Venue.enter, hhost]
    rfl
  | clear called =>
    refine ⟨⟨registry.clear called, ?_, .clear _ hmade⟩, h.guest⟩
    rw [Venue.clear, hhost]
    rfl
  | look called =>
    refine ⟨⟨(registry.find called).1, ?_, .find _ hmade⟩, h.guest⟩
    rw [hhost]
    rfl
  | elapse time => exact ⟨⟨registry, hhost, hmade⟩, h.guest⟩

theorem Inv.runs (h : Inv meeting state) (hruns : Runs state next) : Inv meeting next := by
  induction hruns with
  | refl => exact h
  | tail _ hstep ih => exact ih.step hstep

/-! ## When a guest is through -/

/-- The guest is through, or has this as its result. -/
def IsThrough (meeting : Meeting) (state : Attendance) : Prop :=
  state.guest.aim = .meeting meeting (.over (.ok ())) ∨ state.guest.aim = .none (.ok ())

/-- One step after which a guest is through: it was so before, or it has just registered. -/
theorem opens_of_step (h : Inv meeting state) (hstep : Step state next)
    (hthrough : IsThrough meeting next) : IsThrough meeting state ∨ Opens meeting state next := by
  cases hstep with
  | @act venue guest hact =>
    rcases h.guest with ⟨wait, haim⟩ | ⟨result, haim⟩
    · have hdeed : Deed meeting _ ⟨venue, guest⟩ := deed_of_act haim hact
      cases hdeed with
      | registers harriving _ hguest =>
        rcases hthrough with hover | hnone
        · exact .inr ⟨⟨_, harriving⟩, hact, hover⟩
        · cases hguest.symm.trans hnone
      | rests _ hguest hwait =>
        rcases hthrough with hover | hnone
        · cases hguest.symm.trans hover
          exact absurd rfl (hwait _)
        · cases hguest.symm.trans hnone
      | leaves hover _ hguest =>
        rcases hthrough with hsame | hnone
        · cases hguest.symm.trans hsame
        · cases hguest.symm.trans hnone
          exact .inl (.inl hover)
    · rw [act?_of_none haim] at hact
      cases hact
  | register called worker => exact .inl hthrough
  | clear called => exact .inl hthrough
  | look called => exact .inl hthrough
  | elapse time => exact .inl hthrough

/-- A guest is through by one of its registrations, some time before. -/
theorem Runs.exists_opens {now : Nat} (hruns : Runs (start meeting now) state)
    (hthrough : IsThrough meeting state) :
    ∃ before after, Runs (start meeting now) before ∧ Opens meeting before after ∧
      Runs after state := by
  induction hruns with
  | refl =>
    rcases hthrough with hover | hnone
    · cases hover
    · cases hnone
  | @tail middle last hmiddle hstep ih =>
    have hinv := (inv_start meeting now).runs hmiddle
    rcases opens_of_step hinv hstep hthrough with hbefore | hopens
    · rcases ih hbefore with ⟨before, after, hfirst, hopens, hrest⟩
      exact ⟨before, after, hfirst, hopens, hrest.tail hstep⟩
    · exact ⟨middle, last, hmiddle, hopens, .refl⟩

/-- At the registration that lets a guest through, it is registered itself, and so are as many
workers as it expects, each of them once. -/
theorem Opens.present (h : Opens meeting before after) (hinv : Inv meeting before) :
    meeting.worker ∈ after.present meeting ∧ (after.present meeting).Nodup ∧
      meeting.expected ≤ (after.present meeting).length := by
  rcases hinv.host with ⟨registry, hhost, hmade⟩
  rcases h.arriving with ⟨seen, harriving⟩
  cases deed_of_act harriving h.act with
  | @registers seen elapsed _ hvenue hguest =>
    have hentered : before.venue.enter meeting.name meeting.worker =
        ({ before.venue with host := .shared (registry.register meeting.name meeting.worker).1 },
          .ok (registry.register meeting.name meeting.worker).2) := by
      rw [Venue.enter, hhost]
      rfl
    rw [hentered] at hvenue hguest
    have hpresent : after.present meeting =
        (registry.register meeting.name meeting.worker).1.workers meeting.name := by
      rw [Attendance.present, hvenue]
      rfl
    rcases hmade.register meeting.name meeting.worker with ⟨hworker, hcount⟩
    have hexpected : meeting.expected ≤ (registry.register meeting.name meeting.worker).2 := by
      have hround := h.through
      rw [hguest] at hround
      by_contra hfew
      simp only [Meeting.round, hfew, decide_false, Bool.and_false, Bool.false_eq_true, if_false]
        at hround
      cases hrest : meeting.rest? elapsed <;> simp [hrest] at hround
    rw [hcount] at hexpected
    rw [hpresent]
    exact ⟨hworker, (hmade.made_register _ _).nodup _, hexpected⟩
  | rests _ hguest hwait =>
    cases hguest.symm.trans h.through
    exact absurd rfl (hwait _)
  | leaves _ _ hguest => cases hguest.symm.trans h.through

/-- Whatever anybody does with the registry, before and while a guest of a meeting of `total`
workers waits: if the guest is told that all have met, then it was registered some time before,
and at that registration it was among at least `total` workers that were registered under the
name, each of them once.  If none of them had a number from `total` on, all workers below `total`
were. -/
theorem peers_of_opens {now : Nat} {total : UInt32} (hexpected : meeting.expected = total.toNat)
    (hruns : Runs (start meeting now) state) (hresult : state.guest.result? = some (.ok ())) :
    ∃ before after, Runs (start meeting now) before ∧ Opens meeting before after ∧
      Runs after state ∧ meeting.worker ∈ after.present meeting ∧
      (after.present meeting).Nodup ∧ total.toNat ≤ (after.present meeting).length ∧
      ((∀ worker ∈ after.present meeting, worker < total) →
        ∀ index < total, index ∈ after.present meeting) := by
  have hthrough : IsThrough meeting state := by
    unfold Guest.result? at hresult
    split at hresult
    · rename_i result haim
      cases hresult
      exact .inr haim
    · cases hresult
  rcases hruns.exists_opens hthrough with ⟨before, after, hbefore, hopens, hafter⟩
  rcases hopens.present ((inv_start meeting now).runs hbefore) with ⟨hown, hnodup, hcount⟩
  rw [hexpected] at hcount
  exact ⟨before, after, hbefore, hopens, hafter, hown, hnodup, hcount,
    fun hpeers index hindex => mem_of_length_le hnodup hpeers hcount hindex⟩

/-- The first of two workers that meet. -/
def pair : Meeting := ⟨"b", 0, 2, 1, none⟩

/-- The other worker has registered, and then the first one comes. -/
theorem peers_of_opens_pair :
    ∃ state, pair.expected = (2 : UInt32).toNat ∧ Runs (start pair 0) state ∧
      state.guest.result? = some (.ok ()) ∧
      ∃ before after, Runs (start pair 0) before ∧ Opens pair before after ∧
        Runs after state ∧ pair.worker ∈ after.present pair ∧
        (after.present pair).Nodup ∧ (2 : UInt32).toNat ≤ (after.present pair).length ∧
        ((∀ worker ∈ after.present pair, worker < 2) →
          ∀ index < 2, index ∈ after.present pair) := by
  let first : Attendance := ⟨((start pair 0).venue.enter "b" 1).1, .ofMeeting pair⟩
  let second : Attendance :=
    ⟨(first.venue.enter "b" 0).1, ⟨.meeting pair (.over (.ok ())), ⟨some 0, none⟩⟩⟩
  let last : Attendance := ⟨second.venue, ⟨.none (.ok ()), {}⟩⟩
  have hfirst : Step (start pair 0) first := .register "b" 1
  have hsecond : Step first second := .act rfl
  have hlast : Step second last := .act rfl
  have hruns : Runs (start pair 0) last :=
    ((Relation.ReflTransGen.single hfirst).tail hsecond).tail hlast
  exact ⟨last, rfl, hruns, rfl, peers_of_opens rfl hruns rfl⟩

/-- A worker of another job has registered under the name, and counts like the second of two
workers.  The first one is through, and the second one is not there. -/
theorem opens_without_peer :
    ¬ ∀ (meeting : Meeting) (total : UInt32) (now : Nat) (before after : Attendance),
      meeting.expected = total.toNat → Runs (start meeting now) before →
        Opens meeting before after → ∀ index < total, index ∈ after.present meeting := by
  intro hall
  let first : Attendance := ⟨((start pair 0).venue.enter "b" 5).1, .ofMeeting pair⟩
  let second : Attendance :=
    ⟨(first.venue.enter "b" 0).1, ⟨.meeting pair (.over (.ok ())), ⟨some 0, none⟩⟩⟩
  have hfirst : Runs (start pair 0) first := Relation.ReflTransGen.single (.register "b" 5)
  have hopens : Opens pair first second := ⟨⟨0, rfl⟩, rfl, rfl⟩
  have hpeer : (1 : UInt32) ∈ second.present pair :=
    hall pair 2 0 first second rfl hfirst hopens 1 (by decide)
  have hpresent : second.present pair = [0, 5] := rfl
  rw [hpresent] at hpeer
  exact absurd hpeer (by decide)

end Attendance

end KeyIndex.Rendezvous
