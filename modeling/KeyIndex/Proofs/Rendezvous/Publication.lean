import KeyIndex.Proofs.Rendezvous.Registry
import Mathlib.Data.List.Infix
import Mathlib.Logic.Function.Basic

/-!
# Which count is published

Several workers register under one name at the same time.  A registration looks the name up,
enters its worker in the slot and counts who is there, and publishes that count.  Other
registrations may come between any two of these.  The count that is published is then the one
that the last publication had taken, which need not be the last one that was taken: a
registration that is overtaken between its counting and its publication overwrites a greater
count by a smaller one.

So the published count never says too much, and it is right exactly as long as each worker that
has been entered was there when the registration that has published last took its count.

Main definitions:

- `Desk.Step`: what a registration does next, and what others may do.
- `Desk.entered`, `Desk.reported`: who has been entered by some acts, and who of them the last
  publication has counted.

Main results:

- Theorem `Desk.Runs.register`: a registration that nothing comes between registers the worker.
- Theorem `Desk.Runs.inv`: what the slot of the name holds after some acts.
- Theorem `Desk.shown_eq_registered_iff`: when the published count is right.
- Theorem `Desk.late_publication`: it may be wrong when no registration is on its way.
-/

namespace KeyIndex.Rendezvous

/-! ## Registrations on their way -/

/-- How far a registration is. -/
inductive Stage where
  /-- It has not begun. -/
  | ahead
  /-- It has found the slot of the name. -/
  | found (slot : SlotId)
  /-- Its worker is in the slot, and it has counted so many workers there. -/
  | counted (slot : SlotId) (count : Nat)
  /-- It has published its count. -/
  | done

/-- The slot that a registration has found and still needs. -/
def Stage.slot? : Stage → Option SlotId
  | .found slot => some slot
  | .counted slot _ => some slot
  | _ => none

/-- A registry, and how far each registration of it is.  They are told apart by numbers. -/
structure Desk where
  registry : Registry
  stage : Nat → Stage

namespace Desk

/-- What happens at a desk. -/
inductive Act where
  | find (call : Nat)
  | count (call : Nat)
  | publish (call : Nat)
  | look (called : String)

/-- The desk when one registration has come to another stage. -/
def advance (desk : Desk) (registry : Registry) (call : Nat) (stage : Stage) : Desk where
  registry := registry
  stage := Function.update desk.stage call stage

@[simp] theorem stage_advance_self (desk : Desk) (registry : Registry) (call : Nat)
    (stage : Stage) : (desk.advance registry call stage).stage call = stage :=
  Function.update_self _ _ _

theorem stage_advance_of_ne (desk : Desk) (registry : Registry) {call other : Nat}
    (stage : Stage) (h : other ≠ call) :
    (desk.advance registry call stage).stage other = desk.stage other :=
  Function.update_of_ne h _ _

/-- One act, when the registrations are for `callers` under a name: one of the three things that
a registration does one after another, or somebody looks a name up. -/
inductive Step (name : String) (callers : Nat → UInt32) : Desk → Act → Desk → Prop where
  | find {desk : Desk} {call : Nat} : desk.stage call = .ahead →
      Step name callers desk (.find call)
        (desk.advance (desk.registry.find name).1 call (.found (desk.registry.find name).2))
  | count {desk : Desk} {call : Nat} {slot : SlotId} : desk.stage call = .found slot →
      Step name callers desk (.count call)
        (desk.advance (desk.registry.enter slot (callers call)).1 call
          (.counted slot (desk.registry.enter slot (callers call)).2))
  | publish {desk : Desk} {call : Nat} {slot : SlotId} {count : Nat} :
      desk.stage call = .counted slot count →
      Step name callers desk (.publish call)
        (desk.advance (desk.registry.publish slot count) call .done)
  | look {desk : Desk} (called : String) :
      Step name callers desk (.look called)
        { desk with registry := (desk.registry.find called).1 }

/-- Some acts, the last one first. -/
inductive Runs (name : String) (callers : Nat → UInt32) (first : Desk) :
    List Act → Desk → Prop where
  | nil : Runs name callers first [] first
  | cons {earlier : List Act} {desk next : Desk} {act : Act} :
      Runs name callers first earlier desk → Step name callers desk act next →
        Runs name callers first (act :: earlier) next

/-- A registry before any of the registrations. -/
def start (registry : Registry) : Desk := ⟨registry, fun _ => .ahead⟩

/-- No registration is between its counting and its publication. -/
def Quiet (desk : Desk) : Prop := ∀ call slot count, desk.stage call ≠ .counted slot count

variable {name : String} {callers : Nat → UInt32} {registry : Registry}
  {desk next first : Desk} {act : Act} {acts earlier : List Act}

/-- A registration that nothing comes between registers its worker. -/
theorem Runs.register (hruns : Runs name callers first earlier desk) {call : Nat}
    (hstage : desk.stage call = .ahead) :
    ∃ next, Runs name callers first (.publish call :: .count call :: .find call :: earlier) next ∧
      next.registry = (desk.registry.register name (callers call)).1 ∧
      next.stage = Function.update desk.stage call .done := by
  have hfind := hruns.cons (.find hstage)
  have hcount := hfind.cons (.count (stage_advance_self _ _ _ _))
  have hpublish := hcount.cons (.publish (stage_advance_self _ _ _ _))
  refine ⟨_, hpublish, rfl, ?_⟩
  simp [advance]

/-! ## Who has been entered, and who has been reported -/

/-- Who has been entered by some acts, of which the last one comes first. -/
def entered (callers : Nat → UInt32) : List Act → List UInt32
  | [] => []
  | .count call :: earlier => (entered callers earlier).insert (callers call)
  | _ :: earlier => entered callers earlier

/-- Who was there when a registration took its count. -/
def present (callers : Nat → UInt32) (call : Nat) : List Act → List UInt32
  | [] => []
  | .count other :: earlier =>
    if other = call then entered callers (.count other :: earlier)
    else present callers call earlier
  | _ :: earlier => present callers call earlier

/-- Who was there when the count was taken that has been published last. -/
def reported (callers : Nat → UInt32) : List Act → List UInt32
  | [] => []
  | .publish call :: earlier => present callers call earlier
  | _ :: earlier => reported callers earlier

/-- Nobody is entered twice. -/
theorem nodup_entered (callers : Nat → UInt32) (acts : List Act) :
    (entered callers acts).Nodup := by
  induction acts with
  | nil => exact List.nodup_nil
  | cons act earlier ih =>
    cases act with
    | count call => exact ih.insert
    | find call => exact ih
    | publish call => exact ih
    | look called => exact ih

/-- Who has been entered before is entered. -/
theorem entered_suffix_cons (callers : Nat → UInt32) (act : Act) (earlier : List Act) :
    entered callers earlier <:+ entered callers (act :: earlier) := by
  cases act with
  | count call => exact List.suffix_insert _ _
  | find call => exact List.suffix_rfl
  | publish call => exact List.suffix_rfl
  | look called => exact List.suffix_rfl

/-- Who was counted has been entered before. -/
theorem present_suffix (callers : Nat → UInt32) (call : Nat) (acts : List Act) :
    present callers call acts <:+ entered callers acts := by
  induction acts with
  | nil => exact List.suffix_rfl
  | cons act earlier ih =>
    have hlater := ih.trans (entered_suffix_cons callers act earlier)
    cases act with
    | count other =>
      rw [present]
      split
      · exact List.suffix_rfl
      · exact hlater
    | find call => exact hlater
    | publish call => exact hlater
    | look called => exact hlater

/-- Who is reported has been entered. -/
theorem reported_suffix (callers : Nat → UInt32) (acts : List Act) :
    reported callers acts <:+ entered callers acts := by
  induction acts with
  | nil => exact List.suffix_rfl
  | cons act earlier ih =>
    cases act with
    | publish call => exact present_suffix callers call earlier
    | count call => exact ih.trans (entered_suffix_cons callers (.count call) earlier)
    | find call => exact ih
    | look called => exact ih

/-- As many are reported as have been entered if all who have been entered are reported. -/
theorem length_reported_eq_iff (callers : Nat → UInt32) (acts : List Act) :
    (reported callers acts).length = (entered callers acts).length ↔
      ∀ worker ∈ entered callers acts, worker ∈ reported callers acts := by
  have hsuffix := reported_suffix callers acts
  constructor
  · intro hlength worker hworker
    rwa [hsuffix.eq_of_length hlength]
  · intro hall
    apply Nat.le_antisymm hsuffix.length_le
    exact ((nodup_entered callers acts).subperm hall).length_le

/-! ## What the slot of the name holds -/

/-- What holds after some acts: who is still on the way has found the slot of the name; that slot
holds who has been entered, and the number of those who are reported; and a registration that has
counted has the number of those who were there. -/
structure Inv (name : String) (callers : Nat → UInt32) (acts : List Act) (desk : Desk) :
    Prop where
  made : desk.registry.Made
  leads : ∀ call slot, (desk.stage call).slot? = some slot → (name, slot) ∈ desk.registry.names
  counted : ∀ call slot count, desk.stage call = .counted slot count →
    count = (present callers call acts).length
  held : desk.registry.held name =
    ⟨entered callers acts, (reported callers acts).length⟩

/-- Before the first act nobody is on the way. -/
theorem inv_start (hmade : registry.Made) (hnew : ∀ entry ∈ registry.names, entry.1 ≠ name) :
    Inv name callers [] (start registry) where
  made := hmade
  leads := nofun
  counted := nofun
  held := by
    have hlookup : registry.names.lookup name = none := by
      rw [List.lookup_eq_none_iff]
      intro entry hentry
      simpa using (hnew entry hentry).symm
    simp [start, Registry.held, hlookup, entered, reported]

/-- An act by which one registration comes to another stage keeps this, if the new stage and what
the slot holds then are as they should be, and the act changes nothing about what the other
registrations have counted. -/
theorem Inv.advance (h : Inv name callers earlier desk) {later : Registry} {call : Nat}
    {stage : Stage} (hmade : later.Made) (hnames : desk.registry.names ⊆ later.names)
    (hslot : ∀ slot, stage.slot? = some slot → (name, slot) ∈ later.names)
    (hcount : ∀ slot count, stage = .counted slot count →
      count = (present callers call (act :: earlier)).length)
    (hothers : ∀ other, other ≠ call →
      present callers other (act :: earlier) = present callers other earlier)
    (hheld : later.held name =
      ⟨entered callers (act :: earlier), (reported callers (act :: earlier)).length⟩) :
    Inv name callers (act :: earlier) (desk.advance later call stage) where
  made := hmade
  leads other slot hother := by
    rcases eq_or_ne other call with rfl | hne
    · rw [stage_advance_self] at hother
      exact hslot slot hother
    · rw [stage_advance_of_ne _ _ _ hne] at hother
      exact hnames (h.leads other slot hother)
  counted other slot count hother := by
    rcases eq_or_ne other call with rfl | hne
    · rw [stage_advance_self] at hother
      exact hcount slot count hother
    · rw [stage_advance_of_ne _ _ _ hne] at hother
      rw [hothers other hne]
      exact h.counted other slot count hother
  held := hheld

/-- Every act keeps this. -/
theorem Inv.step (h : Inv name callers earlier desk) (hstep : Step name callers desk act next) :
    Inv name callers (act :: earlier) next := by
  cases hstep with
  | @find call hstage =>
    apply h.advance (.find _ h.made)
    · exact fun entry hentry => Registry.mem_names_find.mpr (.inl hentry)
    · rintro slot ⟨⟩
      exact Registry.mem_names_find.mpr (.inr rfl)
    · nofun
    · exact fun other _ => rfl
    · exact (Registry.held_find _ _ _).trans h.held
  | @count call slot hstage =>
    have hmem : (name, slot) ∈ desk.registry.names := h.leads call slot (by rw [hstage]; rfl)
    have hsound := h.made.sound.update slot (·.enter (callers call))
    have hheld : (desk.registry.enter slot (callers call)).1.held name =
        ⟨entered callers (.count call :: earlier), (reported callers earlier).length⟩ := by
      rw [Registry.enter, h.made.sound.held_update hmem, h.held]
      rfl
    apply h.advance (.enter _ _ h.made) (List.Subset.refl _)
    · rintro found ⟨⟩
      exact hmem
    · rintro found count ⟨⟩
      rw [present, if_pos rfl, Registry.enter, Slot.size, ← hsound.held_eq hmem]
      exact congrArg (fun held : Slot => held.workers.length) hheld
    · intro other hne
      rw [present, if_neg hne.symm]
    · exact hheld
  | @publish call slot count hstage =>
    have hmem : (name, slot) ∈ desk.registry.names := h.leads call slot (by rw [hstage]; rfl)
    apply h.advance (.publish _ _ h.made) (List.Subset.refl _)
    · nofun
    · nofun
    · exact fun other _ => rfl
    · rw [Registry.publish, h.made.sound.held_update hmem, h.held, h.counted call slot count hstage]
      rfl
  | look called =>
    refine ⟨.find _ h.made, ?_, h.counted, ?_⟩
    · intro call slot hslot
      exact Registry.mem_names_find.mpr (.inl (h.leads call slot hslot))
    · exact (Registry.held_find _ _ _).trans h.held

/-- After any acts this holds. -/
theorem Runs.inv (hmade : registry.Made) (hnew : ∀ entry ∈ registry.names, entry.1 ≠ name)
    (hruns : Runs name callers (start registry) acts desk) : Inv name callers acts desk := by
  induction hruns with
  | nil => exact inv_start hmade hnew
  | cons _ hstep ih => exact ih.step hstep

/-! ## Whether the published count is right -/

/-- Whatever comes between the acts of registrations under a name that was not in use: who is
registered is who has been entered; the count that is published never says more; and it is the
number of those who are registered exactly if each of them was there when the count that has been
published last was taken. -/
theorem shown_eq_registered_iff (hmade : registry.Made)
    (hnew : ∀ entry ∈ registry.names, entry.1 ≠ name)
    (hruns : Runs name callers (start registry) acts desk) :
    desk.registry.workers name = entered callers acts ∧
      desk.registry.shown name ≤ desk.registry.registered name ∧
      (desk.registry.shown name = desk.registry.registered name ↔
        ∀ worker ∈ entered callers acts, worker ∈ reported callers acts) := by
  have hheld := (hruns.inv hmade hnew).held
  have hworkers : desk.registry.workers name = entered callers acts := by
    rw [Registry.workers_eq_held, hheld]
  have hshown : desk.registry.shown name = (reported callers acts).length := by
    rw [Registry.shown_eq_held, hheld]
  rw [Registry.registered, hworkers, hshown]
  exact ⟨rfl, (reported_suffix callers acts).length_le, length_reported_eq_iff callers acts⟩

/-! ## Two registrations at the same time -/

/-- Two workers register at the same time: both have been entered and have counted, and neither
has published its count. -/
theorem exists_both_counted :
    ∃ desk, Runs "b" Nat.toUInt32 (start {}) [.count 1, .count 0, .find 1, .find 0] desk ∧
      desk.registry = ⟨[⟨[1, 0], 0⟩], [("b", 0)]⟩ ∧
      desk.stage 0 = .counted 0 1 ∧ desk.stage 1 = .counted 0 2 ∧
      ∀ call, call ≠ 0 → call ≠ 1 → desk.stage call = .ahead := by
  have hnone : Runs "b" Nat.toUInt32 (start {}) [] (start {}) := .nil
  have hfirst := hnone.cons (@Step.find _ _ _ 0 rfl)
  have hsecond := hfirst.cons (@Step.find _ _ _ 1 rfl)
  have hthird := hsecond.cons (@Step.count _ _ _ 0 0 rfl)
  have hfourth := hthird.cons (@Step.count _ _ _ 1 0 rfl)
  refine ⟨_, hfourth, rfl, rfl, rfl, ?_⟩
  intro call hzero hone
  simp [advance, start, hzero, hone]

/-- Both publish in the order in which they have counted. -/
theorem shown_eq_registered_in_turn :
    ∃ acts desk, Registry.Made {} ∧
      (∀ entry ∈ ({} : Registry).names, entry.1 ≠ "b") ∧
      Runs "b" Nat.toUInt32 (start {}) acts desk ∧ desk.registry.shown "b" = 2 ∧
      desk.registry.workers "b" = entered Nat.toUInt32 acts ∧
      desk.registry.shown "b" ≤ desk.registry.registered "b" ∧
      (desk.registry.shown "b" = desk.registry.registered "b" ↔
        ∀ worker ∈ entered Nat.toUInt32 acts, worker ∈ reported Nat.toUInt32 acts) := by
  rcases exists_both_counted with ⟨desk, hruns, hregistry, hzero, hone, -⟩
  have hfirst := hruns.cons (.publish hzero)
  have hsecond := hfirst.cons (.publish ((stage_advance_of_ne _ _ _ (by decide)).trans hone))
  refine ⟨_, _, .empty, nofun, hsecond, ?_, shown_eq_registered_iff .empty nofun hsecond⟩
  simp only [advance, hregistry]
  rfl

/-- The first of two workers counts one, the second one counts two and publishes it, and then the
first one publishes its count.  No registration is on its way any more; two workers are
registered, and the count that one sees is one. -/
theorem late_publication :
    ¬ ∀ (name : String) (callers : Nat → UInt32) (acts : List Act) (desk : Desk),
      Runs name callers (start {}) acts desk → desk.Quiet →
        desk.registry.shown name = desk.registry.registered name := by
  intro hall
  rcases exists_both_counted with ⟨desk, hruns, hregistry, hzero, hone, hothers⟩
  have hsecond := hruns.cons (.publish hone)
  have hfirst := hsecond.cons (.publish ((stage_advance_of_ne _ _ _ (by decide)).trans hzero))
  have hsame := hall _ _ _ _ hfirst ?_
  · simp only [advance, hregistry] at hsame
    exact absurd hsame (by decide)
  · intro call slot count hcounted
    by_cases hcall : call = 0
    · subst hcall
      rw [stage_advance_self] at hcounted
      cases hcounted
    · rw [stage_advance_of_ne _ _ _ hcall] at hcounted
      by_cases hother : call = 1
      · subst hother
        rw [stage_advance_self] at hcounted
        cases hcounted
      · rw [stage_advance_of_ne _ _ _ hother, hothers call hcall hother] at hcounted
        cases hcounted

end Desk

end KeyIndex.Rendezvous
