import KeyIndex.Proofs.Rendezvous.Peers
import KeyIndex.Rendezvous.Host
import Mathlib.Data.List.DropRight

/-!
# Rolls

A shared registry counts, for each name, the workers that were registered under it since it was
cleared last, each of them once.  The names of a registry lead to slots that are made when a name
is used, by a registration or by one who waits, and that outlive their names; nothing of this
shows in the counts.  They are those of a map from names to sets of workers, whatever is done
with the registry, by whichever of those who share it.

Main definitions:

- `Operation`, `Host.usedAs`: what is done with a registry, and the host after a history of it.
- `Operation.roll`: the workers that a history has registered under a name since it was cleared.

Main results:

- Theorem `Registry.Sound.held_register`, `Registry.held_clear`: what a registration and a
  clearing make of the slot of each name.
- Theorem `Host.Keeps.perform`, `Host.keeps_usedAs`: the workers under each name are its roll.
- Theorem `Host.registered_eq_card_roll`: what is counted after any history.
-/

namespace KeyIndex.Rendezvous

/-! ## Operations and rolls -/

/-- What is done with a registry under a name. -/
inductive Operation where
  | register (name : String) (worker : UInt32)
  /-- The workers are counted. -/
  | count (name : String)
  | clear (name : String)
  /-- Somebody looks the name up, to wait for a change of its count. -/
  | watch (name : String)
deriving DecidableEq

namespace Operation

/-- The name under which something is done. -/
def name : Operation → String
  | register name _ => name
  | count name => name
  | clear name => name
  | watch name => name

/-- The worker that an operation registers under a name. -/
def worker? (name : String) : Operation → Option UInt32
  | register called worker => if called = name then some worker else none
  | _ => none

/-- The workers that a history registers under a name, one for each registration. -/
def registrations (name : String) (history : List Operation) : List UInt32 :=
  history.filterMap (worker? name)

/-- The part of a history that comes after the last time that a name was cleared. -/
def sinceCleared (name : String) (history : List Operation) : List Operation :=
  history.rtakeWhile (· ≠ clear name)

/-- The workers that a history has registered under a name since it was cleared last. -/
def roll (name : String) (history : List Operation) : Finset UInt32 :=
  (registrations name (sinceCleared name history)).toFinset

variable {name called : String} {worker : UInt32} {operation : Operation}
  {history early late : List Operation}

@[simp] theorem roll_nil (name : String) : roll name [] = ∅ := rfl

@[simp] theorem roll_concat_clear (name : String) (history : List Operation) :
    roll name (history ++ [clear name]) = ∅ := by
  simp [roll, sinceCleared, registrations]

/-- As long as a name is not cleared, its roll grows by the workers that are registered. -/
theorem roll_concat (h : operation ≠ clear name) :
    roll name (history ++ [operation]) =
      roll name history ∪ (registrations name [operation]).toFinset := by
  simp [roll, sinceCleared, h, registrations, List.toFinset_append]

@[simp] theorem roll_concat_register (name : String) (worker : UInt32) (history : List Operation) :
    roll name (history ++ [register name worker]) = insert worker (roll name history) := by
  rw [roll_concat Operation.noConfusion]
  simp [registrations, worker?, Finset.union_comm]

/-- What is done under one name leaves the roll of every other name as it is. -/
theorem roll_concat_of_ne (h : operation.name ≠ name) :
    roll name (history ++ [operation]) = roll name history := by
  have hclear : operation ≠ clear name := by
    rintro rfl
    exact h rfl
  have hnone : operation.worker? name = none := by
    cases operation with
    | register called worker => exact if_neg h
    | count _ => rfl
    | clear _ => rfl
    | watch _ => rfl
  rw [roll_concat hclear]
  simp [registrations, hnone]

/-- To count and to watch leaves every roll as it is. -/
theorem roll_concat_of_none (hclear : operation ≠ clear name)
    (h : ∀ called, operation.worker? called = none) :
    roll name (history ++ [operation]) = roll name history := by
  rw [roll_concat hclear]
  simp [registrations, h]

theorem roll_append (h : clear name ∉ late) :
    roll name (early ++ late) = roll name early ∪ (registrations name late).toFinset := by
  induction late using List.reverseRecOn with
  | nil => simp [registrations]
  | append_singleton late operation ih =>
    rw [List.mem_append, not_or, List.mem_singleton] at h
    rw [← List.append_assoc, roll_concat (Ne.symm h.2), ih h.1]
    simp [registrations, List.toFinset_append, Finset.union_assoc]

/-- What comes later makes the same of equal rolls. -/
theorem roll_append_congr {other : List Operation} (h : roll name early = roll name other)
    (late : List Operation) : roll name (early ++ late) = roll name (other ++ late) := by
  induction late using List.reverseRecOn with
  | nil => simpa using h
  | append_singleton late operation ih =>
    rw [← List.append_assoc, ← List.append_assoc]
    by_cases hclear : operation = clear name
    · rw [hclear, roll_concat_clear, roll_concat_clear]
    · rw [roll_concat hclear, roll_concat hclear, ih]

end Operation

/-! ## The slots of the names -/

namespace Registry

variable {registry : Registry} {name called : String} {id : SlotId}

/-- A name that was cleared has an empty slot, and every other name has the slot that it had. -/
theorem held_clear (registry : Registry) (called name : String) :
    (registry.clear called).held name = if name = called then {} else registry.held name := by
  have hlookup : (registry.clear called).names.lookup name =
      if name = called then none else registry.names.lookup name := by
    rw [clear]
    induction registry.names with
    | nil => simp
    | cons entry names ih =>
      rcases entry with ⟨first, id⟩
      by_cases hfirst : first = called
      · subst hfirst
        by_cases hname : name = first
        · simpa [hname] using ih
        · simpa [hname, List.lookup_cons, beq_eq_false_iff_ne.mpr hname] using ih
      · rw [List.filter_cons_of_pos (by simpa using hfirst), List.lookup_cons, List.lookup_cons]
        by_cases hname : name = first
        · subst hname
          simp [hfirst]
        · simpa [beq_eq_false_iff_ne.mpr hname] using ih
  unfold held
  rw [hlookup]
  by_cases hname : name = called
  · simp [hname]
  · simp only [hname, if_false]
    rfl

/-- A change to the slot of one name leaves the slot of every other name as it is. -/
theorem Sound.held_update_of_ne (h : registry.Sound) (hmem : (called, id) ∈ registry.names)
    (hne : name ≠ called) (change : Slot → Slot) :
    (registry.update id change).held name = registry.held name := by
  unfold held
  rw [names_update]
  cases hlookup : registry.names.lookup name with
  | none => rfl
  | some other =>
    have hother : (name, other) ∈ registry.names := by
      rcases List.lookup_eq_some_iff.mp hlookup with ⟨before, after, hnames, -⟩
      simp [hnames]
    have hapart : other ≠ id := fun hsame => hne ((h.apart _ hother _ hmem).mpr hsame)
    exact (slot_update (h.made _ hmem) change other).trans (if_neg hapart)

/-- A registration enters the worker in the slot of its name and publishes how many are there; the
slot of every other name stays as it is. -/
theorem Sound.held_register (h : registry.Sound) (called : String) (worker : UInt32)
    (name : String) :
    ((registry.register called worker).1.held name).workers =
      if name = called then (registry.held name).workers.insert worker
      else (registry.held name).workers := by
  let found := registry.find called
  have hsound := h.find called
  have hleads : (called, found.2) ∈ found.1.names := mem_names_find.mpr (.inr rfl)
  have hentered := hsound.update found.2 (·.enter worker)
  show (((found.1.update found.2 (·.enter worker)).update found.2 _).held name).workers = _
  by_cases hname : name = called
  · subst hname
    rw [if_pos rfl, hentered.held_update hleads, hsound.held_update hleads, held_find]
    rfl
  · rw [if_neg hname, hentered.held_update_of_ne hleads hname,
      hsound.held_update_of_ne hleads hname, held_find]

end Registry

/-! ## What is counted -/

namespace Host

/-- The host after an operation. -/
def perform (host : Host) : Operation → Host
  | .register name worker => (host.register name worker).1
  | .count _ => host
  | .clear name => host.clear name
  | .watch name => (host.watch? name).1

/-- A shared registry after a history of operations, the first of them first. -/
def usedAs (history : List Operation) : Host := history.foldl perform (shared {})

theorem usedAs_concat (history : List Operation) (operation : Operation) :
    usedAs (history ++ [operation]) = (usedAs history).perform operation :=
  List.foldl_concat ..

/-- The workers under each name of a shared registry are the roll of the name, each of them once. -/
def Keeps (host : Host) (history : List Operation) : Prop :=
  ∃ registry : Registry, host = shared registry ∧ registry.Made ∧
    ∀ name, (registry.workers name).toFinset = Operation.roll name history

variable {host : Host} {history : List Operation}

theorem keeps_nil : (shared {}).Keeps [] := ⟨{}, rfl, .empty, fun _ => rfl⟩

/-- Every operation keeps this. -/
theorem Keeps.perform (h : host.Keeps history) (operation : Operation) :
    (host.perform operation).Keeps (history ++ [operation]) := by
  rcases h with ⟨registry, rfl, hmade, hroll⟩
  cases operation with
  | register called worker =>
    refine ⟨(registry.register called worker).1, rfl, hmade.made_register called worker,
      fun name => ?_⟩
    rw [Registry.workers_eq_held, hmade.sound.held_register]
    by_cases hname : name = called
    · rw [hname, if_pos rfl, ← Registry.workers_eq_held, Operation.roll_concat_register,
        ← hroll called]
      ext other
      simp
    · rw [if_neg hname, ← Registry.workers_eq_held, hroll,
        Operation.roll_concat_of_ne (Ne.symm hname)]
  | count called =>
    refine ⟨registry, rfl, hmade, fun name => ?_⟩
    rw [hroll, Operation.roll_concat_of_none Operation.noConfusion fun _ => rfl]
  | clear called =>
    refine ⟨registry.clear called, rfl, .clear called hmade, fun name => ?_⟩
    rw [Registry.workers_eq_held, Registry.held_clear]
    by_cases hname : name = called
    · rw [hname, if_pos rfl, Operation.roll_concat_clear]
      rfl
    · rw [if_neg hname, ← Registry.workers_eq_held, hroll,
        Operation.roll_concat_of_ne (Ne.symm hname)]
  | watch called =>
    refine ⟨(registry.find called).1, rfl, .find called hmade, fun name => ?_⟩
    rw [Registry.workers_eq_held, Registry.held_find, ← Registry.workers_eq_held, hroll,
      Operation.roll_concat_of_none Operation.noConfusion fun _ => rfl]

/-- Whatever was done with a shared registry, the workers under each name are its roll. -/
theorem keeps_usedAs (history : List Operation) : (usedAs history).Keeps history := by
  induction history using List.reverseRecOn with
  | nil => exact keeps_nil
  | append_singleton history operation ih =>
    rw [usedAs_concat]
    exact ih.perform operation

theorem Keeps.registered_eq (h : host.Keeps history) (name : String) :
    host.registered name = (Operation.roll name history).card := by
  rcases h with ⟨registry, rfl, hmade, hroll⟩
  rw [← hroll name, List.toFinset_card_of_nodup (hmade.nodup name)]
  rfl

/-- The answer to a registration counts the worker with those on the roll. -/
theorem Keeps.register_eq (h : host.Keeps history) (name : String) (worker : UInt32) :
    (host.register name worker).2 = .ok (insert worker (Operation.roll name history)).card := by
  have hafter := (h.perform (.register name worker)).registered_eq name
  rw [Operation.roll_concat_register] at hafter
  rw [← hafter]
  rcases h with ⟨registry, rfl, hmade, -⟩
  exact congrArg Except.ok (hmade.register name worker).2

/-- After any history of a shared registry, as many workers are registered under a name as the
history has registered under it since it was cleared last, and a registration is answered by the
number of these and its worker.  Nothing that is done under one name changes the count of
another; a worker that is registered again changes no count; and it does not matter in which order
and how often workers are registered while the name is not cleared. -/
theorem registered_eq_card_roll (history : List Operation) (name : String) :
    (usedAs history).registered name = (Operation.roll name history).card ∧
      (∀ worker, ((usedAs history).register name worker).2 =
        .ok (insert worker (Operation.roll name history)).card) ∧
      (∀ operation : Operation, operation.name ≠ name →
        ((usedAs history).perform operation).registered name =
          (usedAs history).registered name) ∧
      (∀ worker ∈ Operation.roll name history,
        ((usedAs history).register name worker).2 =
            .ok ((usedAs history).registered name) ∧
          ∀ other, ((usedAs history).register name worker).1.registered other =
            (usedAs history).registered other) ∧
      (∀ middle again late : List Operation,
        .clear name ∉ middle → .clear name ∉ again →
          (∀ worker, worker ∈ Operation.registrations name middle ↔
            worker ∈ Operation.registrations name again) →
          (usedAs (history ++ middle ++ late)).registered name =
            (usedAs (history ++ again ++ late)).registered name) := by
  have hkeeps := keeps_usedAs history
  have hcount := hkeeps.registered_eq name
  refine ⟨hcount, hkeeps.register_eq name, ?_, ?_, ?_⟩
  · intro operation hother
    rw [(hkeeps.perform operation).registered_eq, Operation.roll_concat_of_ne hother, hcount]
  · intro worker hworker
    have hsame : insert worker (Operation.roll name history) = Operation.roll name history :=
      Finset.insert_eq_of_mem hworker
    constructor
    · rw [hkeeps.register_eq, hsame, hcount]
    · intro other
      have hafter := (hkeeps.perform (.register name worker)).registered_eq other
      refine hafter.trans ?_
      rw [hkeeps.registered_eq other]
      by_cases hother : name = other
      · rw [← hother, Operation.roll_concat_register, hsame]
      · have hname : (Operation.register name worker).name ≠ other := hother
        rw [Operation.roll_concat_of_ne hname]
  · intro middle again late hmiddle hagain hworkers
    have hset : (Operation.registrations name middle).toFinset =
        (Operation.registrations name again).toFinset := by
      ext worker
      simpa using hworkers worker
    have hroll : Operation.roll name (history ++ middle) =
        Operation.roll name (history ++ again) := by
      rw [Operation.roll_append hmiddle, Operation.roll_append hagain, hset]
    rw [(keeps_usedAs _).registered_eq, (keeps_usedAs _).registered_eq,
      Operation.roll_append_congr hroll late]

/-- Before the name was cleared a worker was registered, and after that two others, while somebody
looked another name up. -/
theorem registered_eq_card_roll_cleared :
    ∃ history : List Operation,
      history = [.register "b" 0, .clear "b", .register "b" 2, .watch "c", .register "b" 5] ∧
      (usedAs history).registered "b" = 2 ∧
      ((Operation.clear "c").name ≠ "b" ∧
        ((usedAs history).perform (.clear "c")).registered "b" = (usedAs history).registered "b") ∧
      (2 ∈ Operation.roll "b" history ∧
        ((usedAs history).register "b" 2).2 = .ok ((usedAs history).registered "b")) ∧
      (usedAs (history ++ [.register "b" 7, .register "b" 9] ++ [])).registered "b" =
        (usedAs (history ++ [.register "b" 9, .register "b" 7, .register "b" 9] ++ [])).registered
          "b" := by
  refine ⟨_, rfl, ?_⟩
  have hrolls := registered_eq_card_roll
    [.register "b" 0, .clear "b", .register "b" 2, .watch "c", .register "b" 5] "b"
  rcases hrolls with ⟨hcount, -, hothers, hagain, hreordered⟩
  have hother : (Operation.clear "c").name ≠ "b" := by decide
  have hworker : 2 ∈ Operation.roll "b"
      [.register "b" 0, .clear "b", .register "b" 2, .watch "c", .register "b" 5] := by decide
  refine ⟨hcount, ⟨hother, hothers _ hother⟩, ⟨hworker, (hagain 2 hworker).1⟩, ?_⟩
  apply hreordered
  · decide
  · decide
  · intro worker
    simp [Operation.registrations, Operation.worker?, or_comm]
    exact .inr

end Host

end KeyIndex.Rendezvous
