import KeyIndex.Rendezvous.Registry
import Mathlib.Data.Finset.Card
import Mathlib.Data.List.Lemmas

/-!
# What registries do

A registry that has been made by its own operations leads each name to a slot of its
own.  To look a name up adds at most one slot, which is empty; to enter a worker changes
the one slot; to publish a count and to clear a name change who is in no slot.

Main results:

- Definition `Registry.Made`: registries that were made by their operations.
- Theorem `Registry.Made.sound`: in such a registry no two names lead to one slot.
- Theorems `Registry.mem_names_find`, `Registry.find_old_or_new`, `Registry.slot_find`,
  `Registry.slot_enter`: what the operations change.
- Theorem `mem_of_length_le`: where as many workers are as there are, there is each.
-/

namespace KeyIndex.Rendezvous

namespace Registry

variable {registry : Registry} {name called : String} {id other : SlotId}

/-! ## Looking up a name -/

/-- A name that is looked up leads to a slot, or it is new. -/
theorem find_cases (registry : Registry) (name : String) :
    (name, (registry.find name).2) ∈ registry.names ∧ (registry.find name).1 = registry ∨
      (∀ entry ∈ registry.names, entry.1 ≠ name) ∧
        (registry.find name).2 = registry.slots.length ∧
        (registry.find name).1 =
          ⟨registry.slots ++ [({} : Slot)], (name, registry.slots.length) :: registry.names⟩ := by
  unfold find
  cases hlookup : registry.names.lookup name with
  | none =>
    refine .inr ⟨?_, rfl, rfl⟩
    rintro entry hentry rfl
    simpa using List.lookup_eq_none_iff.mp hlookup entry hentry
  | some id =>
    rcases List.lookup_eq_some_iff.mp hlookup with ⟨before, after, hnames, -⟩
    refine .inl ⟨?_, rfl⟩
    rw [hnames]
    simp

/-- The names after a look-up are the names before it, and the one that was looked up. -/
theorem mem_names_find {entry : String × SlotId} :
    entry ∈ (registry.find name).1.names ↔
      entry ∈ registry.names ∨ entry = (name, (registry.find name).2) := by
  rcases find_cases registry name with ⟨hmem, hsame⟩ | ⟨-, hnew, hadded⟩
  · rw [hsame]
    constructor
    · exact .inl
    · rintro (hentry | rfl)
      · exact hentry
      · exact hmem
  · rw [hadded, hnew, List.mem_cons]
    exact or_comm

/-- A name that is looked up leads to the slot already, or to a new slot. -/
theorem find_old_or_new (registry : Registry) (name : String) :
    (name, (registry.find name).2) ∈ registry.names ∨
      (registry.find name).2 = registry.slots.length := by
  rcases find_cases registry name with ⟨hmem, -⟩ | ⟨-, hnew, -⟩
  · exact .inl hmem
  · exact .inr hnew

/-- To look a name up changes no slot, and a new slot is empty. -/
@[simp] theorem slot_find (registry : Registry) (name : String) (id : SlotId) :
    (registry.find name).1.slot id = registry.slot id := by
  rcases find_cases registry name with ⟨-, hsame⟩ | ⟨-, -, hadded⟩
  · rw [hsame]
  · rw [hadded, slot, slot, List.getD_eq_getElem?_getD, List.getD_eq_getElem?_getD,
      List.getElem?_append]
    split
    · rfl
    · rename_i hlength
      rw [List.getElem?_eq_none (Nat.not_lt.mp hlength), List.getElem?_singleton]
      split <;> rfl

theorem length_le_find (registry : Registry) (name : String) :
    registry.slots.length ≤ (registry.find name).1.slots.length := by
  rcases find_cases registry name with ⟨-, hsame⟩ | ⟨-, -, hadded⟩
  · rw [hsame]
  · rw [hadded, List.length_append]
    exact Nat.le_add_right _ _

/-- A slot that was not made is empty. -/
theorem slot_of_length_le (h : registry.slots.length ≤ id) : registry.slot id = {} := by
  rw [slot, List.getD_eq_getElem?_getD, List.getElem?_eq_none h]
  rfl

/-- The slot that a name leads to; an empty one if it leads to none. -/
def held (registry : Registry) (name : String) : Slot :=
  match registry.names.lookup name with
  | some id => registry.slot id
  | none => {}

/-- Who is registered under a name is in its slot. -/
theorem workers_eq_held (registry : Registry) (name : String) :
    registry.workers name = (registry.held name).workers := by
  unfold workers held
  cases registry.names.lookup name with
  | none => rfl
  | some id => rfl

/-- The count that one sees who looks a name up, which makes a slot if there is none. -/
def shown (registry : Registry) (name : String) : Nat :=
  (registry.find name).1.published (registry.find name).2

/-- A new slot shows zero, and every other one the count that is published in it. -/
theorem shown_eq_held (registry : Registry) (name : String) :
    registry.shown name = (registry.held name).published := by
  rw [shown, published, slot_find, held, find]
  cases registry.names.lookup name with
  | none => rw [slot_of_length_le le_rfl]
  | some id => rfl

/-- To look a name up changes the slot of no name: a new slot is empty. -/
@[simp] theorem held_find (registry : Registry) (called name : String) :
    (registry.find called).1.held name = registry.held name := by
  cases hlookup : registry.names.lookup called with
  | some id => simp [find, hlookup]
  | none =>
    have hslot : ∀ id, (registry.find called).1.slot id = registry.slot id := slot_find _ _
    have hnames : (registry.find called).1.names =
        (called, registry.slots.length) :: registry.names := by
      simp [find, hlookup]
    unfold held
    rw [hnames, List.lookup_cons]
    by_cases hsame : name = called
    · subst hsame
      simp [hlookup, hslot, slot_of_length_le le_rfl]
    · have hother : (name == called) = false := by simpa using hsame
      rw [hother]
      cases registry.names.lookup name with
      | none => rfl
      | some id => exact hslot id

/-! ## Changing a slot -/

@[simp] theorem length_update (registry : Registry) (id : SlotId) (change : Slot → Slot) :
    (registry.update id change).slots.length = registry.slots.length := by
  simp [update]

@[simp] theorem names_update (registry : Registry) (id : SlotId) (change : Slot → Slot) :
    (registry.update id change).names = registry.names := rfl

/-- A change of one slot changes that slot, and no other. -/
theorem slot_update (h : id < registry.slots.length) (change : Slot → Slot) (other : SlotId) :
    (registry.update id change).slot other =
      if other = id then change (registry.slot id) else registry.slot other := by
  rw [slot, slot, slot, update, List.getD_eq_getElem?_getD, List.getElem?_modify]
  by_cases hother : other = id
  · subst hother
    simp [h]
  · simp [hother, Ne.symm hother]

/-- After a worker has been entered in a slot, it is there in addition to those before. -/
theorem slot_enter (h : id < registry.slots.length) (worker : UInt32) (other : SlotId) :
    (registry.enter id worker).1.slot other =
      if other = id then (registry.slot id).enter worker else registry.slot other :=
  slot_update h _ other

/-- To publish a count changes who is in no slot. -/
@[simp] theorem workers_publish (registry : Registry) (id : SlotId) (count : Nat)
    (other : SlotId) :
    ((registry.publish id count).slot other).workers = (registry.slot other).workers := by
  by_cases h : id < registry.slots.length
  · rw [publish, slot_update h]
    split
    · rename_i heq
      rw [heq]
      rfl
    · rfl
  · rw [publish, update, List.modify_eq_self (Nat.not_lt.mp h)]

/-- To clear a name changes no slot. -/
@[simp] theorem slot_clear (registry : Registry) (name : String) (id : SlotId) :
    (registry.clear name).slot id = registry.slot id := rfl

theorem mem_names_of_clear {entry : String × SlotId} (h : entry ∈ (registry.clear name).names) :
    entry ∈ registry.names :=
  List.mem_of_mem_filter h

/-! ## Registries made by their operations -/

/-- A registry that was made by some operations, in any order. -/
inductive Made : Registry → Prop where
  | empty : Made {}
  | find {registry : Registry} (name : String) : Made registry → Made (registry.find name).1
  | enter {registry : Registry} (id : SlotId) (worker : UInt32) :
      Made registry → Made (registry.enter id worker).1
  | publish {registry : Registry} (id : SlotId) (count : Nat) :
      Made registry → Made (registry.publish id count)
  | clear {registry : Registry} (name : String) : Made registry → Made (registry.clear name)

/-- Each name leads to one slot that was made, and no two of them to the same one. -/
structure Sound (registry : Registry) : Prop where
  made : ∀ entry ∈ registry.names, entry.2 < registry.slots.length
  apart : ∀ entry ∈ registry.names, ∀ other ∈ registry.names,
    entry.1 = other.1 ↔ entry.2 = other.2

/-- A name that leads to a slot has that slot. -/
theorem Sound.held_eq (h : registry.Sound) (hmem : (name, id) ∈ registry.names) :
    registry.held name = registry.slot id := by
  unfold held
  split
  · rename_i found hlookup
    rcases List.lookup_eq_some_iff.mp hlookup with ⟨before, after, hnames, -⟩
    have hfound : (name, found) ∈ registry.names := by simp [hnames]
    have hsame : found = id := (h.apart _ hfound _ hmem).mp rfl
    rw [hsame]
  · rename_i hlookup
    have hnone := List.lookup_eq_none_iff.mp hlookup _ hmem
    simp at hnone

/-- Who is registered under a name is in the slot that it leads to. -/
theorem Sound.workers_eq (h : registry.Sound) (hmem : (name, id) ∈ registry.names) :
    registry.workers name = (registry.slot id).workers := by
  rw [workers_eq_held, h.held_eq hmem]

/-- To look a name up keeps the names apart: a new slot is one that no name leads to. -/
theorem Sound.find (h : registry.Sound) (name : String) : (registry.find name).1.Sound := by
  rcases find_cases registry name with ⟨-, hsame⟩ | ⟨hnew, -, hadded⟩
  · rw [hsame]
    exact h
  · rw [hadded]
    constructor
    · intro entry hentry
      rw [List.length_append]
      rcases List.mem_cons.mp hentry with rfl | hentry
      · exact Nat.lt_succ_self _
      · exact Nat.lt_add_right _ (h.made entry hentry)
    · intro entry hentry other hother
      rcases List.mem_cons.mp hentry with rfl | hentry
      · rcases List.mem_cons.mp hother with rfl | hother
        · exact iff_of_true rfl rfl
        · exact iff_of_false (hnew other hother).symm (h.made other hother).ne'
      · rcases List.mem_cons.mp hother with rfl | hother
        · exact iff_of_false (hnew entry hentry) (h.made entry hentry).ne
        · exact h.apart entry hentry other hother

theorem Sound.update (h : registry.Sound) (id : SlotId) (change : Slot → Slot) :
    (registry.update id change).Sound := by
  refine ⟨fun entry hentry => ?_, h.apart⟩
  rw [length_update]
  exact h.made entry hentry

/-- A change to the slot of a name changes what the name has. -/
theorem Sound.held_update (h : registry.Sound) (hmem : (name, id) ∈ registry.names)
    (change : Slot → Slot) :
    (registry.update id change).held name = change (registry.held name) := by
  rw [(h.update id change).held_eq hmem, h.held_eq hmem, slot_update (h.made _ hmem), if_pos rfl]

theorem Sound.clear (h : registry.Sound) (name : String) : (registry.clear name).Sound :=
  ⟨fun entry hentry => h.made entry (mem_names_of_clear hentry),
    fun entry hentry other hother =>
      h.apart entry (mem_names_of_clear hentry) other (mem_names_of_clear hother)⟩

/-- Whatever was done with a registry, no two names lead to one slot. -/
theorem Made.sound (h : registry.Made) : registry.Sound := by
  induction h with
  | empty =>
    constructor
    · simp
    · simp
  | find name _ ih => exact ih.find name
  | enter id worker _ ih => exact ih.update id _
  | publish id count _ ih => exact ih.update id _
  | clear name _ ih => exact ih.clear name

end Registry

/-! ## Counting workers -/

/-- Of some workers below a number there are at least as many as the number, each of them
once: then there is each worker below the number. -/
theorem mem_of_length_le {present : List UInt32} {workers : UInt32} (hnodup : present.Nodup)
    (hlt : ∀ worker ∈ present, worker < workers) (hlength : workers.toNat ≤ present.length)
    {index : UInt32} (hindex : index < workers) : index ∈ present := by
  have hnumbers : (present.map UInt32.toNat).Nodup :=
    hnodup.map fun _ _ => UInt32.toNat_inj.mp
  have hsub : (present.map UInt32.toNat).toFinset ⊆ Finset.range workers.toNat := by
    intro number hnumber
    rcases List.mem_map.mp (List.mem_toFinset.mp hnumber) with ⟨worker, hworker, rfl⟩
    exact Finset.mem_range.mpr (UInt32.lt_iff_toNat_lt.mp (hlt worker hworker))
  have hcard : (Finset.range workers.toNat).card ≤ (present.map UInt32.toNat).toFinset.card := by
    rw [Finset.card_range, List.toFinset_card_of_nodup hnumbers, List.length_map]
    exact hlength
  have hall := Finset.eq_of_subset_of_card_le hsub hcard
  have hmem : index.toNat ∈ (present.map UInt32.toNat).toFinset := by
    rw [hall, Finset.mem_range]
    exact UInt32.lt_iff_toNat_lt.mp hindex
  rcases List.mem_map.mp (List.mem_toFinset.mp hmem) with ⟨worker, hworker, heq⟩
  rwa [← UInt32.toNat_inj.mp heq]

end KeyIndex.Rendezvous
