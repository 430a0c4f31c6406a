/-!
# The registry of a rendezvous

The workers of a job meet under a name.  A slot holds who has registered, and the
count that those who wait look at.  A name leads to a slot from the first time that
it is used until it is cleared; who found a slot keeps it, so a slot outlives its
name.

Main definitions:

- `Slot.enter`, `Slot.publish`: the two steps of a registration.
- `Registry.register`, `Registry.registered`, `Registry.clear`: what is done by name.
-/

namespace KeyIndex.Rendezvous

/-- Who has registered, each worker once, and the count that is published. -/
structure Slot where
  workers : List UInt32 := []
  published : Nat := 0
deriving DecidableEq, Inhabited

namespace Slot

/-- The number of workers. -/
def size (slot : Slot) : Nat := slot.workers.length

/-- Enters a worker.  A worker that is there already changes nothing. -/
def enter (slot : Slot) (worker : UInt32) : Slot :=
  { slot with workers := slot.workers.insert worker }

/-- Who is in a slot after a worker has been entered. -/
@[simp] theorem mem_enter (slot : Slot) (worker other : UInt32) :
    other ∈ (slot.enter worker).workers ↔ other = worker ∨ other ∈ slot.workers := by
  simp [enter]

/-- Publishes a count. -/
def publish (slot : Slot) (count : Nat) : Slot := { slot with published := count }

end Slot

/-- The number of a slot, in the order in which the slots were made. -/
abbrev SlotId := Nat

/-- All slots that were ever made, and where the names lead. -/
structure Registry where
  slots : List Slot := []
  names : List (String × SlotId) := []
deriving DecidableEq, Inhabited

namespace Registry

/-- The slot with a number. -/
def slot (registry : Registry) (id : SlotId) : Slot := registry.slots.getD id {}

/-- The registry with a change to one slot. -/
def update (registry : Registry) (id : SlotId) (change : Slot → Slot) : Registry :=
  { registry with slots := registry.slots.modify id change }

/-- The slot that a name leads to, which is made if there is none. -/
def find (registry : Registry) (name : String) : Registry × SlotId :=
  match registry.names.lookup name with
  | some id => (registry, id)
  | none =>
    let id := registry.slots.length
    (⟨registry.slots ++ [{}], (name, id) :: registry.names⟩, id)

/-- Enters a worker in a slot.  The result counts the workers in it then. -/
def enter (registry : Registry) (id : SlotId) (worker : UInt32) : Registry × Nat :=
  let registry := registry.update id (·.enter worker)
  (registry, (registry.slot id).size)

/-- Publishes a count in a slot. -/
def publish (registry : Registry) (id : SlotId) (count : Nat) : Registry :=
  registry.update id (·.publish count)

/-- The count that is published in a slot. -/
def published (registry : Registry) (id : SlotId) : Nat := (registry.slot id).published

/-- Registers a worker under a name.  The result counts the workers under it. -/
def register (registry : Registry) (name : String) (worker : UInt32) : Registry × Nat :=
  let (registry, id) := registry.find name
  let (registry, count) := registry.enter id worker
  (registry.publish id count, count)

/-- The workers that are registered under a name. -/
def workers (registry : Registry) (name : String) : List UInt32 :=
  match registry.names.lookup name with
  | some id => (registry.slot id).workers
  | none => []

/-- How many workers are registered under a name. -/
def registered (registry : Registry) (name : String) : Nat := (registry.workers name).length

/-- Forgets a name. -/
def clear (registry : Registry) (name : String) : Registry :=
  { registry with names := registry.names.filter (·.1 ≠ name) }

end Registry

end KeyIndex.Rendezvous
