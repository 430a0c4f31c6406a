import KeyIndex.Failure
import KeyIndex.Table.Basic

/-!
# Outlets

Where a worker sends its output.  An outlet may take everything, or a number of
items after which it is closed, or it is a channel: a queue with a number of slots,
from which a receiver takes what was sent, first in, first out.  To send into a
channel that is full is to wait; without a receiver it is closed.

Main definitions:

- `Item`: what is sent.
- `Outlet.offer`: what an outlet does with an item.
- `Outlet.receive`, `Outlet.close`: what the receiver of a channel does.
- `Sink`: whatever takes items; an outlet is one.
- `Emitter`: hands index entries to a sink and counts those that were taken.
- `Sender`: an emitter with its outlet.
-/

namespace KeyIndex

/-- An item of output: an entry of the index, or an element that is passed on. -/
inductive Item (α : Type) where
  | entry (entry : IndexEntry)
  | element (element : α)
deriving DecidableEq, Inhabited

/-- What an outlet takes. -/
inductive Intake where
  /-- Everything. -/
  | everything
  /-- So many items more. -/
  | limited (room : Nat)
  /-- As many as there are slots at a time, while there is a receiver. -/
  | channel (slots : Nat) (isOpen : Bool)
deriving DecidableEq, Inhabited

/-- An outlet, with the items that wait in the slots of its channel and those that
have arrived at the other end. -/
structure Outlet (α : Type) where
  intake : Intake
  waiting : List (Item α) := []
  arrived : List (Item α) := []
deriving DecidableEq, Inhabited

/-- What an outlet does with an item. -/
inductive Offer (α : Type) where
  | taken (outlet : Outlet α)
  /-- The outlet is closed. -/
  | refused
  /-- There is no free slot. -/
  | full

namespace Outlet

variable {α : Type}

/-- Everything that the outlet has taken, in order. -/
def taken (outlet : Outlet α) : List (Item α) := outlet.arrived ++ outlet.waiting

/-- The receiver takes everything that waits. -/
def receive (outlet : Outlet α) : Outlet α :=
  { outlet with waiting := [], arrived := outlet.taken }

/-- An item arrives without waiting. -/
def arrive (outlet : Outlet α) (item : Item α) : Outlet α :=
  { outlet with waiting := [], arrived := outlet.taken ++ [item] }

/-- Offers an item to an outlet. -/
def offer (outlet : Outlet α) (item : Item α) : Offer α :=
  match outlet.intake with
  | .everything => .taken (outlet.arrive item)
  | .limited 0 => .refused
  | .limited (room + 1) => .taken { outlet.arrive item with intake := .limited room }
  | .channel slots isOpen =>
    if !isOpen then .refused
    else if outlet.waiting.length < slots then
      .taken { outlet with waiting := outlet.waiting ++ [item] }
    else .full

/-- The receiver of a channel goes away, and what waits for it is lost.  Other
outlets have none. -/
def close (outlet : Outlet α) : Outlet α :=
  match outlet.intake with
  | .channel slots _ => { outlet with intake := .channel slots false, waiting := [] }
  | _ => outlet

/-- Forgets what has arrived. -/
def cleared (outlet : Outlet α) : Outlet α := { outlet with arrived := [] }

/-- To receive what waits changes nothing in what was taken. -/
@[simp] theorem taken_receive (outlet : Outlet α) : outlet.receive.taken = outlet.taken := by
  simp [taken, receive]

@[simp] theorem taken_arrive (outlet : Outlet α) (item : Item α) :
    (outlet.arrive item).taken = outlet.taken ++ [item] := by
  simp [taken, arrive]

/-- An item that is taken comes after all that were taken before. -/
theorem taken_of_offer {outlet after : Outlet α} {item : Item α}
    (h : outlet.offer item = .taken after) : after.taken = outlet.taken ++ [item] := by
  unfold offer at h
  split at h
  · cases h
    simp
  · cases h
  · cases h
    simp [taken, arrive]
  · split at h
    · cases h
    · split at h
      · cases h
        simp [taken]
      · cases h

end Outlet

/-! ## Sinks -/

/-- Something that items are handed to, one after another.  An attempt to hand over an item ends
with success or with a failure, or the item is to be offered again later. -/
class Sink (σ : Type) (α : outParam Type) where
  collect : σ → Item α → σ × Option (Except Failure Unit)

/-- An outlet has a sender wait while there is no free slot. -/
instance {α : Type} : Sink (Outlet α) α where
  collect outlet item :=
    match outlet.offer item with
    | .taken after => (after, some (.ok ()))
    | .refused => (outlet, some (.error .outputClosed))
    | .full => (outlet, none)

theorem Outlet.collect_of_taken {α : Type} {outlet after : Outlet α} {item : Item α}
    (h : outlet.offer item = .taken after) : Sink.collect outlet item = (after, some (.ok ())) := by
  simp only [Sink.collect, h]

theorem Outlet.collect_of_refused {α : Type} {outlet : Outlet α} {item : Item α}
    (h : outlet.offer item = .refused) :
    Sink.collect outlet item = (outlet, some (.error .outputClosed)) := by
  simp only [Sink.collect, h]

theorem Outlet.collect_of_full {α : Type} {outlet : Outlet α} {item : Item α}
    (h : outlet.offer item = .full) : Sink.collect outlet item = (outlet, none) := by
  simp only [Sink.collect, h]

/-! ## Sending index entries -/

/-- Hands the entries of keys to a sink, and counts those that it took.  The count is a
natural number: a machine word of 64 bits is not exhausted by entries that are handed
over one by one. -/
structure Emitter where
  sent : Nat := 0
deriving DecidableEq, Inhabited

/-- Attempts to hand over the entry of a key that is alive in a slice. -/
def Emitter.emit {σ α : Type} [Sink σ α] (emitter : Emitter) (key : RecordKey) (slice : FileSlice)
    (sink : σ) : Emitter × σ × Option (Except Failure Unit) :=
  match Sink.collect sink (.entry (.of key slice)) with
  | (sink, some (.ok ())) => (⟨emitter.sent + 1⟩, sink, some (.ok ()))
  | (sink, answer) => (emitter, sink, answer)

/-- An emitter with its outlet. -/
structure Sender (α : Type) where
  outlet : Outlet α
  sent : Nat := 0
deriving DecidableEq, Inhabited

/-- Sends the entry of a key that is alive in a slice.  Nothing if that is to wait. -/
def Sender.send? {α : Type} (sender : Sender α) (key : RecordKey) (slice : FileSlice) :
    Option (Sender α × Except Failure Unit) :=
  match Emitter.emit ⟨sender.sent⟩ key slice sender.outlet with
  | (emitter, outlet, some result) => some (⟨outlet, emitter.sent⟩, result)
  | (_, _, none) => none

end KeyIndex
