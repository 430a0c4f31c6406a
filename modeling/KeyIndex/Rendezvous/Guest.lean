import KeyIndex.Rendezvous.Meeting
import KeyIndex.Rendezvous.Venue

/-!
# Guests

One who waits at a venue: for all workers of a meeting, or for one change of a
count.

Main definitions:

- `Guest`: who waits, and how far it is.
- an instance of `Actor`, so that guests take turns.
-/

namespace KeyIndex.Rendezvous

/-- What a guest waits for. -/
inductive Aim where
  /-- For all workers of a meeting. -/
  | meeting (meeting : Meeting) (wait : Wait)
  /-- For a change of the count `seen` under a name, for some time at most. -/
  | change (name : String) (seen : Nat) (length : Nat)
  /-- For nothing: it has its result. -/
  | none (result : Except Failure Unit)

/-- One who waits. -/
structure Guest where
  aim : Aim
  stay : Stay := {}

namespace Guest

/-- One who comes to a meeting. -/
def ofMeeting (meeting : Meeting) : Guest := ⟨.meeting meeting (.arriving 0), {}⟩

/-- One who waits for a change. -/
def ofChange (name : String) (seen : Nat) (length : Nat) : Guest :=
  ⟨.change name seen length, {}⟩

/-- The result of a guest that waits no more. -/
def result? (guest : Guest) : Option (Except Failure Unit) :=
  match guest.aim with
  | .none result => some result
  | _ => none

/-- The next act of a guest; nothing if it rests or waits no more. -/
def act? (venue : Venue) (guest : Guest) : Option (Venue × Guest) :=
  match guest.aim with
  | .meeting meeting (.arriving seen) =>
    let (venue, stay, answer, elapsed) := venue.register guest.stay meeting.name meeting.worker
    some (venue, ⟨.meeting meeting (meeting.round seen answer elapsed), stay⟩)
  | .meeting meeting (.resting seen watching length) =>
    venue.rest? guest.stay meeting.name (if watching then some seen else none) length
      (⟨guest.aim, ·⟩) (⟨.meeting meeting (.arriving seen), ·⟩)
  | .meeting _ (.over result) => some (venue, ⟨.none result, {}⟩)
  | .change name seen length =>
    venue.rest? guest.stay name (some seen) length (⟨guest.aim, ·⟩) (⟨.none (.ok ()), ·⟩)
  | .none _ => none

/-- Guests take turns.  In a turn a guest wakes up, registers, and lies down or has its
result. -/
instance : Actor Guest where
  act? := act?
  due? guest := guest.stay.alarm.map (·.due)
  acts _ := 5
  rests guest :=
    match guest.aim with
    | .meeting meeting _ => (meeting.timeout.getD 0) / tick + 1
    | _ => 1

end Guest

end KeyIndex.Rendezvous
