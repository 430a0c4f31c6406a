import KeyIndex.Rendezvous.Guest

/-!
# Gatherings

A venue and the guests that are there, each under a name of its own.  A guest makes
progress only when it is looked after, and stays where it waits until then.

Main definitions:

- `Gathering.waitAll`: some meetings, attended at the same time and to the end.
- `Gathering.welcome`, `Gathering.poll`, `Gathering.dismiss`: one guest at a time.
-/

namespace KeyIndex.Rendezvous

/-- A venue and its guests. -/
structure Gathering where
  venue : Venue
  guests : List (String × Guest) := []

namespace Gathering

/-- Registers a worker under a name. -/
def register (gathering : Gathering) (name : String) (worker : UInt32) :
    Gathering × Except Failure Nat :=
  let (venue, answer) := gathering.venue.enter name worker
  ({ gathering with venue }, answer)

/-- Forgets a name. -/
def clear (gathering : Gathering) (name : String) : Gathering :=
  { gathering with venue := gathering.venue.clear name }

/-- Attends some meetings at the same time until all of them are over.  The results
are in the order of the meetings; one that is never over has none. -/
def waitAll (gathering : Gathering) (meetings : List Meeting) :
    Gathering × List (Option (Except Failure Unit)) :=
  let (venue, guests) := Actor.run gathering.venue (meetings.map Guest.ofMeeting)
  ({ gathering with venue }, guests.map (·.result?))

/-- The gathering without a guest. -/
def without (gathering : Gathering) (id : String) : Gathering :=
  { gathering with guests := gathering.guests.filter (·.1 ≠ id) }

/-- A guest comes, and does nothing yet. -/
def welcome (gathering : Gathering) (id : String) (guest : Guest) : Gathering :=
  let gathering := gathering.without id
  { gathering with guests := (id, guest) :: gathering.guests }

/-- What comes of a guest. -/
inductive Progress where
  /-- There is no such guest. -/
  | unknown
  /-- It has to wait. -/
  | pending
  /-- It has its result, and is gone. -/
  | finished (result : Except Failure Unit)

/-- Looks after a guest until it has to wait or has its result. -/
def poll (gathering : Gathering) (id : String) : Gathering × Progress :=
  match gathering.guests.lookup id with
  | none => (gathering, .unknown)
  | some guest =>
    let (venue, guest, _) := Actor.turn (Actor.acts guest) gathering.venue guest
    let gathering := { gathering with venue }
    match guest.result? with
    | some result => (gathering.without id, .finished result)
    | none => (gathering.welcome id guest, .pending)

/-- Sends a guest away.  The result is whether it was there. -/
def dismiss (gathering : Gathering) (id : String) : Gathering × Bool :=
  (gathering.without id, (gathering.guests.lookup id).isSome)

end Gathering

end KeyIndex.Rendezvous
