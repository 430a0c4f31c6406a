import KeyIndex.Rendezvous.Host

/-!
# Venues

Where and when workers meet: a host and a clock.  The clock stands still while
somebody has something to do, and goes on to the next alarm when all rest.  Alarms go
off at whole milliseconds.

Main definitions:

- `Stay`: since when somebody waits, and the alarm that ends its rest.
- `Venue.register`, `Venue.rest?`: what one who waits does at a venue.
- `Actor`: one who takes turns with others; `Venue.run`: the turns of some actors,
  until all are done.
-/

namespace KeyIndex.Rendezvous

/-- A host and a clock, which shows nanoseconds. -/
structure Venue where
  host : Host := .shared {}
  now : Nat := 0
deriving Inhabited

/-- When a rest ends: at a time, or when the count in a slot is no more the one that
was seen. -/
structure Alarm where
  due : Nat
  watched : Option (SlotId × Nat)
deriving DecidableEq, Inhabited

/-- What a venue knows of one who waits. -/
structure Stay where
  began : Option Nat := none
  alarm : Option Alarm := none
deriving DecidableEq, Inhabited

/-- The nanoseconds between two times at which alarms go off. -/
def tick : Nat := 1000000

namespace Venue

/-- The first time at which an alarm can go off that is later than now and not before
the end of a rest. -/
def due (venue : Venue) (length : Nat) : Nat :=
  max ((venue.now + length + tick - 1) / tick) (venue.now / tick + 1) * tick

/-- Registers a worker under a name. -/
def enter (venue : Venue) (name : String) (worker : UInt32) : Venue × Except Failure Nat :=
  let (host, answer) := venue.host.register name worker
  ({ venue with host }, answer)

/-- Forgets a name. -/
def clear (venue : Venue) (name : String) : Venue :=
  { venue with host := venue.host.clear name }

/-- Registers one who waits.  The answer comes with the time since it began to wait. -/
def register (venue : Venue) (stay : Stay) (name : String) (worker : UInt32) :
    Venue × Stay × Except Failure Nat × Nat :=
  let began := stay.began.getD venue.now
  let (venue, answer) := venue.enter name worker
  (venue, { stay with began := some began }, answer, venue.now - began)

/-- Begins a rest.  With a count it also looks at the slot of the name. -/
def lieDown (venue : Venue) (stay : Stay) (name : String) (seen : Option Nat) (length : Nat) :
    Venue × Stay :=
  let due := venue.due length
  match seen with
  | none => (venue, { stay with alarm := some ⟨due, none⟩ })
  | some seen =>
    let (host, slot) := venue.host.watch? name
    ({ venue with host }, { stay with alarm := some ⟨due, slot.map (·, seen)⟩ })

/-- Whether an alarm goes off. -/
def rings (venue : Venue) (alarm : Alarm) : Bool :=
  alarm.due ≤ venue.now ||
    alarm.watched.any fun (slot, seen) => venue.host.published slot != seen

/-- One act of somebody that rests: it begins its rest, or its alarm goes off and it
does what comes `after`. -/
def rest? {σ : Type} (venue : Venue) (stay : Stay) (name : String) (seen : Option Nat)
    (length : Nat) (resting after : Stay → σ) : Option (Venue × σ) :=
  match stay.alarm with
  | none =>
    let (venue, stay) := venue.lieDown stay name seen length
    some (venue, resting stay)
  | some alarm =>
    if venue.rings alarm then some (venue, after { stay with alarm := none }) else none

end Venue

/-! ## Turns -/

/-- One who takes turns with others at a venue. -/
class Actor (σ : Type) where
  /-- One act; nothing if it is done or has to wait. -/
  act? : Venue → σ → Option (Venue × σ)
  /-- When its rest ends, if it rests. -/
  due? : σ → Option Nat
  /-- A number of acts that no turn of it has more of. -/
  acts : σ → Nat
  /-- How often it may rest until its time is up, when its registrations do nothing
  for it. -/
  rests : σ → Nat

namespace Actor

variable {σ : Type} [Actor σ]

/-- Acts as long as it can, at most `acts` times.  The last result is whether it did
anything. -/
def turn (acts : Nat) (venue : Venue) (actor : σ) : Venue × σ × Bool :=
  match acts with
  | 0 => (venue, actor, false)
  | acts + 1 =>
    match act? venue actor with
    | none => (venue, actor, false)
    | some (venue, actor) =>
      let (venue, actor, _) := turn acts venue actor
      (venue, actor, true)

/-- One turn of each of some actors.  The last result is whether any did anything. -/
def sweep (venue : Venue) : List σ → Venue × List σ × Bool
  | [] => (venue, [], false)
  | actor :: actors =>
    let (venue, actor, acted) := turn (acts actor) venue actor
    let (venue, actors, others) := sweep venue actors
    (venue, actor :: actors, acted || others)

/-- The next time at which a rest ends. -/
def nextDue (actors : List σ) : Option Nat := (actors.filterMap due?).min?

/-- Sweeps and lets the clock go on, at most `steps` times. -/
def runFor (steps : Nat) (venue : Venue) (actors : List σ) : Venue × List σ :=
  match steps with
  | 0 => (venue, actors)
  | steps + 1 =>
    let (venue, actors, acted) := sweep venue actors
    if acted then runFor steps venue actors
    else
      match nextDue actors with
      | none => (venue, actors)
      | some due => runFor steps { venue with now := max venue.now due } actors

/-- Steps that are enough for actors that do not wait for ever.  The clock goes on once
for each tick in which somebody rests until its time is up, or until a host has
given the answers that it gives only once; before it goes on again, each actor may
wake each other one. -/
def enoughSteps (venue : Venue) (actors : List σ) : Nat :=
  let rests := (actors.map rests).foldl (· + ·) venue.host.ownAnswers
  (rests + 2) * (actors.length + 3)

/-- The turns of some actors until all are done or wait for ever. -/
def run (venue : Venue) (actors : List σ) : Venue × List σ :=
  runFor (enoughSteps venue actors) venue actors

end Actor

end KeyIndex.Rendezvous
