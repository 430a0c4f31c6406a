import KeyIndex.Failure
import KeyIndex.Rendezvous.Registry

/-!
# Hosts

Where workers register: a registry that they share, the same behind a service that
is not available at first, or a list of answers that is given from the start.

Main definitions:

- `Host.register`: one registration, which may fail.
- `Host.watch?`: the slot whose count shows when something changes.
-/

namespace KeyIndex.Rendezvous

/-- Where workers register. -/
inductive Host where
  /-- A registry in the memory of all workers. -/
  | shared (registry : Registry)
  /-- A registry that refuses the next `refusals` registrations. -/
  | refusing (refusals : Nat) (registry : Registry)
  /-- Answers in order, of which `given` have been given; the last one repeats. -/
  | scripted (answers : List (Except Failure Nat)) (given : Nat)

namespace Host

instance : Inhabited Host := ⟨.shared {}⟩

/-- Registers a worker under a name. -/
def register (host : Host) (name : String) (worker : UInt32) :
    Host × Except Failure Nat :=
  match host with
  | shared registry =>
    let (registry, count) := registry.register name worker
    (shared registry, .ok count)
  | refusing 0 registry =>
    let (registry, count) := registry.register name worker
    (refusing 0 registry, .ok count)
  | refusing (refusals + 1) registry =>
    (refusing refusals registry, .error (.registry "coordinator unavailable"))
  | scripted answers given =>
    let answer := (answers[given]? <|> answers.getLast?).getD (.ok 0)
    (scripted answers (given + 1), answer)

/-- The slot that a worker looks at while it waits.  Only a shared registry shows
its slots; a name that leads to none gets one. -/
def watch? (host : Host) (name : String) : Host × Option SlotId :=
  match host with
  | shared registry =>
    let (registry, id) := registry.find name
    (shared registry, some id)
  | other => (other, none)

/-- The registry behind a host. -/
def registry : Host → Registry
  | shared registry => registry
  | refusing _ registry => registry
  | scripted .. => {}

/-- The count that is published in a slot. -/
def published (host : Host) (id : SlotId) : Nat :=
  host.registry.published id

/-- How many workers are registered under a name. -/
def registered (host : Host) (name : String) : Nat :=
  host.registry.registered name

/-- Forgets a name. -/
def clear (host : Host) (name : String) : Host :=
  match host with
  | shared registry => shared (registry.clear name)
  | refusing refusals registry => refusing refusals (registry.clear name)
  | scripted answers given => scripted answers given

/-- How many registrations get an answer of their own, that is not the count of a
registry and not the last one repeated. -/
def ownAnswers : Host → Nat
  | shared _ => 0
  | refusing refusals _ => refusals
  | scripted answers given => answers.length - given

end Host

end KeyIndex.Rendezvous
