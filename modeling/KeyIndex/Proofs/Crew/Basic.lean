import KeyIndex.Proofs.Rendezvous.Registry
import KeyIndex.Proofs.Worker.Make
import KeyIndex.Proofs.Worker.Next
import Mathlib.Logic.Function.Basic
import Mathlib.Logic.Relation

/-!
# Crews

The workers of a job that share a registry, each of them acting by itself.  Their steps
may come in any order, and every reply from outside may be any: that of a table, of an
output, or of a clock.  A registration is taken apart into what it does one after another,
so that others can come between: the slot of the name is looked up, the worker is entered
in the slot that was found, and the count is published.  At any time names may be cleared
or looked up, and registrations under other names may be made.

Main definitions:

- `Member`: a worker, all its exchanges so far, and how far its registration is.
- `Crew.Step`: one step of a crew.
- `Crew.Starts`: a crew before its first step.
- `Member.HasLoaded`, `Member.HasSentShare`, `Member.delivered`: what is said about the
  members.

Main results:

- Theorem `Member.HasLoaded.hasSentShare`: who has loaded has sent its share.
-/

namespace KeyIndex

open Rendezvous Worker Exchange

/-- The element of an item, if it is one. -/
def Item.element? {α : Type} : Item α → Option α
  | .entry _ => none
  | .element passed => some passed

/-! ## Members -/

/-- How far the registration of a member is. -/
inductive Errand where
  /-- It has not begun. -/
  | none
  /-- The slot of the name has been found. -/
  | found (slot : SlotId)
  /-- The worker has been entered in the slot, in which so many workers were then. -/
  | entered (slot : SlotId) (count : Nat)

/-- A worker of a crew. -/
structure Member (α : Type) where
  worker : Worker α
  history : List (Exchange α) := []
  errand : Errand := .none

namespace Member

variable {α : Type}

/-- The worker is given an element. -/
def begin (member : Member α) (element : α) : Member α :=
  { member with worker := member.worker.begin element }

/-- The call of the worker is given up, or its result is taken. -/
def leave (member : Member α) : Member α :=
  { member with worker := member.worker.abandon, errand := .none }

/-- The worker takes a step of its own. -/
def move (member : Member α) (next : Worker α) : Member α := { member with worker := next }

/-- The worker has had a reply. -/
def trade (member : Member α) (exchange : Exchange α) (next : Worker α) : Member α where
  worker := next
  history := member.history ++ [exchange]

/-- The worker goes on with its registration. -/
def go (member : Member α) (errand : Errand) : Member α := { member with errand }

/-- The pass of the worker. -/
def pass (member : Member α) : Pass := .load member.worker.layout member.worker.filter

/-- The worker has come to the end of its pass: it had an answer to everything that it
asked, and its output has taken every entry. -/
def HasLoaded (member : Member α) : Prop :=
  ∃ events rest, member.history = ofEvents events ++ rest ∧
    Pass.Leads member.pass events .done

/-- The pass of the worker has failed. -/
def HasFailed (member : Member α) : Prop :=
  ∃ exchanges rest cause, member.history = exchanges ++ rest ∧
    Loads member.pass exchanges (.error cause)

/-- The elements that the output of the worker has taken, in order. -/
def delivered (member : Member α) : List α :=
  (output member.history).filterMap Item.element?

/-- With an exchange a member has delivered what it had before, and what the output takes
then. -/
theorem delivered_trade (member : Member α) (exchange : Exchange α) (next : Worker α) :
    (member.trade exchange next).delivered =
      member.delivered ++ (output [exchange]).filterMap Item.element? := by
  rw [delivered, trade, output_append, List.filterMap_append]
  rfl

/-- With the answers of whatever table the worker has asked, its output has taken the share
of the worker, before anything else. -/
def HasSentShare (member : Member α) : Prop :=
  ∀ table : Table,
    (∀ query answer, ask query answer ∈ member.history → table.answer query = answer) →
      (table.share member.worker.filter member.worker.layout.owns).map Item.entry <+:
        output member.history

/-- Who has loaded has sent its share. -/
theorem HasLoaded.hasSentShare {member : Member α} (h : member.HasLoaded) :
    member.HasSentShare := by
  intro table hanswers
  rcases h with ⟨events, rest, hhistory, hleads⟩
  have hanswered : Pass.Answered table events := by
    intro query answer hmem
    refine hanswers query answer ?_
    rw [hhistory]
    exact List.mem_append_left _ (mem_ofEvents_ask.mpr hmem)
  rcases hleads.events_eq hanswered with ⟨hevents, hload⟩
  have hcourse : member.pass.events table = events := by
    rw [hevents, Pass.events, List.append_nil]
  have hshare : Pass.Event.entries events =
      table.share member.worker.filter member.worker.layout.owns := by
    rw [← (Pass.load_of_ok hload).1, Pass.entries]
    exact congrArg Pass.Event.entries hcourse.symm
  rw [hhistory, output_append, output_ofEvents, hshare]
  exact List.prefix_append _ _

/-- A member cannot both have loaded and have failed. -/
theorem HasLoaded.not_failed {member : Member α} (h : member.HasLoaded) :
    ¬ member.HasFailed := by
  rintro ⟨exchanges, later, cause, hsame, hloads⟩
  rcases h with ⟨events, rest, hhistory, hleads⟩
  exact hloads.not_done hleads (hhistory.symm.trans hsame)

end Member

/-! ## Crews -/

/-- The registry of a job and its members, by their numbers. -/
structure Crew (α : Type) where
  registry : Registry
  members : UInt32 → Member α

namespace Crew

variable {α : Type}

/-- The crew with another state of one member. -/
def set (crew : Crew α) (index : UInt32) (member : Member α) : Crew α :=
  { crew with members := Function.update crew.members index member }

/-- The crew with another state of the registry. -/
def use (crew : Crew α) (registry : Registry) : Crew α := { crew with registry }

/-- All members below a number have loaded. -/
def AllLoaded (crew : Crew α) (workers : UInt32) : Prop :=
  ∀ index < workers, (crew.members index).HasLoaded

/-- One step of a crew of so many workers that meet under a name. -/
inductive Step (name : String) (workers : UInt32) : Crew α → Crew α → Prop where
  /-- A member without a call is given an element. -/
  | call {crew : Crew α} {index : UInt32} (element : α) :
      index < workers → (crew.members index).worker.call = none →
        Step name workers crew (crew.set index ((crew.members index).begin element))
  /-- The call of a member is given up, or its result is taken. -/
  | leave {crew : Crew α} {index : UInt32} :
      index < workers → Step name workers crew (crew.set index (crew.members index).leave)
  /-- A member takes a step of its own. -/
  | move {crew : Crew α} {index : UInt32} {next : Worker α} :
      index < workers → (crew.members index).worker.view = .step next →
        Step name workers crew (crew.set index ((crew.members index).move next))
  /-- A member has any reply to its request.  If it asks to be registered, this is a
  registration that fails. -/
  | reply {crew : Crew α} {index : UInt32} {request : Request α}
      {resume : request.Reply → Worker α} (reply : request.Reply) :
      index < workers → (crew.members index).worker.view = .want request resume →
        (∀ called worker count elapsed,
          (⟨request, reply⟩ : Exchange α) ≠ register called worker (.ok count) elapsed) →
        Step name workers crew
          (crew.set index ((crew.members index).trade ⟨request, reply⟩ (resume reply)))
  /-- A member that asks to be registered looks its slot up. -/
  | find {crew : Crew α} {index : UInt32} {called : String} {worker : UInt32}
      {resume : Except Failure Nat × Nat → Worker α} :
      index < workers → (crew.members index).worker.view = .want (.register called worker) resume →
        (crew.members index).errand = .none →
        Step name workers crew
          ((crew.use (crew.registry.find called).1).set index
            ((crew.members index).go (.found (crew.registry.find called).2)))
  /-- It is entered in the slot that it has found. -/
  | enter {crew : Crew α} {index : UInt32} {called : String} {worker : UInt32}
      {resume : Except Failure Nat × Nat → Worker α} {slot : SlotId} :
      index < workers → (crew.members index).worker.view = .want (.register called worker) resume →
        (crew.members index).errand = .found slot →
        Step name workers crew
          ((crew.use (crew.registry.enter slot worker).1).set index
            ((crew.members index).go (.entered slot (crew.registry.enter slot worker).2)))
  /-- The count is published, and is the answer to the registration. -/
  | publish {crew : Crew α} {index : UInt32} {called : String} {worker : UInt32}
      {resume : Except Failure Nat × Nat → Worker α} {slot : SlotId} {count : Nat}
      (elapsed : Nat) :
      index < workers → (crew.members index).worker.view = .want (.register called worker) resume →
        (crew.members index).errand = .entered slot count →
        Step name workers crew
          ((crew.use (crew.registry.publish slot count)).set index
            ((crew.members index).trade (register called worker (.ok count) elapsed)
              (resume (.ok count, elapsed))))
  /-- Somebody looks a name up, to see whether its count changes. -/
  | look {crew : Crew α} (called : String) :
      Step name workers crew (crew.use (crew.registry.find called).1)
  /-- Somebody registers under another name. -/
  | other {crew : Crew α} (called : String) (worker : UInt32) : called ≠ name →
      Step name workers crew (crew.use (crew.registry.register called worker).1)
  /-- Somebody clears a name. -/
  | clear {crew : Crew α} (called : String) :
      Step name workers crew (crew.use (crew.registry.clear called))

/-- Some steps of a crew. -/
def Runs (name : String) (workers : UInt32) : Crew α → Crew α → Prop :=
  Relation.ReflTransGen (Step name workers)

/-- A crew before its first step: its members could be made with the numbers below that of
the workers, and have done nothing yet; its registry may have been used before, but nobody
is registered under the name. -/
structure Starts (name : String) (workers groups : UInt32) (crew : Crew α) : Prop where
  made : ∀ index < workers, ∃ (engine : Regex.Engine) (settings : Settings),
    settings.rendezvous = name ∧
      Worker.make engine ⟨index, workers, groups⟩ settings = .ok (crew.members index).worker
  unused : ∀ index < workers, (crew.members index).history = [] ∧
    (crew.members index).errand = .none
  registry : crew.registry.Made
  unregistered : crew.registry.workers name = []

end Crew

end KeyIndex
