import KeyIndex.Proofs.Crew.Basic

/-!
# A member that acts by itself

While nobody comes between, a member of a crew does what its worker does: it acts with any
replies, and it registers in three steps that follow each other.  Nothing else changes in the
crew, apart from the registry.

Main results:

- Theorem `Crew.runs_of_acts`: what a worker does without the registry.
- Theorem `Crew.runs_register`: a registration from its first step to its last.
- Definition `Member.enrolled`, Theorem `Crew.exists_runs_enrolled`: a member loads, and registers
  for the first time.
-/

namespace KeyIndex

open Rendezvous Worker Exchange

variable {α : Type}

/-- A member when it has loaded over a table, and has registered for the first time: so many
workers were counted. -/
def Member.enrolled (member : Member α) (table : Table) (element : α) (tally : Tally)
    (count : Nat) : Member α where
  worker := (member.worker.arrived tally).waiting element
    (member.worker.meeting.round 0 (.ok count) 0)
  history := ofEvents (member.pass.events table) ++
    [register member.worker.meeting.name member.worker.meeting.worker (.ok count) 0]

namespace Crew

variable {name : String} {workers index : UInt32} {crew : Crew α}

/-! ## The states of a crew -/

@[simp] theorem registry_use (crew : Crew α) (registry : Registry) :
    (crew.use registry).registry = registry := rfl

@[simp] theorem members_use (crew : Crew α) (registry : Registry) :
    (crew.use registry).members = crew.members := rfl

@[simp] theorem registry_set (crew : Crew α) (index : UInt32) (member : Member α) :
    (crew.set index member).registry = crew.registry := rfl

@[simp] theorem members_set_self (crew : Crew α) (index : UInt32) (member : Member α) :
    (crew.set index member).members index = member :=
  Function.update_self ..

theorem members_set_of_ne {index other : UInt32} (h : other ≠ index) (crew : Crew α)
    (member : Member α) : (crew.set index member).members other = crew.members other :=
  Function.update_of_ne h ..

@[simp] theorem set_self (crew : Crew α) (index : UInt32) :
    crew.set index (crew.members index) = crew := by
  rw [set, Function.update_eq_self]

@[simp] theorem set_set (crew : Crew α) (index : UInt32) (member later : Member α) :
    (crew.set index member).set index later = crew.set index later := by
  simp only [set, Function.update_idem]

/-- The registry and the members are changed apart from each other. -/
@[simp] theorem use_set (crew : Crew α) (index : UInt32) (member : Member α)
    (registry : Registry) : (crew.set index member).use registry =
      (crew.use registry).set index member := rfl

@[simp] theorem use_use (crew : Crew α) (registry later : Registry) :
    (crew.use registry).use later = crew.use later := rfl

/-! ## Acts -/

/-- An exchange is no registration with a count if it is not one of a meeting. -/
theorem ne_register_of_isVisit {exchange : Exchange α} (h : exchange.isVisit = false)
    (called : String) (worker : UInt32) (count elapsed : Nat) :
    exchange ≠ register called worker (.ok count) elapsed := by
  intro hsame
  rw [hsame] at h
  cases h

/-- What a worker does without any visit to the registry, it does as a member of a crew. -/
theorem runs_of_acts {last : Worker α} {exchanges : List (Exchange α)} (hindex : index < workers)
    (hidle : (crew.members index).errand = .none) (hvisits : visits exchanges = [])
    (hacts : Acts (crew.members index).worker exchanges last) :
    Runs name workers crew
      (crew.set index ⟨last, (crew.members index).history ++ exchanges, .none⟩) := by
  generalize hworker : (crew.members index).worker = worker at hacts
  induction hacts generalizing crew with
  | refl worker =>
    have hsame : (⟨worker, (crew.members index).history ++ [], .none⟩ : Member α) =
        crew.members index := by
      rw [← hworker, ← hidle, List.append_nil]
    rw [hsame, set_self]
    exact .refl
  | @step worker next last exchanges hview _ ih =>
    have hrest := @ih (crew.set index ((crew.members index).move next))
      (by rw [members_set_self]; exact hidle) hvisits (by rw [members_set_self]; rfl)
    rw [members_set_self, set_set] at hrest
    exact .head (.move hindex (hworker ▸ hview)) hrest
  | @want worker last request resume exchanges hview reply _ ih =>
    have hreply : (⟨request, reply⟩ : Exchange α).isVisit = false := by
      by_contra hvisit
      simp [visits, hvisit] at hvisits
    have hlater : visits exchanges = [] := by simpa [visits, hreply] using hvisits
    have hrest := @ih
      (crew.set index ((crew.members index).trade ⟨request, reply⟩ (resume reply)))
      (by rw [members_set_self]; rfl) hlater (by rw [members_set_self]; rfl)
    rw [members_set_self, set_set, Member.trade, List.append_assoc] at hrest
    exact .head (.reply reply hindex (hworker ▸ hview) (ne_register_of_isVisit hreply)) hrest

/-! ## Registrations -/

/-- A member that asks to be registered takes all the steps of its registration. -/
theorem runs_register {called : String} {worker : UInt32}
    {resume : Except Failure Nat × Nat → Worker α} (hindex : index < workers)
    (hidle : (crew.members index).errand = .none)
    (hview : (crew.members index).worker.view = .want (.register called worker) resume)
    (elapsed : Nat) :
    Runs name workers crew
      ((crew.use (crew.registry.register called worker).1).set index
        ((crew.members index).trade
          (register called worker (.ok (crew.registry.register called worker).2) elapsed)
          (resume (.ok (crew.registry.register called worker).2, elapsed)))) := by
  let found := (crew.use (crew.registry.find called).1).set index
    ((crew.members index).go (.found (crew.registry.find called).2))
  have hfound : Step name workers crew found := .find hindex hview hidle
  have hfoundSelf : found.members index =
      (crew.members index).go (.found (crew.registry.find called).2) := members_set_self ..
  have hfoundView : (found.members index).worker.view = .want (.register called worker) resume := by
    rw [hfoundSelf]
    exact hview
  let entered := (found.use (found.registry.enter (crew.registry.find called).2 worker).1).set index
    ((found.members index).go (.entered (crew.registry.find called).2
      (found.registry.enter (crew.registry.find called).2 worker).2))
  have hentered : Step name workers found entered :=
    .enter hindex hfoundView (by rw [hfoundSelf]; rfl)
  have henteredSelf : entered.members index =
      (found.members index).go (.entered (crew.registry.find called).2
        (found.registry.enter (crew.registry.find called).2 worker).2) := members_set_self ..
  have henteredView :
      (entered.members index).worker.view = .want (.register called worker) resume := by
    rw [henteredSelf]
    exact hfoundView
  have hpublished := @Step.publish _ name workers entered index called worker resume _ _ elapsed
    hindex henteredView (by rw [henteredSelf]; rfl)
  have hruns := ((Relation.ReflTransGen.single hfound).tail hentered).tail hpublished
  rw [henteredSelf, hfoundSelf] at hruns
  simp only [entered, found, use_set, use_use, set_set] at hruns
  exact hruns

/-- A member that has done nothing can load over a table that answers it, and register. -/
theorem exists_runs_enrolled {table : Table} {registry : Registry} {count : Nat}
    (hindex : index < workers) (hidle : (crew.members index).errand = .none)
    (hhistory : (crew.members index).history = [])
    (hcall : (crew.members index).worker.call = none)
    (hfresh : (crew.members index).worker.phase = .fresh)
    (hload : (crew.members index).pass.result table = .ok ())
    (hregister : crew.registry.register (crew.members index).worker.meeting.name
      (crew.members index).worker.meeting.worker = (registry, count)) (element : α) :
    ∃ tally, Runs name workers crew
      ((crew.use registry).set index ((crew.members index).enrolled table element tally count)) := by
  have hleads := Pass.leads_events table (crew.members index).pass
  rw [hload] at hleads
  rcases exists_acts_arrived hfresh hleads element with ⟨tally, hacts⟩
  have hbegun : Step name workers crew
      (crew.set index ((crew.members index).begin element)) := .call element hindex hcall
  have hloaded := @runs_of_acts _ name workers index
    (crew.set index ((crew.members index).begin element)) _ _ hindex
    (by rw [members_set_self]; exact hidle) (visits_ofEvents _)
    (by rw [members_set_self]; exact hacts)
  rw [members_set_self, set_set] at hloaded
  have hregistered := @runs_register _ name workers index
    (crew.set index ⟨((crew.members index).worker.arrived tally).waiting element (.arriving 0),
      ofEvents ((crew.members index).pass.events table), .none⟩)
    (crew.members index).worker.meeting.name (crew.members index).worker.meeting.worker _ hindex
    (by rw [members_set_self]) (by rw [members_set_self]; exact view_arriving _ _ _) 0
  have hnothing : ((crew.members index).begin element).history = [] := hhistory
  rw [hnothing, List.nil_append] at hloaded
  rw [members_set_self, registry_set, hregister, use_set, set_set] at hregistered
  exact ⟨tally, (Relation.ReflTransGen.head hbegun hloaded).trans hregistered⟩

end Crew

end KeyIndex
