import KeyIndex.Job
import KeyIndex.Proofs.Crew.Safety

/-!
# Posts in a crew

A worker at its post acts as a member of a crew: what the post does in one act, and so what
it does in a turn, are steps that the crew can take, with the replies that the table, the
outlet and the clock of the post give.  So what holds of all runs of a crew holds of the
workers of a job, in whatever order they take their turns.

Main results:

- Definition `Crew.Holds`: a post stands for a member of a crew.
- Theorem `Crew.runs_of_act`: one act of a post is a run of the crew.
- Theorem `Crew.runs_of_turn`: so is a whole turn.
-/

namespace KeyIndex

open Rendezvous Worker Exchange

namespace Crew

variable {α : Type} {name : String} {workers index : UInt32} {crew : Crew α}
  {venue after : Venue} {post next : Post α}

/-- A post at a venue stands for a member of a crew: the venue has the registry of the crew,
and the post has the worker of the member, which is not in the middle of a registration. -/
structure Holds (crew : Crew α) (index : UInt32) (venue : Venue) (post : Post α) : Prop where
  host : venue.host = .shared crew.registry
  worker : (crew.members index).worker = post.worker
  idle : (crew.members index).errand = .none

/-- A member takes a step of its own, as its post does. -/
theorem Holds.move (h : crew.Holds index venue post) (hindex : index < workers)
    {worker : Worker α} (hview : post.worker.view = .step worker) :
    ∃ later, Runs name workers crew later ∧
      later.Holds index venue { post with worker } := by
  rw [← h.worker] at hview
  refine ⟨_, Relation.ReflTransGen.single (.move hindex hview), h.host, ?_, ?_⟩
  · rw [members_set_self]
    rfl
  · rw [members_set_self]
    exact h.idle

/-- A member has a reply that is no count, as its post does. -/
theorem Holds.reply (h : crew.Holds index venue post) (hindex : index < workers)
    {request : Request α} {resume : request.Reply → Worker α}
    (hview : post.worker.view = .want request resume) (reply : request.Reply)
    (huncounted : ∀ called worker count elapsed,
      (⟨request, reply⟩ : Exchange α) ≠ register called worker (.ok count) elapsed)
    (hnext : next.worker = resume reply) :
    ∃ later, Runs name workers crew later ∧ later.Holds index venue next := by
  rw [← h.worker] at hview
  refine ⟨_, Relation.ReflTransGen.single (.reply reply hindex hview huncounted), h.host, ?_, ?_⟩
  · rw [members_set_self, hnext]
    rfl
  · rw [members_set_self]
    rfl

/-- A member registers without anybody coming between, as its post does. -/
theorem Holds.register (h : crew.Holds index venue post) (hindex : index < workers)
    {called : String} {worker : UInt32} {resume : Except Failure Nat × Nat → Worker α}
    (hview : post.worker.view = .want (.register called worker) resume) (elapsed : Nat)
    (hhost : after.host = .shared (crew.registry.register called worker).1)
    (hnext : next.worker = resume (.ok (crew.registry.register called worker).2, elapsed)) :
    ∃ later, Runs name workers crew later ∧ later.Holds index after next := by
  rw [← h.worker] at hview
  refine ⟨_, runs_register hindex h.idle hview elapsed, hhost, ?_, ?_⟩
  · rw [members_set_self, hnext]
    rfl
  · rw [members_set_self]
    rfl

/-- A member looks a name up, as its post does when it begins to watch a count. -/
theorem Holds.look (h : crew.Holds index venue post) (called : String)
    (hhost : after.host = .shared (crew.registry.find called).1)
    (hnext : next.worker = post.worker) :
    ∃ later, Runs name workers crew later ∧ later.Holds index after next :=
  ⟨_, Relation.ReflTransGen.single (.look called), hhost, h.worker.trans hnext.symm, h.idle⟩

/-- A member does nothing, as its post does. -/
theorem Holds.refl (h : crew.Holds index venue post) (hhost : after.host = venue.host)
    (hnext : next.worker = post.worker) :
    ∃ later, Runs name workers crew later ∧ later.Holds index after next :=
  ⟨crew, .refl, hhost.trans h.host, h.worker.trans hnext.symm, h.idle⟩

/-- What a registration does at a venue with a shared registry. -/
theorem register_of_shared {registry : Registry} (hhost : venue.host = .shared registry)
    (stay : Stay) (called : String) (worker : UInt32) :
    venue.register stay called worker =
      ({ venue with host := .shared (registry.register called worker).1 },
        { stay with began := some (stay.began.getD venue.now) },
        .ok (registry.register called worker).2, venue.now - stay.began.getD venue.now) := by
  rw [Venue.register, Venue.enter, hhost]
  rfl

/-- What is done at such a venue to watch a count. -/
theorem lieDown_of_shared {registry : Registry} (hhost : venue.host = .shared registry)
    (stay : Stay) (called : String) (seen length : Nat) :
    venue.lieDown stay called (some seen) length =
      ({ venue with host := .shared (registry.find called).1 },
        { stay with
          alarm := some ⟨venue.due length, some ((registry.find called).2, seen)⟩ }) := by
  rw [Venue.lieDown]
  simp only [hhost]
  rfl

/-- One act of a post is a run of the crew. -/
theorem runs_of_act (h : crew.Holds index venue post) (hindex : index < workers)
    (hact : post.act? venue = some (after, next)) :
    ∃ later, Runs name workers crew later ∧ later.Holds index after next := by
  unfold Post.act? at hact
  split at hact
  · cases hact
  · rename_i worker hview
    cases hact
    exact h.move hindex hview
  · rename_i query resume hview
    cases hact
    exact h.reply hindex hview (post.table.answer query) (ne_register_of_isVisit rfl) rfl
  · rename_i item resume hview
    split at hact
    · cases hact
      exact h.reply hindex hview (.ok ()) (ne_register_of_isVisit rfl) rfl
    · cases hact
      exact h.reply hindex hview (.error .outputClosed) (ne_register_of_isVisit rfl) rfl
    · cases hact
  · rename_i called worker resume hview
    rw [register_of_shared h.host] at hact
    cases hact
    exact h.register hindex hview _ rfl rfl
  · rename_i called seen length resume hview
    unfold Venue.rest? at hact
    split at hact
    · -- The worker lies down; if it watches the count, the name is looked up.
      cases seen with
      | none =>
        cases hact
        exact h.refl rfl rfl
      | some seen =>
        rw [lieDown_of_shared h.host] at hact
        cases hact
        exact h.look called rfl rfl
    · split at hact
      · cases hact
        refine h.reply hindex hview () ?_ rfl
        intro _ _ _ _ hsame
        cases hsame
      · cases hact

/-- A turn of a post is a run of the crew. -/
theorem runs_of_turn (h : crew.Holds index venue post) (hindex : index < workers)
    (acts : Nat) :
    ∃ later, Runs name workers crew later ∧
      later.Holds index (Actor.turn acts venue post).1 (Actor.turn acts venue post).2.1 := by
  induction acts generalizing crew venue post with
  | zero => exact ⟨crew, .refl, h⟩
  | succ acts ih =>
    rw [Actor.turn]
    split
    · exact ⟨crew, .refl, h⟩
    · rename_i after next hact
      have hfirst : ∃ middle, Runs name workers crew middle ∧ middle.Holds index after next :=
        runs_of_act h hindex hact
      rcases hfirst with ⟨middle, hmiddle, hholds⟩
      rcases ih hholds with ⟨later, hlater, hend⟩
      exact ⟨later, hmiddle.trans hlater, hend⟩

end Crew

end KeyIndex
