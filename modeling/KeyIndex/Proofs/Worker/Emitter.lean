import KeyIndex.Job
import KeyIndex.Proofs.Worker.Call

/-!
# A worker as an emitter

The count of a worker that loads is the count of its emitter: what the worker does with the
reply to an entry is what an emitter does that hands the same entry to the same sink.  This is so
for one entry at a post with its outlet, and for the entries of a slice and any sink.

Main definitions:

- `Emitter.emitAll`: the entries of some keys are handed over, until one is not taken.
- `Worker.Emits`: what a worker has done when the entries of some keys were handed over.

Main results:

- Theorem `Post.act?_emit`: an act of a post that sends an entry.
- Theorem `Worker.emits_emitAll`: the entries of a slice.
-/

namespace KeyIndex

open Rendezvous

variable {σ α : Type}

/-- Hands over the entries of some keys that are alive in a slice, one after another, until one
of them is not taken. -/
def Emitter.emitAll [Sink σ α] (slice : FileSlice) :
    Emitter → List RecordKey → σ → Emitter × σ × Option (Except Failure Unit)
  | emitter, [], sink => (emitter, sink, some (.ok ()))
  | emitter, key :: keys, sink =>
    match emitter.emit key slice sink with
    | (emitter, sink, some (.ok ())) => emitAll slice emitter keys sink
    | stopped => stopped

/-- What an emitter does with the answer of a sink. -/
theorem Emitter.emit_of_collect [Sink σ α] {key : RecordKey} {slice : FileSlice}
    {sink after : σ} {answer : Option (Except Failure Unit)}
    (h : Sink.collect sink (.entry (.of key slice)) = (after, answer)) (emitter : Emitter) :
    emitter.emit key slice sink =
      (if answer = some (.ok ()) then ⟨emitter.sent + 1⟩ else emitter, after, answer) := by
  rw [emit, h]
  rcases answer with _ | _ | _
  · rfl
  · rfl
  · rfl

/-- An entry that the sink takes is followed by the others. -/
theorem Emitter.emitAll_of_taken [Sink σ α] {key : RecordKey} {keys : List RecordKey}
    {slice : FileSlice} {emitter : Emitter} {sink after : σ}
    (h : Sink.collect sink (.entry (.of key slice)) = (after, some (.ok ()))) :
    emitter.emitAll slice (key :: keys) sink =
      Emitter.emitAll slice ⟨emitter.sent + 1⟩ keys after := by
  rw [emitAll, emit_of_collect h]
  rfl

/-- After an entry that the sink does not take no other is handed over. -/
theorem Emitter.emitAll_of_stop [Sink σ α] {key : RecordKey} {keys : List RecordKey}
    {slice : FileSlice} {emitter : Emitter} {sink after : σ}
    {answer : Option (Except Failure Unit)}
    (h : Sink.collect sink (.entry (.of key slice)) = (after, answer))
    (hstop : answer ≠ some (.ok ())) :
    emitter.emitAll slice (key :: keys) sink = (emitter, after, answer) := by
  rw [emitAll, emit_of_collect h, if_neg hstop]
  rcases answer with _ | _ | _
  · rfl
  · rfl
  · exact absurd rfl hstop

/-! ## One entry -/

/-- An act of a post whose worker is to send the entry of a key: its emitter hands the entry to
the outlet, of which a receiver has taken what waits. -/
theorem Post.act?_emit {post : Post α} {worker : Worker α} {element : α} {key : RecordKey}
    {slice : FileSlice} {next : Pass} {sent : Nat}
    (h : post.worker = worker.loading element (.emit (.of key slice) next) sent) (venue : Venue) :
    post.act? venue =
      match Emitter.emit ⟨sent⟩ key slice
        (if post.receiving then post.outlet.receive else post.outlet) with
      | (emitter, outlet, some (.ok ())) =>
        some (venue, { post with worker := worker.loading element next emitter.sent, outlet })
      | (_, _, some (.error cause)) => some (venue, { post with worker := worker.fail cause })
      | (_, _, none) => none := by
  have hview := Worker.view_emit worker element (.of key slice) next sent
  rw [← h] at hview
  rw [act?, hview]
  simp only [offer]
  cases hoffer : (if post.receiving then post.outlet.receive else post.outlet).offer
      (.entry (.of key slice)) with
  | taken outlet => rw [Emitter.emit_of_collect (Outlet.collect_of_taken hoffer)]; rfl
  | refused => rw [Emitter.emit_of_collect (Outlet.collect_of_refused hoffer)]
  | full => rw [Emitter.emit_of_collect (Outlet.collect_of_full hoffer)]

/-! ## The entries of a slice -/

namespace Worker

open Exchange

/-- The entry of a key that is alive in a slice has been taken. -/
def Exchange.taking (slice : FileSlice) (key : RecordKey) : Exchange α :=
  send (.entry (.of key slice)) (.ok ())

/-- The pass in which the entries of some keys are sent. -/
def sending (slice : FileSlice) (keys : List RecordKey) (next : Pass) : Pass :=
  Pass.emitAll (keys.map (.of · slice)) next

/-- What a worker has done that was to send the entries of some keys, when an emitter with the
same count has come from `emitter` to `after`, and its last attempt had some answer.  A worker
that fails has no count any more. -/
inductive Emits (worker : Worker α) (element : α) (slice : FileSlice) (next : Pass)
    (keys : List RecordKey) (emitter after : Emitter) : Option (Except Failure Unit) → Prop where
  | all :
      Acts (worker.loading element (sending slice keys next) emitter.sent)
        (keys.map (taking slice)) (worker.loading element next after.sent) →
      Emits worker element slice next keys emitter after (some (.ok ()))
  | refused (front : List RecordKey) {rest : List RecordKey} {key : RecordKey} {cause : Failure} :
      keys = front ++ key :: rest → after.sent = emitter.sent + front.length →
      Acts (worker.loading element (sending slice keys next) emitter.sent)
        (front.map (taking slice) ++ [send (.entry (.of key slice)) (.error cause)])
        (worker.fail cause) →
      Emits worker element slice next keys emitter after (some (.error cause))
  | held (front : List RecordKey) {rest : List RecordKey} {key : RecordKey} :
      keys = front ++ key :: rest →
      Acts (worker.loading element (sending slice keys next) emitter.sent)
        (front.map (taking slice))
        (worker.loading element (sending slice (key :: rest) next) after.sent) →
      Emits worker element slice next keys emitter after none

variable {worker : Worker α} {element : α} {slice : FileSlice} {next : Pass}
  {keys : List RecordKey} {emitter after : Emitter} {answer : Option (Except Failure Unit)}

/-- A worker whose first entry is taken goes on with the others. -/
theorem acts_taking (key : RecordKey) {exchanges : List (Exchange α)} {last : Worker α}
    (h : Acts (worker.loading element (sending slice keys next) (emitter.sent + 1)) exchanges
      last) :
    Acts (worker.loading element (sending slice (key :: keys) next) emitter.sent)
      (taking slice key :: exchanges) last :=
  .want (view_emit worker element _ _ _) (.ok ()) h

/-- What is done after the first entry was taken. -/
theorem Emits.cons (key : RecordKey)
    (h : Emits worker element slice next keys ⟨emitter.sent + 1⟩ after answer) :
    Emits worker element slice next (key :: keys) emitter after answer := by
  cases h with
  | all hacts => exact .all (acts_taking key hacts)
  | refused front hkeys hsent hacts =>
    have hcount : after.sent = emitter.sent + (key :: front).length := by
      rw [hsent, List.length_cons, Nat.add_right_comm, Nat.add_assoc]
    exact .refused (key :: front) (by rw [hkeys]; rfl) hcount (acts_taking key hacts)
  | held front hkeys hacts =>
    exact .held (key :: front) (by rw [hkeys]; rfl) (acts_taking key hacts)

/-- The entries of some keys are sent by a worker as they are handed to a sink by an emitter
with the same count: with the same answers, to the same end. -/
theorem emits_emitAll [Sink σ α] (worker : Worker α) (element : α) (slice : FileSlice)
    (next : Pass) (keys : List RecordKey) (emitter : Emitter) (sink : σ) :
    Emits worker element slice next keys emitter (emitter.emitAll slice keys sink).1
      (emitter.emitAll slice keys sink).2.2 := by
  induction keys generalizing emitter sink with
  | nil => exact .all (.refl _)
  | cons key keys ih =>
    rcases hcollect : Sink.collect sink (.entry (.of key slice)) with ⟨left, _ | cause | _⟩
    · rw [Emitter.emitAll_of_stop hcollect (by simp)]
      exact .held [] rfl (.refl _)
    · rw [Emitter.emitAll_of_stop hcollect (by simp)]
      exact .refused [] rfl rfl (.want (view_emit worker element _ _ _) _ (.refl _))
    · rw [Emitter.emitAll_of_taken hcollect]
      exact (ih ⟨emitter.sent + 1⟩ left).cons key

end Worker

end KeyIndex
