import KeyIndex.Outlet
import Mathlib.Logic.Relation

/-!
# What is emitted

Entries are emitted by one call after another.  While a call is under way the sink may have it
wait, and between and during the calls anything may happen to the sink: the receiver of a channel
takes an item, or it goes away.  Whatever happens, the calls that succeed are counted, and their
entries are what the sink has accepted, in the order of the calls.  What a call that fails wanted
to emit is neither.

A sink is watched for this: an item is accepted when the sink answers that it took it.  Of an
outlet the same can be seen from its items.  Those that have arrived and those that wait are all
that was accepted, until the receiver goes away; and then those that have arrived are the first
of them.

Main definitions:

- `Watched`: a sink, with the items that it has accepted.
- `Emission`, `Emission.Step`: the calls of an emitter, and what happens next.
- `Outlet.Moves`: what the receiver of a channel does.

Main results:

- Theorem `Watched.collect_eq`: to watch a sink changes nothing in what it does.
- Theorems `Emission.Accounted.step`, `Emission.Accounted.runs`: the count and the accepted
  items are those of the calls that have succeeded.
- Theorem `Outlet.moves_receive`: to receive everything is to take one item after another.
- Theorems `Watched.Agrees.collect`, `Watched.Agrees.moves`: what is seen of an outlet.
- Theorem `Emission.accepted_of_runs`: what is counted, accepted and received.
-/

namespace KeyIndex

variable {σ α : Type}

/-! ## Sinks that are watched -/

/-- A sink, with the items that it has accepted, in order. -/
structure Watched (σ α : Type) where
  sink : σ
  accepted : List (Item α) := []

/-- Items go to the sink.  An item is accepted if the sink answers that it took it. -/
instance [Sink σ α] : Sink (Watched σ α) α where
  collect watched item :=
    match Sink.collect watched.sink item with
    | (sink, some (.ok ())) => (⟨sink, watched.accepted ++ [item]⟩, some (.ok ()))
    | (sink, answer) => (⟨sink, watched.accepted⟩, answer)

namespace Watched

variable [Sink σ α] {watched : Watched σ α} {item : Item α} {sink : σ}

theorem collect_of_ok (h : Sink.collect watched.sink item = (sink, some (.ok ()))) :
    Sink.collect watched item = (⟨sink, watched.accepted ++ [item]⟩, some (.ok ())) := by
  simp only [Sink.collect, h]

theorem collect_of_error {failure : Failure}
    (h : Sink.collect watched.sink item = (sink, some (.error failure))) :
    Sink.collect watched item = (⟨sink, watched.accepted⟩, some (.error failure)) := by
  simp only [Sink.collect, h]

theorem collect_of_wait (h : Sink.collect watched.sink item = (sink, none)) :
    Sink.collect watched item = (⟨sink, watched.accepted⟩, none) := by
  simp only [Sink.collect, h]

/-- To watch a sink changes nothing in what it does with an item. -/
theorem collect_eq (watched : Watched σ α) (item : Item α) :
    ((Sink.collect watched item).1.sink, (Sink.collect watched item).2) =
      Sink.collect watched.sink item := by
  rcases hcollect : Sink.collect watched.sink item with ⟨sink, _ | _ | _⟩
  · rw [collect_of_wait hcollect]
  · rw [collect_of_error hcollect]
  · rw [collect_of_ok hcollect]

end Watched

/-! ## Calls -/

/-- A call, with what it is to emit the entry of. -/
structure Emission.Call where
  key : RecordKey
  slice : FileSlice

/-- The calls of an emitter to a sink: the one that is under way, and those that have returned,
in order. -/
structure Emission (σ α : Type) where
  sink : Watched σ α
  emitter : Emitter := {}
  current : Option Emission.Call := none
  returned : List (Emission.Call × Except Failure Unit) := []

namespace Emission

/-- The entry that a call emits. -/
def Call.item (call : Call) : Item α := .entry (.of call.key call.slice)

/-- Those calls that have succeeded, of some that have returned. -/
def succeeded (returned : List (Call × Except Failure Unit)) : List Call :=
  returned.filterMap fun (call, result) => if result.isOk then some call else none

@[simp] theorem succeeded_concat_ok (returned : List (Call × Except Failure Unit)) (call : Call) :
    succeeded (returned ++ [(call, .ok ())]) = succeeded returned ++ [call] := by
  rw [succeeded, List.filterMap_append]
  rfl

@[simp] theorem succeeded_concat_error (returned : List (Call × Except Failure Unit))
    (call : Call) (failure : Failure) :
    succeeded (returned ++ [(call, .error failure)]) = succeeded returned := by
  rw [succeeded, List.filterMap_append]
  exact List.append_nil _

/-- No call has been made yet. -/
def start (sink : σ) : Emission σ α := { sink := ⟨sink, []⟩ }

variable [Sink σ α]

/-- An attempt of the call that is under way.  It returns unless it is to wait. -/
def attempt (emission : Emission σ α) (call : Call) : Emission σ α :=
  match emission.emitter.emit call.key call.slice emission.sink with
  | (emitter, sink, none) => { emission with sink, emitter }
  | (emitter, sink, some result) =>
    { sink, emitter, returned := emission.returned ++ [(call, result)] }

/-- What happens next, where others may move the sink. -/
inductive Step (moves : σ → σ → Prop) : Emission σ α → Emission σ α → Prop where
  /-- A call is made when no other is under way. -/
  | call {emission : Emission σ α} (call : Call) : emission.current = none →
      Step moves emission { emission with current := some call }
  /-- The call that is under way makes an attempt. -/
  | attempt {emission : Emission σ α} {call : Call} : emission.current = some call →
      Step moves emission (emission.attempt call)
  /-- The call that is under way is given up. -/
  | abandon {emission : Emission σ α} : Step moves emission { emission with current := none }
  /-- Others move the sink. -/
  | move {emission : Emission σ α} {sink : σ} : moves emission.sink.sink sink →
      Step moves emission { emission with sink := { emission.sink with sink } }

/-- What happens, one thing after the other. -/
abbrev Runs (moves : σ → σ → Prop) : Emission σ α → Emission σ α → Prop :=
  Relation.ReflTransGen (Step moves)

variable {emission later : Emission σ α} {call : Call} {sink : σ} {moves : σ → σ → Prop}

/-! ## Attempts -/

/-- An entry that the sink takes is counted and accepted, and the call has succeeded. -/
theorem attempt_of_ok
    (h : Sink.collect emission.sink.sink (call.item : Item α) = (sink, some (.ok ()))) :
    emission.attempt call =
      { sink := ⟨sink, emission.sink.accepted ++ [call.item]⟩
        emitter := ⟨emission.emitter.sent + 1⟩
        returned := emission.returned ++ [(call, .ok ())] } := by
  have hwatched := Watched.collect_of_ok h
  rw [Call.item] at hwatched
  simp only [attempt, Emitter.emit, hwatched]
  rfl

/-- Where the sink fails, nothing is counted or accepted, and the call has failed. -/
theorem attempt_of_error {failure : Failure}
    (h : Sink.collect emission.sink.sink (call.item : Item α) = (sink, some (.error failure))) :
    emission.attempt call =
      { sink := ⟨sink, emission.sink.accepted⟩
        emitter := emission.emitter
        returned := emission.returned ++ [(call, .error failure)] } := by
  have hwatched := Watched.collect_of_error h
  rw [Call.item] at hwatched
  simp only [attempt, Emitter.emit, hwatched]

/-- Where the sink has the call wait, nothing is counted or accepted yet. -/
theorem attempt_of_wait
    (h : Sink.collect emission.sink.sink (call.item : Item α) = (sink, none)) :
    emission.attempt call = { emission with sink := ⟨sink, emission.sink.accepted⟩ } := by
  have hwatched := Watched.collect_of_wait h
  rw [Call.item] at hwatched
  simp only [attempt, Emitter.emit, hwatched]

/-- What an attempt makes of the sink. -/
theorem sink_attempt (emission : Emission σ α) (call : Call) :
    (emission.attempt call).sink = (Sink.collect emission.sink (call.item : Item α)).1 := by
  rcases hcollect : Sink.collect emission.sink (call.item : Item α) with ⟨sink, _ | _ | _⟩
  all_goals
    rw [Call.item] at hcollect
    simp only [attempt, Emitter.emit, hcollect]

/-- An attempt hands its entry to the sink, and returns what the sink answers. -/
theorem returned_attempt (emission : Emission σ α) (call : Call) :
    (emission.attempt call).returned = emission.returned ++
      ((Sink.collect emission.sink.sink (call.item : Item α)).2.map (call, ·)).toList := by
  rcases hcollect : Sink.collect emission.sink.sink (call.item : Item α) with ⟨sink, _ | _ | _⟩
  · rw [attempt_of_wait hcollect]
    exact (List.append_nil _).symm
  · rw [attempt_of_error hcollect]
    rfl
  · rw [attempt_of_ok hcollect]
    rfl

/-! ## The count and what was accepted -/

/-- The count is the number of the calls that have succeeded, and what the sink has accepted are
their entries. -/
structure Accounted (emission : Emission σ α) : Prop where
  sent : emission.emitter.sent = (succeeded emission.returned).length
  accepted : emission.sink.accepted = (succeeded emission.returned).map Call.item

omit [Sink σ α] in
theorem accounted_start (sink : σ) : (start sink : Emission σ α).Accounted := ⟨rfl, rfl⟩

/-- An attempt is counted and accepted if it succeeds, and otherwise neither. -/
theorem Accounted.attempt (h : emission.Accounted) (call : Call) :
    (emission.attempt call).Accounted := by
  rcases hcollect : Sink.collect emission.sink.sink (call.item : Item α) with
    ⟨sink, _ | failure | _⟩
  · rw [attempt_of_wait hcollect]
    exact ⟨h.sent, h.accepted⟩
  · rw [attempt_of_error hcollect]
    exact ⟨by simpa using h.sent, by simpa using h.accepted⟩
  · rw [attempt_of_ok hcollect]
    exact ⟨by simpa using h.sent, by simpa using h.accepted⟩

/-- So it stays, whatever happens. -/
theorem Accounted.step (h : emission.Accounted) (hstep : Step moves emission later) :
    later.Accounted := by
  cases hstep with
  | call _ _ => exact ⟨h.sent, h.accepted⟩
  | attempt _ => exact h.attempt _
  | abandon => exact ⟨h.sent, h.accepted⟩
  | move _ => exact ⟨h.sent, h.accepted⟩

theorem Accounted.runs (h : emission.Accounted) (hruns : Runs moves emission later) :
    later.Accounted := by
  induction hruns with
  | refl => exact h
  | tail _ hstep ih => exact ih.step hstep

end Emission

/-! ## Outlets -/

namespace Outlet

/-- What the receiver of a channel does. -/
inductive Moves : Outlet α → Outlet α → Prop where
  /-- It takes the item that waits longest. -/
  | receives {outlet : Outlet α} {item : Item α} {rest : List (Item α)} :
      outlet.waiting = item :: rest →
        Moves outlet { outlet with waiting := rest, arrived := outlet.arrived ++ [item] }
  /-- It goes away. -/
  | leaves {outlet : Outlet α} : Moves outlet outlet.close

/-- To receive everything that waits is to take one item after another. -/
theorem moves_receive (outlet : Outlet α) : Relation.ReflTransGen Moves outlet outlet.receive := by
  rcases outlet with ⟨intake, waiting, arrived⟩
  induction waiting generalizing arrived with
  | nil =>
    have hsame : (⟨intake, [], arrived⟩ : Outlet α).receive = ⟨intake, [], arrived⟩ := by
      simp [receive, taken]
    rw [hsame]
  | cons item rest ih =>
    have hnext : (⟨intake, item :: rest, arrived⟩ : Outlet α).receive =
        (⟨intake, rest, arrived ++ [item]⟩ : Outlet α).receive := by
      simp [receive, taken]
    rw [hnext]
    exact .head (.receives rfl) (ih (arrived ++ [item]))

/-- The receiver of the channel has gone away. -/
def IsAbandoned (outlet : Outlet α) : Prop := ∃ slots, outlet.intake = .channel slots false

theorem IsAbandoned.offer_eq {outlet : Outlet α} (h : outlet.IsAbandoned) (item : Item α) :
    outlet.offer item = .refused := by
  rcases h with ⟨slots, hintake⟩
  rw [offer, hintake]
  rfl

/-- Where there is a receiver that can go away, it leaves nothing in the slots. -/
theorem close_eq_or (outlet : Outlet α) :
    outlet.close = outlet ∨ outlet.close.IsAbandoned ∧ outlet.close.waiting = [] ∧
      outlet.close.arrived = outlet.arrived := by
  rcases outlet with ⟨_ | room | ⟨slots, isOpen⟩, waiting, arrived⟩
  · exact .inl rfl
  · exact .inl rfl
  · exact .inr ⟨⟨slots, rfl⟩, rfl, rfl⟩

end Outlet

namespace Watched

variable {watched : Watched (Outlet α) α}

/-- What is seen of an outlet: all that was accepted or, after the receiver has gone away, the
first of it. -/
def Agrees (watched : Watched (Outlet α) α) : Prop :=
  watched.sink.taken = watched.accepted ∨
    watched.sink.IsAbandoned ∧ watched.sink.waiting = [] ∧
      watched.sink.arrived <+: watched.accepted

/-- So it is after an item was handed over. -/
theorem Agrees.collect (h : watched.Agrees) (item : Item α) :
    (Sink.collect watched item).1.Agrees := by
  cases hoffer : watched.sink.offer item with
  | taken after =>
    rw [collect_of_ok (Outlet.collect_of_taken hoffer)]
    rcases h with htaken | ⟨habandoned, -⟩
    · left
      rw [Outlet.taken_of_offer hoffer, htaken]
    · rw [habandoned.offer_eq] at hoffer
      cases hoffer
  | refused => rwa [collect_of_error (Outlet.collect_of_refused hoffer)]
  | full => rwa [collect_of_wait (Outlet.collect_of_full hoffer)]

/-- So it is after the receiver has moved. -/
theorem Agrees.moves (h : watched.Agrees) {outlet : Outlet α}
    (hmoves : watched.sink.Moves outlet) : Agrees { watched with sink := outlet } := by
  cases hmoves with
  | receives hwaiting =>
    rcases h with htaken | ⟨-, hnone, -⟩
    · left
      rw [← htaken]
      simp [Outlet.taken, hwaiting]
    · rw [hwaiting] at hnone
      cases hnone
  | leaves =>
    rcases watched.sink.close_eq_or with hsame | ⟨habandoned, hnone, harrived⟩
    · rwa [hsame]
    · refine .inr ⟨habandoned, hnone, ?_⟩
      show watched.sink.close.arrived <+: watched.accepted
      rw [harrived]
      rcases h with htaken | ⟨-, -, hprefix⟩
      · exact ⟨watched.sink.waiting, htaken⟩
      · exact hprefix

/-- So it is whatever happens while entries are emitted. -/
theorem Agrees.runs {emission later : Emission (Outlet α) α} (h : emission.sink.Agrees)
    (hruns : Emission.Runs Outlet.Moves emission later) : later.sink.Agrees := by
  induction hruns with
  | refl => exact h
  | tail _ hstep ih =>
    cases hstep with
    | call _ _ => exact ih
    | attempt _ =>
      rw [Emission.sink_attempt]
      exact ih.collect _
    | abandon => exact ih
    | move hmoves => exact ih.moves hmoves

end Watched

namespace Emission

/-- An attempt that fails leaves an outlet as it is. -/
theorem sink_attempt_of_error {emission : Emission (Outlet α) α} {call : Call} {failure : Failure}
    (h : (emission.attempt call).returned = emission.returned ++ [(call, .error failure)]) :
    (emission.attempt call).sink = emission.sink := by
  cases hoffer : emission.sink.sink.offer call.item with
  | taken after =>
    rw [attempt_of_ok (Outlet.collect_of_taken hoffer)] at h
    simp at h
  | refused => rw [attempt_of_error (Outlet.collect_of_refused hoffer)]
  | full => rw [attempt_of_wait (Outlet.collect_of_full hoffer)]

/-! ## What is counted, accepted and received -/

/-- What becomes of entries that are emitted, whatever others do with the sink.

The count is the number of the calls that have succeeded, and the sink has accepted the entries of
these, in the order of the calls.  An attempt hands its entry to the sink and returns what the sink
answers, and a call that fails changes nothing in the count and in what was accepted.  An outlet
holds all that it has accepted, or its receiver has gone away and what had arrived is the first of
it; and an attempt that fails leaves it as it is. -/
theorem accepted_of_runs :
    (∀ (σ α : Type) [Sink σ α] (moves : σ → σ → Prop) (sink : σ) (emission : Emission σ α),
      Runs moves (start sink) emission →
        emission.emitter.sent = (succeeded emission.returned).length ∧
          emission.sink.accepted = (succeeded emission.returned).map Call.item ∧
          (∀ call : Call, (emission.attempt call).sink.sink =
              (Sink.collect emission.sink.sink (call.item : Item α)).1 ∧
            (emission.attempt call).returned = emission.returned ++
              ((Sink.collect emission.sink.sink (call.item : Item α)).2.map (call, ·)).toList) ∧
          ∀ (later : Emission σ α) (call : Call) (failure : Failure), Runs moves emission later →
            later.returned = emission.returned ++ [(call, .error failure)] →
              later.emitter = emission.emitter ∧ later.sink.accepted = emission.sink.accepted) ∧
      ∀ (α : Type) (intake : Intake) (emission : Emission (Outlet α) α),
        Runs Outlet.Moves (start { intake }) emission →
          (emission.sink.sink.taken = emission.sink.accepted ∨
            emission.sink.sink.IsAbandoned ∧
              emission.sink.sink.arrived <+: emission.sink.accepted) ∧
          ∀ (call : Call) (failure : Failure),
            (emission.attempt call).returned = emission.returned ++ [(call, .error failure)] →
              (emission.attempt call).sink = emission.sink := by
  constructor
  · intro σ α _ moves sink emission hruns
    have haccounted := (accounted_start sink).runs hruns
    refine ⟨haccounted.sent, haccounted.accepted, fun call => ⟨?_, returned_attempt _ _⟩, ?_⟩
    · rw [sink_attempt, ← Watched.collect_eq]
    · intro later call failure hlater hreturned
      have hlast := haccounted.runs hlater
      have hsame : succeeded later.returned = succeeded emission.returned := by
        rw [hreturned, succeeded_concat_error]
      constructor
      · have hsent : later.emitter.sent = emission.emitter.sent := by
          rw [hlast.sent, haccounted.sent, hsame]
        exact congrArg Emitter.mk hsent
      · rw [hlast.accepted, haccounted.accepted, hsame]
  · intro α intake emission hruns
    have hagrees : emission.sink.Agrees := Watched.Agrees.runs (.inl rfl) hruns
    exact ⟨hagrees.imp_right fun h => ⟨h.1, h.2.2⟩, fun _ _ => sink_attempt_of_error⟩

/-- A call for a key of some slice. -/
def sample (key : String) : Call := ⟨⟨key, "p"⟩, default⟩

/-- Three calls that emit to a channel with one slot.  The second of them waits until the receiver
has taken the entry of the first, and before the third the receiver goes away. -/
theorem accepted_of_runs_channel :
    ∃ emission : Emission (Outlet Nat) Nat,
      Runs Outlet.Moves (start { intake := .channel 1 true }) emission ∧
        emission.returned =
          [(sample "a", .ok ()), (sample "b", .ok ()), (sample "c", .error .outputClosed)] ∧
        emission.emitter.sent = 2 ∧
        emission.sink.accepted = [(sample "a").item, (sample "b").item] ∧
        emission.sink.sink.arrived = [(sample "a").item] ∧
        (emission.sink.sink.taken = emission.sink.accepted ∨
          emission.sink.sink.IsAbandoned ∧
            emission.sink.sink.arrived <+: emission.sink.accepted) := by
  let last : Emission (Outlet Nat) Nat := {
    sink.sink := ⟨.channel 1 false, [], [(sample "a").item]⟩
    sink.accepted := [(sample "a").item, (sample "b").item]
    emitter.sent := 2
    returned :=
      [(sample "a", .ok ()), (sample "b", .ok ()), (sample "c", .error .outputClosed)] }
  have hruns : Runs Outlet.Moves (start { intake := .channel 1 true }) last := by
    refine .head (.call (sample "a") rfl) (.head (.attempt rfl) ?_)
    refine .head (.call (sample "b") rfl) (.head (.attempt rfl) ?_)
    refine .head (.move (.receives rfl)) (.head (.attempt rfl) ?_)
    exact .head (.move .leaves) (.head (.call (sample "c") rfl) (.head (.attempt rfl) .refl))
  have haccounted := accepted_of_runs.1 _ _ _ _ last hruns
  have hagrees := accepted_of_runs.2 _ _ last hruns
  exact ⟨last, hruns, rfl, haccounted.1, haccounted.2.1, rfl, hagrees.1⟩

end Emission

end KeyIndex
