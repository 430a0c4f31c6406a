import KeyIndex.Proofs.Crew.Basic

/-!
# What holds of each member

What holds of a member at any time depends on two things that only the whole crew can
say: which slots are those of the name, and whether all members have loaded.  A member
that registers has loaded, and a member that passes elements on knows that all have.
Each step of a member keeps this, as long as the slots of the name stay what they are.

Main results:

- Definition `Member.Stands`: what holds of a member.
- Theorems `Member.Stands.begin`, `Member.Stands.leave`, `Member.Stands.move`,
  `Member.Stands.trade`, `Member.Stands.find`, `Member.Stands.enter`: each step of a member
  keeps it.
- Theorem `Member.Stands.of_delivered`: when a member delivers an element, all have loaded.
-/

namespace KeyIndex

open Rendezvous Worker Exchange

namespace Member

variable {α : Type}

/-! ## Growing histories -/

/-- A later state of a member: its terms are the same, and its history has only grown. -/
structure Extends (member next : Member α) : Prop where
  terms : SameTerms member.worker next.worker
  history : member.history <+: next.history

theorem Extends.refl (member : Member α) : Extends member member :=
  ⟨⟨rfl, rfl, rfl⟩, List.prefix_rfl⟩

theorem Extends.trans {first second third : Member α} (h : Extends first second)
    (hnext : Extends second third) : Extends first third where
  terms := h.terms.trans hnext.terms
  history := h.history.trans hnext.history

theorem Extends.pass_eq {member next : Member α} (h : Extends member next) :
    next.pass = member.pass := by
  rw [pass, pass, h.terms.layout, h.terms.filter]

/-- Who has loaded once has loaded for ever. -/
theorem HasLoaded.extend {member next : Member α} (h : member.HasLoaded)
    (hextends : Extends member next) : next.HasLoaded := by
  rcases h with ⟨events, rest, hhistory, hleads⟩
  rcases hextends.history with ⟨more, hmore⟩
  refine ⟨events, rest ++ more, ?_, ?_⟩
  · rw [← hmore, hhistory, List.append_assoc]
  · rw [hextends.pass_eq]
    exact hleads

theorem extends_begin (member : Member α) (element : α) :
    Extends member (member.begin element) :=
  ⟨begin_terms member.worker element, List.prefix_rfl⟩

theorem extends_leave (member : Member α) : Extends member member.leave :=
  ⟨⟨rfl, rfl, rfl⟩, List.prefix_rfl⟩

theorem extends_move {member : Member α} {next : Worker α} (h : Moves member.worker next) :
    Extends member (member.move next) :=
  ⟨h.terms, List.prefix_rfl⟩

theorem extends_trade {member : Member α} {exchange : Exchange α} {next : Worker α}
    (h : Trades member.worker exchange next) : Extends member (member.trade exchange next) :=
  ⟨h.terms, List.prefix_append _ _⟩

theorem extends_go (member : Member α) (errand : Errand) : Extends member (member.go errand) :=
  ⟨⟨rfl, rfl, rfl⟩, List.prefix_rfl⟩

/-! ## What holds of a member -/

/-- What holds of a member whose call is doing something, where `all` says that all members
have loaded. -/
def CallStands (member : Member α) (all : Prop) : Option (Call α) → Prop
  | none => True
  | some (.loading _ rest _) => member.worker.phase = .loading ∧
      ∃ events, member.history = ofEvents events ∧ Pass.Leads member.pass events rest
  | some (.meeting _ wait) =>
      member.worker.phase = .meeting ∧ member.HasLoaded ∧ (wait = .over (.ok ()) → all)
  | some (.passing _) => member.worker.phase = .complete
  | some (.ended _) => member.worker.phase ≠ .fresh

/-- The member is about to register. -/
def IsArriving (member : Member α) : Prop :=
  ∃ element seen, member.worker.call = some (.meeting element (.arriving seen))

/-- What holds of a member with an errand, where `own` says which slots are those of the
name.  If as many workers were in the slot as the crew has, all members have loaded. -/
def ErrandStands (member : Member α) (workers : UInt32) (own : SlotId → Prop) (all : Prop) :
    Errand → Prop
  | .none => True
  | .found slot => member.IsArriving ∧ own slot
  | .entered _ count => member.IsArriving ∧ (workers.toNat ≤ count → all)

/-- What holds of a member of a crew. -/
structure Stands (name : String) (workers index : UInt32) (own : SlotId → Prop) (all : Prop)
    (member : Member α) : Prop where
  meeting : member.worker.meeting.name = name ∧ member.worker.meeting.worker = index ∧
    member.worker.meeting.expected = workers.toNat
  fresh : member.worker.phase = .fresh → member.history = [] ∧ member.worker.call = none
  complete : member.worker.phase = .complete → all
  delivered : member.delivered ≠ [] → all
  call : member.CallStands all member.worker.call
  errand : member.ErrandStands workers own all member.errand

variable {name : String} {workers index : UInt32} {own more : SlotId → Prop} {all now : Prop}
  {member : Member α}

theorem CallStands.mono {call : Option (Call α)} (h : member.CallStands all call)
    (hall : all → now) : member.CallStands now call := by
  rcases call with _ | call
  · trivial
  · cases call with
    | loading element rest sent => exact h
    | meeting element wait => exact ⟨h.1, h.2.1, fun hover => hall (h.2.2 hover)⟩
    | passing element => exact h
    | ended result => exact h

theorem ErrandStands.mono {errand : Errand} (h : member.ErrandStands workers own all errand)
    (hown : ∀ slot, own slot → more slot) (hall : all → now) :
    member.ErrandStands workers more now errand := by
  cases errand with
  | none => trivial
  | found slot => exact ⟨h.1, hown slot h.2⟩
  | entered slot count => exact ⟨h.1, fun hcount => hall (h.2 hcount)⟩

/-- More slots may come to be those of the name, and all members may come to have loaded. -/
theorem Stands.mono (h : member.Stands name workers index own all)
    (hown : ∀ slot, own slot → more slot) (hall : all → now) :
    member.Stands name workers index more now where
  meeting := h.meeting
  fresh := h.fresh
  complete hcomplete := hall (h.complete hcomplete)
  delivered hdelivered := hall (h.delivered hdelivered)
  call := h.call.mono hall
  errand := h.errand.mono hown hall

/-- A member that is not about to register has no errand. -/
theorem Stands.errand_eq (h : member.Stands name workers index own all)
    (hcall : ¬ member.IsArriving) : member.errand = .none := by
  have herrand := h.errand
  cases hsame : member.errand with
  | none => rfl
  | found slot =>
    rw [hsame] at herrand
    exact absurd herrand.1 hcall
  | entered slot count =>
    rw [hsame] at herrand
    exact absurd herrand.1 hcall

/-- A member that is about to register has loaded. -/
theorem Stands.hasLoaded (h : member.Stands name workers index own all)
    (hcall : member.IsArriving) : member.HasLoaded := by
  rcases hcall with ⟨element, seen, harriving⟩
  have hstands := h.call
  rw [harriving] at hstands
  exact hstands.2.1

/-! ## Steps without the registry -/

/-- A member without a call is given an element. -/
theorem Stands.begin (h : member.Stands name workers index own all)
    (hcall : member.worker.call = none) (element : α) :
    (member.begin element).Stands name workers index own all := by
  have hidle : member.errand = .none := by
    apply h.errand_eq
    rintro ⟨other, seen, harriving⟩
    rw [hcall] at harriving
    cases harriving
  have herrand : (member.begin element).ErrandStands workers own all member.errand := by
    rw [hidle]
    trivial
  by_cases hfresh : member.worker.phase = .fresh
  · have hbegin : member.begin element =
        { member with
          worker := { member.worker with phase := .loading }.loading element member.pass 0 } := by
      rw [Member.begin, begin_of_fresh element hfresh]
      rfl
    rw [hbegin] at herrand ⊢
    have hnew : member.history = ofEvents [] := (h.fresh hfresh).1
    exact ⟨h.meeting, by simp [loading], by simp [loading], h.delivered,
      ⟨rfl, [], hnew, .refl _⟩, herrand⟩
  · by_cases hcomplete : member.worker.phase = .complete
    · have hbegin : member.begin element =
          { member with worker := member.worker.passing element } := by
        rw [Member.begin, begin_of_complete element hcomplete]
      rw [hbegin] at herrand ⊢
      exact ⟨h.meeting, fun hphase => absurd hphase hfresh, h.complete, h.delivered, hcomplete,
        herrand⟩
    · have hbegin : member.begin element =
          { member with
            worker := member.worker.fail (.incomplete member.worker.layout.worker) } := by
        rw [Member.begin, begin_of_closed element hfresh hcomplete]
      rw [hbegin] at herrand ⊢
      exact ⟨h.meeting, by simp [fail], by simp [fail], h.delivered, by simp [CallStands, fail],
        herrand⟩

/-- The call of a member is given up. -/
theorem Stands.leave (h : member.Stands name workers index own all) :
    member.leave.Stands name workers index own all where
  meeting := h.meeting
  fresh hfresh := ⟨(h.fresh hfresh).1, rfl⟩
  complete := h.complete
  delivered := h.delivered
  call := trivial
  errand := trivial

/-- A member takes a step of its own. -/
theorem Stands.move (h : member.Stands name workers index own all) {next : Worker α}
    (hmoves : Moves member.worker next) :
    (member.move next).Stands name workers index own all := by
  have hcall := h.call
  have hidle : member.errand = .none := by
    apply h.errand_eq
    rintro ⟨other, seen, harriving⟩
    cases hmoves <;> simp_all
  have herrand : (member.move next).ErrandStands workers own all member.errand := by
    rw [hidle]
    trivial
  have hmeeting : next.meeting.name = name ∧ next.meeting.worker = index ∧
      next.meeting.expected = workers.toNat := by
    rw [hmoves.terms.meeting]
    exact h.meeting
  cases hmoves with
  | @arrived element sent hsame =>
    rw [hsame] at hcall
    rcases hcall with ⟨-, events, hhistory, hleads⟩
    have hloaded : member.HasLoaded := ⟨events, [], by simp [hhistory], hleads⟩
    exact ⟨hmeeting, by simp [Member.move, waiting, arrived],
      by simp [Member.move, waiting, arrived], h.delivered, ⟨rfl, hloaded, by simp⟩, herrand⟩
  | failed hsame =>
    exact ⟨hmeeting, by simp [Member.move, fail], by simp [Member.move, fail], h.delivered,
      by simp [Member.move, CallStands, fail], herrand⟩
  | @counted element counter rest sent hsame =>
    rw [hsame] at hcall
    rcases hcall with ⟨hphase, events, hhistory, hleads⟩
    have hmore : member.history = ofEvents (events ++ [.counted counter]) := by
      rw [ofEvents_concat_counted, hhistory]
    exact ⟨hmeeting, by simp [Member.move, loading, hphase], by simp [Member.move, loading, hphase],
      h.delivered, ⟨hphase, _, hmore, hleads.counted⟩, herrand⟩
  | opened hsame =>
    rw [hsame] at hcall
    exact ⟨hmeeting, by simp [Member.move, passing], fun _ => hcall.2.2 rfl, h.delivered, rfl,
      herrand⟩
  | missed hsame =>
    exact ⟨hmeeting, by simp [Member.move, fail], by simp [Member.move, fail], h.delivered,
      by simp [Member.move, CallStands, fail], herrand⟩

/-- A round of a meeting that is over well had a count of as many as were expected. -/
theorem count_of_round {meeting : Meeting} {seen elapsed : Nat} {answer : Except Failure Nat}
    (h : meeting.round seen answer elapsed = .over (.ok ())) :
    ∃ count, answer = .ok count ∧ meeting.expected ≤ count := by
  cases answer with
  | ok count =>
    refine ⟨count, rfl, ?_⟩
    by_contra hfew
    simp only [Meeting.round, Bool.true_and, hfew, decide_false, Bool.false_eq_true, if_false] at h
    split at h <;> cases h
  | error cause =>
    simp only [Meeting.round, Bool.false_and, Bool.false_eq_true, if_false] at h
    split at h <;> cases h

/-- A member has a reply.  If it is the count of a registration, and as many workers were
counted as the crew has, all members have loaded. -/
theorem Stands.trade (h : member.Stands name workers index own all) {exchange : Exchange α}
    {next : Worker α} (htrades : Trades member.worker exchange next)
    (hcount : ∀ called worker count elapsed,
      exchange = register called worker (.ok count) elapsed → workers.toNat ≤ count → all) :
    (member.trade exchange next).Stands name workers index own all := by
  have hcall := h.call
  have hloaded : member.HasLoaded → (member.trade exchange next).HasLoaded :=
    fun hloaded => hloaded.extend (extends_trade htrades)
  have hdelivered : (output [exchange]).filterMap Item.element? = [] →
      (member.trade exchange next).delivered ≠ [] → all := by
    intro hnone hsome
    rw [delivered_trade, hnone, List.append_nil] at hsome
    exact h.delivered hsome
  have hmeeting : next.meeting.name = name ∧ next.meeting.worker = index ∧
      next.meeting.expected = workers.toNat := by
    rw [htrades.terms.meeting]
    exact h.meeting
  cases htrades with
  | @asked element query rest sent answer hsame =>
    rw [hsame] at hcall
    rcases hcall with ⟨hphase, events, hhistory, hleads⟩
    have hmore : member.history ++ [ask query answer] =
        ofEvents (events ++ [.asked query answer]) := by
      rw [ofEvents_concat_asked, hhistory]
    exact ⟨hmeeting, by simp [Member.trade, loading, hphase],
      by simp [Member.trade, loading, hphase], hdelivered rfl,
      ⟨hphase, _, hmore, hleads.asked answer⟩, trivial⟩
  | @taken element entry rest sent hsame =>
    rw [hsame] at hcall
    rcases hcall with ⟨hphase, events, hhistory, hleads⟩
    have hmore : member.history ++ [send (.entry entry) (.ok ())] =
        ofEvents (events ++ [.sent entry]) := by
      rw [ofEvents_concat_sent, hhistory]
    exact ⟨hmeeting, by simp [Member.trade, loading, hphase],
      by simp [Member.trade, loading, hphase], hdelivered rfl,
      ⟨hphase, _, hmore, hleads.sent⟩, trivial⟩
  | refused cause hsame =>
    exact ⟨hmeeting, by simp [Member.trade, fail], by simp [Member.trade, fail], hdelivered rfl,
      by simp [Member.trade, CallStands, fail], trivial⟩
  | @registered element seen answer elapsed hsame =>
    rw [hsame] at hcall
    rcases hcall with ⟨hphase, hdone, -⟩
    refine ⟨hmeeting, by simp [Member.trade, waiting, hphase],
      by simp [Member.trade, waiting, hphase], hdelivered rfl, ⟨hphase, hloaded hdone, ?_⟩,
      trivial⟩
    intro hover
    rcases count_of_round hover with ⟨count, rfl, henough⟩
    rw [h.meeting.2.2] at henough
    exact hcount _ _ count elapsed rfl henough
  | rested hsame =>
    rw [hsame] at hcall
    rcases hcall with ⟨hphase, hdone, -⟩
    exact ⟨hmeeting, by simp [Member.trade, waiting, hphase],
      by simp [Member.trade, waiting, hphase], hdelivered rfl,
      ⟨hphase, hloaded hdone, by simp⟩, trivial⟩
  | passed answer hsame =>
    rw [hsame] at hcall
    have hphase : member.worker.phase = .complete := hcall
    exact ⟨hmeeting, by simp [Member.trade, ended, hphase], fun _ => h.complete hphase,
      fun _ => h.complete hphase, by simp [Member.trade, CallStands, ended, hphase], trivial⟩

/-- A member that delivers an element is passing it on. -/
theorem passing_of_delivered {exchange : Exchange α} {next : Worker α}
    (htrades : Trades member.worker exchange next)
    (hnew : (member.trade exchange next).delivered ≠ member.delivered) :
    ∃ element, member.worker.call = some (.passing element) := by
  rw [delivered_trade] at hnew
  cases htrades with
  | asked answer hsame => exact absurd (List.append_nil _) hnew
  | taken hsame => exact absurd (List.append_nil _) hnew
  | refused cause hsame => exact absurd (List.append_nil _) hnew
  | registered answer elapsed hsame => exact absurd (List.append_nil _) hnew
  | rested hsame => exact absurd (List.append_nil _) hnew
  | passed answer hsame => exact ⟨_, hsame⟩

/-- When a member delivers an element, all members have loaded. -/
theorem Stands.of_delivered (h : member.Stands name workers index own all)
    {exchange : Exchange α} {next : Worker α} (htrades : Trades member.worker exchange next)
    (hnew : (member.trade exchange next).delivered ≠ member.delivered) : all := by
  rcases passing_of_delivered htrades hnew with ⟨element, hpassing⟩
  have hcall := h.call
  rw [hpassing] at hcall
  exact h.complete hcall

/-! ## Registrations -/

/-- A member that asks to be registered is about to register, under the name and with its
own number. -/
theorem Stands.of_register (h : member.Stands name workers index own all) {called : String}
    {worker : UInt32} {resume : Except Failure Nat × Nat → Worker α}
    (hview : member.worker.view = .want (.register called worker) resume) :
    member.IsArriving ∧ called = name ∧ worker = index := by
  have htrades := trades_of_view hview (.ok 0, 0)
  generalize resume (.ok 0, 0) = next at htrades
  generalize hexchange :
    (⟨.register called worker, (.ok 0, 0)⟩ : Exchange α) = exchange at htrades
  cases htrades with
  | registered answer elapsed hsame =>
    cases hexchange
    exact ⟨⟨_, _, hsame⟩, h.meeting.1, h.meeting.2.1⟩
  | asked answer hsame => cases hexchange
  | taken hsame => cases hexchange
  | refused cause hsame => cases hexchange
  | rested hsame => cases hexchange
  | passed answer hsame => cases hexchange

/-- A member that is about to register has found a slot of the name. -/
theorem Stands.find (h : member.Stands name workers index own all)
    (harriving : member.IsArriving) {slot : SlotId} (hown : own slot) :
    (member.go (.found slot)).Stands name workers index own all :=
  ⟨h.meeting, h.fresh, h.complete, h.delivered, h.call, harriving, hown⟩

/-- It has been entered there, and as many were counted. -/
theorem Stands.enter (h : member.Stands name workers index own all)
    (harriving : member.IsArriving) {slot : SlotId} {count : Nat}
    (hcount : workers.toNat ≤ count → all) :
    (member.go (.entered slot count)).Stands name workers index own all :=
  ⟨h.meeting, h.fresh, h.complete, h.delivered, h.call, harriving, hcount⟩

end Member

end KeyIndex
