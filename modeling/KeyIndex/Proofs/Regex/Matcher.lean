import KeyIndex.Regex.Matcher
import Mathlib.Data.Nat.Bitwise

/-!
# Matching finds what expressions describe

A set of positions is followed through an expression all at once.  Where this gets to are
the ends of the described parts that start in the set, and no other positions.

Main definitions:

- `Regex.Within`: sets with no position after the end of a text.
- `Regex.Follows`: steps that take each set to what a relation reaches from it.
- `Regex.Frontier`: how far a repetition has been followed.

Main results:

- Theorem `Regex.follows_reach`: `reach` finds the ends of the described parts.
- Theorem `Regex.occurs_iff`: `occurs` tells whether some part is described.
-/

namespace KeyIndex.Regex

/-! ## Sets of positions -/

/-- No position of a set is after the end of a text of `size` characters. -/
def Within (size : Nat) (ps : Positions) : Prop := ∀ i, ps.testBit i = true → i ≤ size

theorem Within.or {size : Nat} {ps qs : Positions} (hps : Within size ps)
    (hqs : Within size qs) : Within size (ps ||| qs) := by
  intro i hi
  rw [Nat.testBit_or, Bool.or_eq_true] at hi
  exact hi.elim (hps i) (hqs i)

theorem eq_zero_iff (ps : Positions) : ps = 0 ↔ ∀ i, ps.testBit i = false := by
  constructor
  · intro hnone i
    simp [hnone]
  · intro hnone
    exact Nat.zero_of_testBit_eq_false hnone

theorem testBit_without (ps qs : Positions) (i : Nat) :
    (ps.without qs).testBit i = (ps.testBit i && !qs.testBit i) := by
  rw [Positions.without, Nat.testBit_xor, Nat.testBit_and]
  cases ps.testBit i <;> cases qs.testBit i <;> rfl

/-- The positions below `half` and those from `half` on make up all. -/
theorem testBit_halves (ps : Positions) (half i : Nat) :
    ps.testBit i = if i < half then (ps &&& ((1 <<< half) - 1)).testBit i
      else (ps >>> half).testBit (i - half) := by
  by_cases hi : i < half
  · simp [hi, Nat.one_shiftLeft]
  · rw [if_neg hi, Nat.testBit_shiftRight, Nat.add_sub_cancel' (Nat.not_lt.mp hi)]

theorem testBit_low {ps : Positions} {half i : Nat}
    (hi : (ps &&& ((1 <<< half) - 1)).testBit i = true) : i < half := by
  rw [Nat.testBit_and, Nat.one_shiftLeft, Nat.testBit_two_pow_sub_one] at hi
  simp at hi
  exact hi.2

/-- Of positions below `size`, those are kept at which the test succeeds. -/
theorem testBit_keepFrom (test : Nat → Bool) (start size : Nat) (ps : Positions)
    (hps : ∀ i, ps.testBit i = true → i < size) (i : Nat) :
    (keepFrom test start size ps).testBit i = (ps.testBit i && test (start + i)) := by
  induction start, size, ps using keepFrom.induct test generalizing i with
  | case1 start size => simp [keepFrom]
  | case2 start size ps hsome hsmall htest =>
    rw [keepFrom, if_neg hsome, if_pos hsmall, if_pos htest]
    cases hi : ps.testBit i with
    | false => rfl
    | true =>
      have hfirst : i = 0 := by have := hps i hi; omega
      simp [hfirst, htest]
  | case3 start size ps hsome hsmall htest =>
    rw [keepFrom, if_neg hsome, if_pos hsmall, if_neg htest, Nat.zero_testBit]
    cases hi : ps.testBit i with
    | false => rfl
    | true =>
      have hfirst : i = 0 := by have := hps i hi; omega
      simp [hfirst, htest]
  | case4 start size ps hsome hlarge half low ihlow ihhigh =>
    have hhalf : half < size := by omega
    have hlow : ∀ i, low.testBit i = true → i < half := fun i hi => testBit_low hi
    have hhigh : ∀ i, (ps >>> half).testBit i = true → i < size - half := by
      intro i hi
      rw [Nat.testBit_shiftRight] at hi
      have := hps _ hi
      omega
    have hkeep : keepFrom test start size ps = keepFrom test start half low |||
        (keepFrom test (start + half) (size - half) (ps >>> half) <<< half) := by
      rw [keepFrom, if_neg hsome, if_neg hlarge]
    rw [hkeep, Nat.testBit_or, Nat.testBit_shiftLeft, ihlow hlow, testBit_halves ps half i]
    by_cases hi : i < half
    · simp [hi, low]
    · have hnot : low.testBit i = false := Bool.eq_false_iff.mpr fun h => hi (hlow i h)
      have hsum : start + half + (i - half) = start + i := by omega
      rw [if_neg hi, hnot, ihhigh hhigh, hsum]
      simp [Nat.not_lt.mp hi]

theorem testBit_keep {size : Nat} {ps : Positions} (hps : Within size ps) (test : Nat → Bool)
    (i : Nat) : (ps.keep (size + 1) test).testBit i = (ps.testBit i && test i) := by
  rw [Positions.keep, testBit_keepFrom test 0 (size + 1) ps fun i hi => by have := hps i hi; omega,
    Nat.zero_add]

/-! ## Steps and relations -/

/-- A step takes each set of positions of a text to the set of all positions that the relation
reaches from one of them. -/
def Follows (size : Nat) (step : Positions → Positions) (R : Nat → Nat → Prop) : Prop :=
  ∀ ps, Within size ps →
    ∀ j, (step ps).testBit j = true ↔ ∃ i, ps.testBit i = true ∧ R i j

/-- A relation between the positions of a text that never leads back. -/
structure Forward (size : Nat) (R : Nat → Nat → Prop) : Prop where
  le : ∀ {i j}, R i j → i ≤ j
  bound : ∀ {i j}, i ≤ size → R i j → j ≤ size

variable {size : Nat} {step : Positions → Positions} {R : Nat → Nat → Prop}

/-- What a step reaches are positions of the text again. -/
theorem Follows.within (hstep : Follows size step R) (hR : Forward size R) {ps : Positions}
    (hps : Within size ps) : Within size (step ps) := by
  intro j hj
  rcases (hstep ps hps j).mp hj with ⟨i, hi, hij⟩
  exact hR.bound (hps i hi) hij

/-! ## Repetition -/

theorem Repeats.add {m n i j k : Nat} (hfirst : Repeats R m i j) (hsecond : Repeats R n j k) :
    Repeats R (m + n) i k := by
  induction hfirst with
  | zero i => simpa using hsecond
  | @succ m i j k hstep _ ih =>
    rw [Nat.succ_add_eq_add_succ, Nat.add_succ]
    exact .succ hstep (ih hsecond)

theorem Repeats.split {m n i k : Nat} (h : Repeats R (m + n) i k) :
    ∃ j, Repeats R m i j ∧ Repeats R n j k := by
  induction m generalizing i with
  | zero => exact ⟨i, .zero i, by simpa using h⟩
  | succ m ih =>
    rw [Nat.succ_add] at h
    cases h with
    | succ hstep hrest =>
      rcases ih hrest with ⟨j, hfirst, hsecond⟩
      exact ⟨j, .succ hstep hfirst, hsecond⟩

/-- Repetition of a relation that never leads back does not either. -/
theorem Forward.repeats (hR : Forward size R) (n : Nat) : Forward size (Repeats R n) where
  le h := by
    induction h with
    | zero => exact Nat.le_refl _
    | succ hstep _ ih => exact Nat.le_trans (hR.le hstep) ih
  bound hi h := by
    induction h with
    | zero => exact hi
    | succ hstep _ ih => exact ih (hR.bound hi hstep)

/-- Steps that stay where they are can be left out.  The others go on by at least one
position each. -/
theorem Forward.exists_repeats_le (hR : Forward size R) {n i j : Nat} (h : Repeats R n i j) :
    ∃ m ≤ n, m ≤ j - i ∧ Repeats R m i j := by
  induction h with
  | zero i => exact ⟨0, Nat.le_refl 0, by omega, .zero i⟩
  | @succ n i j k hstep hrest ih =>
    rcases ih with ⟨m, hm, hlength, hrepeats⟩
    have hij := hR.le hstep
    have hjk := (hR.repeats m).le hrepeats
    by_cases hstays : i = j
    · subst hstays
      exact ⟨m, by omega, hlength, hrepeats⟩
    · exact ⟨m + 1, by omega, by omega, .succ hstep hrepeats⟩

/-- A number of steps, one after another. -/
theorem follows_iterate (hstep : Follows size step R) (hR : Forward size R) (n : Nat) :
    Follows size (iterate step n) (Repeats R n) := by
  induction n with
  | zero =>
    intro ps _ j
    constructor
    · intro hj
      exact ⟨j, hj, .zero j⟩
    · rintro ⟨i, hi, hrepeats⟩
      cases hrepeats
      exact hi
  | succ n ih =>
    intro ps hps j
    -- When there are no positions left, the steps that remain are left out.
    have hnext : iterate step (n + 1) ps = if ps = 0 then 0 else
        iterate step n (step ps) := rfl
    by_cases hnone : ps = 0
    · rw [hnext, if_pos hnone, hnone]
      simp
    · rw [hnext, if_neg hnone, ih (step ps) (hstep.within hR hps) j]
      constructor
      · rintro ⟨k, hk, hrepeats⟩
        rcases (hstep ps hps k).mp hk with ⟨i, hi, hik⟩
        exact ⟨i, hi, .succ hik hrepeats⟩
      · rintro ⟨i, hi, hrepeats⟩
        cases hrepeats with
        | succ hik hrest => exact ⟨_, (hstep ps hps _).mpr ⟨i, hi, hik⟩, hrest⟩

/-- From `starts` all that `n` steps or fewer reach is `reached`.  What else one more step
reaches it reaches from the `fresh` positions. -/
structure Frontier (size : Nat) (R : Nat → Nat → Prop) (starts : Positions) (n : Nat)
    (fresh reached : Positions) : Prop where
  reached_iff : ∀ j, reached.testBit j = true ↔
    ∃ i m, m ≤ n ∧ starts.testBit i = true ∧ Repeats R m i j
  fresh_reached : ∀ j, fresh.testBit j = true → reached.testBit j = true
  closed : ∀ {i j}, reached.testBit i = true → fresh.testBit i = false → R i j →
    reached.testBit j = true
  within : Within size reached

/-- Before the first step. -/
theorem frontier_start {starts : Positions} (h : Within size starts) :
    Frontier size R starts 0 starts starts where
  reached_iff j := by
    constructor
    · intro hj
      exact ⟨j, 0, Nat.le_refl 0, hj, .zero j⟩
    · rintro ⟨i, m, hm, hi, hrepeats⟩
      cases Nat.le_zero.mp hm
      cases hrepeats
      exact hi
  fresh_reached _ hj := hj
  closed hi hnot _ := by simp [hi] at hnot
  within := h

namespace Frontier

variable {starts fresh reached : Positions} {n : Nat}

/-- One more step, from the fresh positions only. -/
theorem next (h : Frontier size R starts n fresh reached) (hstep : Follows size step R)
    (hR : Forward size R) :
    Frontier size R starts (n + 1) ((step fresh).without reached)
      (reached ||| (step fresh).without reached) := by
  have hfresh : Within size fresh := fun i hi => h.within i (h.fresh_reached i hi)
  -- A position is reached by now if it was before, or by a step from a fresh one.
  have hmem : ∀ j, (reached ||| (step fresh).without reached).testBit j = true ↔
      reached.testBit j = true ∨ ∃ i, fresh.testBit i = true ∧ R i j := by
    intro j
    rw [Nat.testBit_or, testBit_without, ← hstep fresh hfresh j]
    cases reached.testBit j <;> simp
  have hclosed : ∀ {i j}, reached.testBit i = true → R i j →
      (reached ||| (step fresh).without reached).testBit j = true := by
    intro i j hi hij
    rw [hmem]
    cases hnew : fresh.testBit i with
    | false => exact .inl (h.closed hi hnew hij)
    | true => exact .inr ⟨i, hnew, hij⟩
  constructor
  · intro j
    constructor
    · intro hj
      rcases (hmem j).mp hj with hold | ⟨k, hk, hkj⟩
      · rcases (h.reached_iff j).mp hold with ⟨i, m, hm, hi, hrepeats⟩
        exact ⟨i, m, by omega, hi, hrepeats⟩
      · rcases (h.reached_iff k).mp (h.fresh_reached k hk) with ⟨i, m, hm, hi, hrepeats⟩
        exact ⟨i, m + 1, by omega, hi, hrepeats.add (.succ hkj (.zero j))⟩
    · rintro ⟨i, m, hm, hi, hrepeats⟩
      by_cases hfew : m ≤ n
      · exact (hmem j).mpr (.inl ((h.reached_iff j).mpr ⟨i, m, hfew, hi, hrepeats⟩))
      · have hlast : m = n + 1 := by omega
        subst hlast
        rcases hrepeats.split with ⟨k, hfirst, hsecond⟩
        cases hsecond with
        | succ hkj hzero =>
          cases hzero
          exact hclosed ((h.reached_iff k).mpr ⟨i, n, Nat.le_refl n, hi, hfirst⟩) hkj
  · intro j hj
    rw [Nat.testBit_or, hj, Bool.or_true]
  · intro i j hi hnot hij
    rw [Nat.testBit_or, hnot, Bool.or_false] at hi
    exact hclosed hi hij
  · refine h.within.or fun j hj => ?_
    rw [testBit_without, Bool.and_eq_true] at hj
    exact (hstep.within hR hfresh) j hj.1

/-- When a step from the fresh positions reaches nothing new, no number of steps does. -/
theorem stop (h : Frontier size R starts n fresh reached) (hstep : Follows size step R)
    (hnone : (step fresh).without reached = 0) (j : Nat) :
    reached.testBit j = true ↔ ∃ i m, starts.testBit i = true ∧ Repeats R m i j := by
  have hfresh : Within size fresh := fun i hi => h.within i (h.fresh_reached i hi)
  have hclosed : ∀ {i j}, reached.testBit i = true → R i j → reached.testBit j = true := by
    intro i j hi hij
    cases hnew : fresh.testBit i with
    | false => exact h.closed hi hnew hij
    | true =>
      have hj := (eq_zero_iff _).mp hnone j
      rw [testBit_without, (hstep fresh hfresh j).mpr ⟨i, hnew, hij⟩] at hj
      simpa using hj
  constructor
  · intro hj
    rcases (h.reached_iff j).mp hj with ⟨i, m, -, hi, hrepeats⟩
    exact ⟨i, m, hi, hrepeats⟩
  · rintro ⟨i, m, hi, hrepeats⟩
    have hstart : reached.testBit i = true :=
      (h.reached_iff i).mpr ⟨i, 0, Nat.zero_le n, hi, .zero i⟩
    clear hi
    induction hrepeats with
    | zero => exact hstart
    | succ hij _ ih => exact ih (hclosed hstart hij)

/-- What is reached by up to `rounds` more steps. -/
theorem testBit_spread (h : Frontier size R starts n fresh reached)
    (hstep : Follows size step R) (hR : Forward size R) (rounds j : Nat) :
    (spread step rounds fresh reached).testBit j = true ↔
      ∃ i m, m ≤ n + rounds ∧ starts.testBit i = true ∧ Repeats R m i j := by
  induction rounds generalizing n fresh reached with
  | zero => exact h.reached_iff j
  | succ rounds ih =>
    have hnext : spread step (rounds + 1) fresh reached =
        if (step fresh).without reached = 0 then reached
        else spread step rounds ((step fresh).without reached)
          (reached ||| (step fresh).without reached) := rfl
    by_cases hnone : (step fresh).without reached = 0
    · rw [hnext, if_pos hnone]
      constructor
      · intro hj
        rcases (h.reached_iff j).mp hj with ⟨i, m, hm, hi, hrepeats⟩
        exact ⟨i, m, by omega, hi, hrepeats⟩
      · rintro ⟨i, m, -, hi, hrepeats⟩
        exact (h.stop hstep hnone j).mpr ⟨i, m, hi, hrepeats⟩
    · rw [hnext, if_neg hnone, ih (h.next hstep hR), Nat.add_right_comm, Nat.add_assoc]

end Frontier

/-- Some steps, and then at most `rounds` more. -/
theorem follows_spread (hstep : Follows size step R) (hR : Forward size R) (min rounds : Nat) :
    Follows size (fun ps => spread step rounds (iterate step min ps) (iterate step min ps))
      (fun i j => ∃ m, m ≤ rounds ∧ Repeats R (min + m) i j) := by
  intro ps hps j
  have hfirst := follows_iterate hstep hR min
  have hstart := frontier_start (R := R) (hfirst.within (hR.repeats min) hps)
  rw [hstart.testBit_spread hstep hR, Nat.zero_add]
  constructor
  · rintro ⟨k, m, hm, hk, hsecond⟩
    rcases (hfirst ps hps k).mp hk with ⟨i, hi, hrepeats⟩
    exact ⟨i, hi, m, hm, hrepeats.add hsecond⟩
  · rintro ⟨i, hi, m, hm, hrepeats⟩
    rcases hrepeats.split with ⟨k, hbefore, hafter⟩
    exact ⟨k, m, hm, (hfirst ps hps k).mpr ⟨i, hi, hbefore⟩, hafter⟩

/-! ## Expressions -/

variable {text : Chars}

/-- The parts that an expression describes end where they start or later. -/
theorem forward_spans (text : Chars) (r : Regex) : Forward text.size (r.Spans text) := by
  induction r with
  | empty =>
    constructor
    · rintro i j rfl
      exact Nat.le_refl _
    · rintro i j hi rfl
      exact hi
  | one set =>
    constructor
    · rintro i j ⟨rfl, -⟩
      omega
    · rintro i j - ⟨rfl, c, hc, -⟩
      exact (Array.getElem?_eq_some_iff.mp hc).1
  | look assertion =>
    constructor
    · rintro i j ⟨rfl, -⟩
      exact Nat.le_refl _
    · rintro i j hi ⟨rfl, -⟩
      exact hi
  | seq first second ihfirst ihsecond =>
    constructor
    · rintro i j ⟨k, hfirst, hsecond⟩
      exact Nat.le_trans (ihfirst.le hfirst) (ihsecond.le hsecond)
    · rintro i j hi ⟨k, hfirst, hsecond⟩
      exact ihsecond.bound (ihfirst.bound hi hfirst) hsecond
  | either left right ihleft ihright =>
    constructor
    · rintro i j (hleft | hright)
      · exact ihleft.le hleft
      · exact ihright.le hright
    · rintro i j hi (hleft | hright)
      · exact ihleft.bound hi hleft
      · exact ihright.bound hi hright
  | times body min max ih =>
    constructor
    · rintro i j ⟨n, -, -, hrepeats⟩
      exact (ih.repeats n).le hrepeats
    · rintro i j hi ⟨n, -, -, hrepeats⟩
      exact (ih.repeats n).bound hi hrepeats

/-- The character at the start of a part that is one character. -/
theorem follows_reach_one (text : Chars) (set : Unicode.CharSet) :
    Follows text.size ((one set).reach text) ((one set).Spans text) := by
  intro ps hps j
  rw [reach, Nat.testBit_shiftLeft, testBit_keep hps]
  constructor
  · intro hj
    simp only [Bool.and_eq_true, decide_eq_true_eq, Option.any_eq_true] at hj
    rcases hj with ⟨hpos, hi, c, hc, hset⟩
    exact ⟨j - 1, hi, by omega, c, hc, hset⟩
  · rintro ⟨i, hi, rfl, c, hc, hset⟩
    simp [hi, hc, hset]

theorem follows_reach_look (text : Chars) (assertion : Look) :
    Follows text.size ((look assertion).reach text) ((look assertion).Spans text) := by
  intro ps hps j
  rw [reach, testBit_keep hps, Bool.and_eq_true]
  constructor
  · rintro ⟨hj, hholds⟩
    exact ⟨j, hj, rfl, hholds⟩
  · rintro ⟨i, hi, rfl, hholds⟩
    exact ⟨hi, hholds⟩

/-- A repetition without a bound is followed for one round more than there are characters.
Everything that it describes is reached by then, as every step that counts goes on by a
character. -/
theorem follows_reach_times {body : Regex}
    (ih : Follows text.size (body.reach text) (body.Spans text)) (min : Nat) (max : Option Nat) :
    Follows text.size ((times body min max).reach text) ((times body min max).Spans text) := by
  intro ps hps j
  have hforward := forward_spans text body
  cases max with
  | none =>
    rw [reach, (follows_spread ih hforward min (text.size + 1)) ps hps j]
    constructor
    · rintro ⟨i, hi, m, -, hrepeats⟩
      exact ⟨i, hi, min + m, Nat.le_add_right min m, nofun, hrepeats⟩
    · rintro ⟨i, hi, n, hmin, -, hrepeats⟩
      rcases Nat.exists_eq_add_of_le hmin with ⟨more, rfl⟩
      rcases hrepeats.split with ⟨k, hfirst, hsecond⟩
      rcases hforward.exists_repeats_le hsecond with ⟨m, -, hlength, hshort⟩
      have hk := (hforward.repeats min).bound (hps i hi) hfirst
      have hj := (hforward.repeats m).bound hk hshort
      exact ⟨i, hi, m, by omega, hfirst.add hshort⟩
  | some max =>
    by_cases hless : max < min
    · rw [reach, if_pos hless, Nat.zero_testBit]
      constructor
      · nofun
      · rintro ⟨i, -, n, hmin, hmax, -⟩
        have := hmax max rfl
        omega
    · rw [reach, if_neg hless, (follows_spread ih hforward min (max - min)) ps hps j]
      constructor
      · rintro ⟨i, hi, m, hm, hrepeats⟩
        refine ⟨i, hi, min + m, Nat.le_add_right min m, ?_, hrepeats⟩
        rintro _ ⟨⟩
        omega
      · rintro ⟨i, hi, n, hmin, hmax, hrepeats⟩
        rcases Nat.exists_eq_add_of_le hmin with ⟨more, rfl⟩
        have := hmax max rfl
        exact ⟨i, hi, more, by omega, hrepeats⟩

/-- From a set of positions `reach` gets to the ends of the parts that are described and start
there, and to no other position. -/
theorem follows_reach (text : Chars) (r : Regex) :
    Follows text.size (r.reach text) (r.Spans text) := by
  induction r with
  | empty =>
    intro ps _ j
    constructor
    · intro hj
      exact ⟨j, hj, rfl⟩
    · rintro ⟨i, hi, rfl⟩
      exact hi
  | one set => exact follows_reach_one text set
  | look assertion => exact follows_reach_look text assertion
  | seq first second ihfirst ihsecond =>
    intro ps hps j
    rw [reach, ihsecond _ (ihfirst.within (forward_spans text first) hps) j]
    constructor
    · rintro ⟨k, hk, hsecond⟩
      rcases (ihfirst ps hps k).mp hk with ⟨i, hi, hfirst⟩
      exact ⟨i, hi, k, hfirst, hsecond⟩
    · rintro ⟨i, hi, k, hfirst, hsecond⟩
      exact ⟨k, (ihfirst ps hps k).mpr ⟨i, hi, hfirst⟩, hsecond⟩
  | either left right ihleft ihright =>
    intro ps hps j
    rw [reach, Nat.testBit_or, Bool.or_eq_true, ihleft ps hps j, ihright ps hps j]
    constructor
    · rintro (⟨i, hi, hleft⟩ | ⟨i, hi, hright⟩)
      · exact ⟨i, hi, .inl hleft⟩
      · exact ⟨i, hi, .inr hright⟩
    · rintro ⟨i, hi, hleft | hright⟩
      · exact .inl ⟨i, hi, hleft⟩
      · exact .inr ⟨i, hi, hright⟩
  | times body min max ih => exact follows_reach_times ih min max

/-- A text is searched for a part that the expression describes, from every position. -/
theorem occurs_iff (r : Regex) (text : String) :
    r.occurs text = true ↔ r.Occurs text.toList.toArray := by
  have hmem : ∀ i, ((1 <<< (text.toList.toArray.size + 1)) - 1).testBit i = true ↔
      i ≤ text.toList.toArray.size := by
    intro i
    rw [Nat.one_shiftLeft, Nat.testBit_two_pow_sub_one, decide_eq_true_eq, Nat.lt_succ_iff]
  have hreach := follows_reach text.toList.toArray r
    ((1 <<< (text.toList.toArray.size + 1)) - 1) fun i hi => (hmem i).mp hi
  rw [occurs, bne_iff_ne, Ne, eq_zero_iff, Classical.not_forall]
  constructor
  · rintro ⟨j, hj⟩
    rcases (hreach j).mp (Bool.not_eq_false _ ▸ hj) with ⟨i, hi, hspans⟩
    exact ⟨i, j, (hmem i).mp hi, hspans⟩
  · rintro ⟨i, j, hi, hspans⟩
    refine ⟨j, ?_⟩
    rw [(hreach j).mpr ⟨i, (hmem i).mpr hi, hspans⟩]
    nofun

end KeyIndex.Regex
