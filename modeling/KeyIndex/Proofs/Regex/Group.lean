import KeyIndex.Proofs.Regex.Parser

/-!
# Patterns inside of a group

A pattern that stands inside of a group is read like the pattern alone, with one more frame
below all others.  This holds as long as it closes no group that it has not opened.

Main definitions:

- `State.within`: a state inside of one more group.
- `ClosesOutside`: a pattern closes a group that it has not opened.

Main results:

- Theorem `step_within`: one element, with one more group around.
- Theorem `run_of_closesOutside`: no pattern that closes a group around it can be read alone.
- Theorems `step_inside`, `run_within`: what is read inside of a group is read alone.
-/

namespace KeyIndex.Regex.Pattern.Parser

variable {st after last : State} {bottom : Frame} {cs rest : List Char}

/-! ## One more group around -/

/-- The same state inside of one more group, which is around all that are open. -/
def State.within (st : State) (bottom : Frame) : State :=
  { st with frames := st.frames ++ [bottom] }

/-- What has been read inside of one more group, and what follows it. -/
def readWithin (bottom : Frame) (read : State × List Char) : State × List Char :=
  (read.1.within bottom, read.2)

theorem closeGroup_within (h : st.frames ≠ []) :
    closeGroup (st.within bottom) = (closeGroup st).map (·.within bottom) := by
  rcases st with ⟨_ | ⟨frame, frames⟩, parts, branches, verbose, names⟩
  · exact absurd rfl h
  · rfl

theorem repeatLast_within (st : State) (bottom : Frame) (min : Nat) (max : Option Nat) :
    repeatLast (st.within bottom) min max = (repeatLast st min max).map (·.within bottom) := by
  rcases st with ⟨frames, _ | ⟨part, parts⟩, branches, verbose, names⟩
  · rfl
  · cases part <;> rfl

theorem operator_within (st : State) (bottom : Frame) (min : Nat) (max : Option Nat)
    (rest : List Char) :
    (repeatLast (st.within bottom) min max).map (·, rest) =
      ((repeatLast st min max).map (·, rest)).map (readWithin bottom) := by
  rw [repeatLast_within, Option.map_map, Option.map_map]
  rfl

theorem namedGroup_within (st : State) (bottom : Frame) (cs : List Char) :
    namedGroup (st.within bottom) cs = (namedGroup st cs).map (readWithin bottom) := by
  unfold namedGroup
  cases groupName cs with
  | none => rfl
  | some read =>
    rcases read with ⟨name, rest⟩
    simp only [Option.bind_eq_bind, Option.bind_some]
    have hnames : (st.within bottom).names = st.names := rfl
    rw [hnames]
    split
    · rfl
    · rfl

theorem flagGroup_within (st : State) (bottom : Frame) (cs : List Char) :
    flagGroup (st.within bottom) cs = (flagGroup st cs).map (readWithin bottom) := by
  unfold flagGroup
  cases flagChanges false false [] cs with
  | none => rfl
  | some read =>
    simp only [Option.bind_eq_bind, Option.bind_some]
    split
    · rfl
    · rfl
    · rfl
    · rfl

theorem afterParenthesis_within (st : State) (bottom : Frame) (cs : List Char) :
    afterParenthesis (st.within bottom) cs =
      (afterParenthesis st cs).map (readWithin bottom) := by
  rw [afterParenthesis_eq, afterParenthesis_eq]
  have hverbose : (st.within bottom).verbose = st.verbose := rfl
  rw [hverbose]
  split
  · rfl
  · rfl
  · rfl
  · rfl
  · exact namedGroup_within st bottom _
  · exact namedGroup_within st bottom _
  · exact flagGroup_within st bottom _
  · rfl

/-- An element is read the same way inside of one more group, unless it closes a group where
none is open. -/
theorem step_within (st : State) (bottom : Frame) {c : Char} {cs : List Char}
    (h : c = ')' → st.frames ≠ []) :
    step (st.within bottom) (c :: cs) = (step st (c :: cs)).map (readWithin bottom) := by
  have hverbose : (st.within bottom).verbose = st.verbose := rfl
  rw [step_cons, step_cons, hverbose]
  split
  · exact afterParenthesis_within st bottom cs
  split
  · rename_i hend
    rw [closeGroup_within (h hend), Option.map_map, Option.map_map]
    rfl
  split
  · rfl
  split
  · cases Bracket.parse st.verbose cs <;> rfl
  split
  · exact operator_within st bottom _ _ _
  split
  · exact operator_within st bottom _ _ _
  split
  · exact operator_within st bottom _ _ _
  split
  · cases bounds st.verbose cs with
    | none => rfl
    | some read => exact operator_within st bottom _ _ _
  · cases primitive st.verbose (c :: cs) <;> rfl

/-- One element, and the rest of the text. -/
theorem run_of_step {element : List Char} (hskip : skip st.verbose cs = element)
    (hstep : step st element = some (after, rest)) (hless : rest.length < cs.length) :
    run st cs = run after rest := by
  rw [run, hskip]
  rcases element with _ | ⟨c, front⟩
  · cases hstep
  · simp only [hstep, hless, if_true]

/-! ## Patterns that close a group around them -/

/-- From a state a pattern is read up to a closing parenthesis where no group is open. -/
inductive ClosesOutside : State → List Char → Prop where
  | here {st : State} {cs rest : List Char} : st.frames = [] →
      skip st.verbose cs = ')' :: rest → ClosesOutside st cs
  | later {st after : State} {cs rest : List Char} :
      step st (skip st.verbose cs) = some (after, rest) → ClosesOutside after rest →
        ClosesOutside st cs

/-- Such a pattern is none that can be read. -/
theorem run_of_closesOutside (h : ClosesOutside st cs) : run st cs = none := by
  induction h with
  | here hframes hskip =>
    rw [run, hskip]
    simp only [step, closeGroup, hframes, Option.map_none]
  | @later st after cs rest hstep _ ih =>
    rw [run]
    rcases hskip : skip st.verbose cs with _ | ⟨c, front⟩
    · rw [hskip] at hstep
      cases hstep
    · rw [hskip] at hstep
      simp only [hstep, ih, ite_self]

/-! ## The start of a group -/

/-- What stands around a pattern that must match whole texts, before it. -/
def textStart : Frame := ⟨[.assertion .lineStart], [], false, [], false⟩

/-- After the start of the text a group is opened. -/
theorem run_opening (cs : List Char) :
    run .initial ('^' :: '(' :: '?' :: ':' :: cs) = run (State.initial.within textStart) cs := by
  have hstart : step .initial ('^' :: '(' :: '?' :: ':' :: cs) =
      some (State.initial.push (.assertion .lineStart), '(' :: '?' :: ':' :: cs) := rfl
  have hgroup : step (State.initial.push (.assertion .lineStart)) ('(' :: '?' :: ':' :: cs) =
      some (State.initial.within textStart, cs) := rfl
  have hless : cs.length < ('(' :: '?' :: ':' :: cs).length := by
    simp only [List.length_cons]
    omega
  rw [run_of_step rfl hstart (Nat.lt_succ_self _), run_of_step rfl hgroup hless]

/-! ## The end of a group -/

theorem run_nil (st : State) : run st [] = some st := by
  rw [run]
  cases st.verbose <;> rfl

theorem run_dollar (st : State) : run st ['$'] = some (st.push (.assertion .lineStop)) := by
  rw [run]
  have hskip : skip st.verbose ['$'] = ['$'] := by cases st.verbose <;> decide
  rw [hskip]
  exact run_nil _

theorem run_dangling (h : Dangling st.verbose rest) : run st rest = none := by
  rcases h with ⟨left, rfl, hskip⟩
  have hblank : isBlank '{' = false := by decide
  have hbrace : skip st.verbose ('{' :: left) = '{' :: left := by
    cases st.verbose with
    | false => rfl
    | true => simp [skip, skipBlanks, hblank]
  have hnumber : decimal st.verbose closing = none := by cases st.verbose <;> decide
  have hbounds : bounds st.verbose left = none := by
    rw [bounds_eq, hskip, hnumber]
    rfl
  rw [run, hbrace]
  simp [step, hbounds]

/-- What remains closes no group. -/
theorem frames_of_run_of_takes {before : State} (htakes : Takes before after rest)
    (hbefore : before.frames ≠ []) (hrun : run after rest = some last) : last.frames ≠ [] := by
  have hframes := htakes.2 hbefore
  rcases htakes.1 with (rfl | rfl) | hdangling
  · rw [run_dollar] at hrun
    cases hrun
    exact hframes
  · rw [run_nil] at hrun
    cases hrun
    exact hframes
  · rw [run_dangling hdangling] at hrun
    cases hrun

/-- The state after the closing: a group with all that was read, and the end of the text. -/
def State.closed (st : State) (bottom : Frame) : State :=
  ⟨[], .assertion .lineStop :: .group bottom.captures bottom.changes st.body :: bottom.parts,
    bottom.branches, bottom.verbose, st.names⟩

/-- Blanks and the closing are left. -/
theorem run_closing (hskip : skip st.verbose rest = closing) (hlength : 1 < rest.length) :
    run st rest = closeGroup st >>= fun after => some (after.push (.assertion .lineStop)) := by
  rw [run, hskip]
  simp only [closing, step]
  cases closeGroup st with
  | none => rfl
  | some after =>
    simp only [Option.map_some, List.length_singleton, hlength, if_true]
    exact run_dollar after

/-- The closing ends the text of a pattern when it closes the group around the pattern. -/
theorem closed_of_closeGroup
    (h : (closeGroup (st.within bottom) >>= fun after =>
      some (after.push (.assertion .lineStop))) = some last)
    (hlast : last.frames = []) : st.frames = [] ∧ last = st.closed bottom := by
  rcases st with ⟨_ | ⟨frame, frames⟩, parts, branches, verbose, names⟩
  · cases h
    exact ⟨rfl, rfl⟩
  · cases h
    exact absurd hlast (List.append_ne_nil_of_right_ne_nil _ (List.cons_ne_nil _ _))

/-- One element inside of a group, and before the closing: some of the closing is taken, or the
group around is closed, or the element is one of the pattern alone. -/
theorem step_inside {next : State} {c : Char} {front : List Char}
    (hstep : step (st.within bottom) (c :: (front ++ closing)) = some (next, rest)) :
    Takes (st.within bottom) next rest ∨ (c = ')' ∧ st.frames = []) ∨
      ∃ after left, step st (c :: front) = some (after, left) ∧ next = after.within bottom ∧
        rest = left ++ closing := by
  rcases agrees_step (st.within bottom) c front next rest hstep with htakes | ⟨left, hrest, hown⟩
  · exact .inl htakes
  · by_cases hout : c = ')' ∧ st.frames = []
    · exact .inr (.inl hout)
    · rw [step_within st bottom fun hc hframes => hout ⟨hc, hframes⟩] at hown
      rcases Option.map_eq_some_iff.mp hown with ⟨⟨after, left⟩, hafter, ⟨⟩⟩
      exact .inr (.inr ⟨after, left, hafter, rfl, hrest⟩)

/-- A pattern that is read inside of a group, to the end of the text, is read alone. -/
theorem run_within (hrun : run (st.within bottom) (cs ++ closing) = some last)
    (hlast : last.frames = []) :
    ClosesOutside st cs ∨
      ∃ own, run st cs = some own ∧ own.frames = [] ∧ last = own.closed bottom := by
  have hinside : ∀ st : State, (st.within bottom).frames ≠ [] := fun st =>
    List.append_ne_nil_of_right_ne_nil _ (List.cons_ne_nil _ _)
  -- On what is left of the pattern.  All along, the state in the group is the state of the
  -- pattern alone with one more frame.
  induction hlength : cs.length using Nat.strongRecOn generalizing cs st with
  | _ length ih =>
    subst hlength
    have hverbose : (st.within bottom).verbose = st.verbose := rfl
    rcases skip_closing st.verbose cs with h | h
    · rcases hfront : skip st.verbose cs with _ | ⟨c, front⟩
      · have hlength : 1 < (cs ++ closing).length := by simp [closing]
        rw [hfront, ← hverbose] at h
        rw [run_closing h hlength] at hrun
        rcases closed_of_closeGroup hrun hlast with ⟨hframes, hclosed⟩
        refine .inr ⟨st, ?_, hframes, hclosed⟩
        rw [run, hfront]
      · rw [run, hverbose, h, hfront] at hrun
        simp only [List.cons_append] at hrun
        split at hrun
        · cases hrun
        · rename_i next rest hstep
          split at hrun
          · rename_i hless
            rcases step_inside hstep with htakes | ⟨rfl, hframes⟩ | ⟨after, left, hown, rfl, rfl⟩
            · exact absurd hlast (frames_of_run_of_takes htakes (hinside st) hrun)
            · exact .inl (.here hframes hfront)
            · rw [List.length_append, List.length_append, Nat.add_lt_add_iff_right] at hless
              rcases ih _ hless hrun rfl with hlater | ⟨own, hrest, hframes, hclosed⟩
              · exact .inl (.later (hfront ▸ hown) hlater)
              · exact .inr ⟨own, (run_of_step hfront hown hless).trans hrest, hframes, hclosed⟩
          · cases hrun
    · -- A comment has taken the closing.
      rw [run, hverbose, h] at hrun
      cases hrun
      exact absurd hlast (hinside st)

end KeyIndex.Regex.Pattern.Parser
