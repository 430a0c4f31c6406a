import KeyIndex.Proofs.Regex.Bracket
import KeyIndex.Regex.Pattern.Parser

/-!
# Elements of patterns before a closing

An element of a pattern that has its first character in the text itself is read from the text
alone as it is read before the closing, or it takes a part of the closing.  In the second case
no group is closed by it, nor by what remains.

Main definitions:

- `Takes`: a step that takes a part of the closing.

Main results:

- Theorem `step_cons`: the kinds of elements, by their first character.
- Theorem `agrees_step`: one element before the closing.
-/

namespace KeyIndex.Regex.Pattern.Parser

/-! ## Flags and names -/

/-- Flags end before a parenthesis, which may be that of the closing. -/
theorem agrees_flagChanges (off afterHyphen : Bool) (seen : FlagChanges) (cs : List Char) :
    Agrees (fun _ rest => rest = closing) (flagChanges off afterHyphen seen cs)
      (flagChanges off afterHyphen seen (cs ++ closing)) := by
  induction cs generalizing off afterHyphen seen with
  | nil =>
    cases afterHyphen with
    | false =>
      rintro changes rest ⟨⟩
      exact .inl rfl
    | true => exact agrees_none _ _
  | cons c cs ih =>
    simp only [List.cons_append, flagChanges]
    split
    · split
      · exact agrees_none _ _
      · exact agrees_some _ (c :: cs)
    · split
      · split
        · exact agrees_none _ _
        · exact ih true true seen
      · cases flag? c with
        | none => exact agrees_none _ _
        | some flag =>
          simp only [Option.bind_eq_bind, Option.bind_some]
          split
          · exact agrees_none _ _
          · exact ih _ _ _

theorem agrees_groupName (cs : List Char) :
    Agrees (fun _ _ => False) (groupName cs) (groupName (cs ++ closing)) := by
  have hangle : '>' ∉ closing := by decide
  unfold groupName
  rcases span_stop cs hangle with ⟨_ | ⟨first, name⟩, left, hown, hwhole⟩ | ⟨-, hwhole⟩
  · rw [hown, hwhole]
    exact agrees_none _ _
  · rw [hown, hwhole]
    dsimp only
    split
    · exact agrees_some _ left
    · exact agrees_none _ _
  · generalize (cs ++ closing).span (· ≠ '>') = whole at hwhole
    rcases whole with ⟨_ | ⟨first, name⟩, rest⟩
    · exact agrees_none _ _
    · dsimp only at hwhole
      subst hwhole
      exact agrees_none _ _

/-! ## Groups -/

/-- Some of the closing was taken, or what remains is a dangling brace; and no group that was
open was closed. -/
def Takes (st after : State) (rest : List Char) : Prop :=
  (Spent rest ∨ Dangling after.verbose rest) ∧ (st.frames ≠ [] → after.frames ≠ [])

theorem agrees_namedGroup (st : State) (cs : List Char) :
    Agrees (Takes st) (namedGroup st cs) (namedGroup st (cs ++ closing)) := by
  refine (agrees_groupName cs).bind (fun name left => ?_) fun name rest => False.elim
  dsimp only
  split
  · exact agrees_none _ _
  · exact agrees_some _ left

/-- The flags after an opening parenthesis and a question mark. -/
def flagGroup (st : State) (cs : List Char) : Option (State × List Char) := do
  match ← flagChanges false false [] cs with
  | (changes, ':' :: rest) => some (openGroup st false changes st.names, rest)
  | ([], _) => none
  | (changes, _ :: rest) =>
    some ({ st.push (.flags changes) with verbose := verboseAfter changes st.verbose }, rest)
  | (_, []) => none

theorem afterParenthesis_eq (st : State) (cs : List Char) :
    afterParenthesis st cs = match skip st.verbose cs with
      | '?' :: '=' :: _ | '?' :: '!' :: _ | '?' :: '<' :: '=' :: _ | '?' :: '<' :: '!' :: _ => none
      | '?' :: 'P' :: '<' :: cs => namedGroup st cs
      | '?' :: '<' :: cs => namedGroup st cs
      | '?' :: cs => flagGroup st cs
      | cs => some (openGroup st true [] st.names, cs) := rfl

theorem agrees_flagGroup (st : State) (cs : List Char) :
    Agrees (Takes st) (flagGroup st cs) (flagGroup st (cs ++ closing)) := by
  refine (agrees_flagChanges false false [] cs).bind (fun changes left => ?_)
    fun changes rest hrest => ?_
  · dsimp only
    rcases left with _ | ⟨c, left⟩
    · apply Agrees.of_none
      rcases changes with _ | ⟨change, changes⟩
      · exact agrees_none _ _
      · exact agrees_taken ⟨.inl (.inl rfl), id⟩ _
    · by_cases hcolon : c = ':'
      · subst hcolon
        exact agrees_some _ left
      · rcases changes with _ | ⟨change, changes⟩
        · simp only [List.cons_append, List.cons.injEq, hcolon, false_and, imp_self, implies_true]
          exact agrees_none _ _
        · simp only [List.cons_append]
          exact agrees_some _ left
  · dsimp only at hrest ⊢
    subst hrest
    rcases changes with _ | ⟨change, changes⟩
    · exact agrees_none _ _
    · exact agrees_taken ⟨.inl (.inl rfl), id⟩ _

/-- What follows an opening parenthesis and a question mark. -/
theorem agrees_questionMark (st : State) {cs whole front : List Char}
    (h : skip st.verbose cs = '?' :: front)
    (hwhole : skip st.verbose whole = '?' :: (front ++ closing)) :
    Agrees (Takes st) (afterParenthesis st cs) (afterParenthesis st whole) := by
  rw [afterParenthesis_eq, afterParenthesis_eq, h, hwhole]
  rcases front with _ | ⟨c, front⟩
  · exact agrees_flagGroup st []
  · by_cases hequal : c = '='
    · subst hequal
      exact agrees_none _ _
    · by_cases hmark : c = '!'
      · subst hmark
        exact agrees_none _ _
      · by_cases hangle : c = '<'
        · subst hangle
          rcases front with _ | ⟨d, front⟩
          · exact agrees_namedGroup st []
          · by_cases hequal : d = '='
            · subst hequal
              exact agrees_none _ _
            · by_cases hmark : d = '!'
              · subst hmark
                exact agrees_none _ _
              · simp only [List.cons_append, List.cons.injEq, hequal, hmark, false_and, imp_self,
                  implies_true]
                exact agrees_namedGroup st (d :: front)
        · by_cases hletter : c = 'P'
          · subst hletter
            rcases front with _ | ⟨d, front⟩
            · exact agrees_flagGroup st ['P']
            · by_cases hangle : d = '<'
              · subst hangle
                exact agrees_namedGroup st front
              · simp only [List.cons_append, List.cons.injEq, Char.reduceEq, hangle, false_and,
                  and_false, imp_self, implies_true]
                exact agrees_flagGroup st ('P' :: d :: front)
          · simp only [List.cons_append, List.cons.injEq, hequal, hmark, hangle, hletter,
              false_and, imp_self, implies_true]
            exact agrees_flagGroup st (c :: front)

theorem agrees_afterParenthesis (st : State) (cs : List Char) :
    Agrees (Takes st) (afterParenthesis st cs) (afterParenthesis st (cs ++ closing)) := by
  have hopens : ∀ captures changes names rest, Spent rest →
      Takes st (openGroup st captures changes names) rest := by
    intro captures changes names rest hspent
    exact ⟨.inl hspent, fun _ => List.cons_ne_nil _ _⟩
  rcases skip_closing st.verbose cs with h | h
  · rcases hfront : skip st.verbose cs with _ | ⟨c, front⟩
    · rw [hfront] at h
      rw [afterParenthesis_eq, afterParenthesis_eq, h, hfront]
      exact agrees_some _ []
    · rw [hfront] at h
      by_cases hquestion : c = '?'
      · subst hquestion
        exact agrees_questionMark st hfront h
      · rw [afterParenthesis_eq, afterParenthesis_eq, h, hfront]
        simp only [List.cons_append, List.cons.injEq, hquestion, false_and, imp_self, implies_true]
        exact agrees_some _ (c :: front)
  · rw [afterParenthesis_eq, afterParenthesis_eq, h]
    exact agrees_taken (hopens _ _ _ _ (.inr rfl)) _

/-! ## Repetition -/

theorem dropLazy_closing (cs : List Char) : dropLazy (cs ++ closing) = dropLazy cs ++ closing := by
  rcases cs with _ | ⟨c, cs⟩
  · rfl
  · by_cases hquestion : c = '?'
    · subst hquestion
      rfl
    · simp only [dropLazy, List.cons_append, List.cons.injEq, hquestion, false_and, imp_self,
        implies_true]

theorem Spent.dropLazy {rest : List Char} (h : Spent rest) : Spent (dropLazy rest) := by
  rcases h with rfl | rfl
  · exact .inl rfl
  · exact .inr rfl

/-- The end of the bounds, after the first number. -/
def boundsTail (verbose : Bool) (min : Nat) (cs : List Char) :
    Option ((Nat × Option Nat) × List Char) :=
  match cs with
  | '}' :: rest => some ((min, some min), skip verbose rest)
  | ',' :: cs =>
    match skip verbose cs with
    | '}' :: rest => some ((min, none), skip verbose rest)
    | cs => do
      let (max, cs) ← decimal verbose cs
      match cs with
      | '}' :: rest => if min ≤ max then some ((min, some max), skip verbose rest) else none
      | _ => none
  | _ => none

theorem bounds_eq (verbose : Bool) (cs : List Char) :
    bounds verbose cs = decimal verbose (skip verbose cs) >>= fun (min, cs) =>
      boundsTail verbose min cs := rfl

/-- A bound that is not there, or the second one. -/
def upperBound (verbose : Bool) (min : Nat) (cs : List Char) :
    Option ((Nat × Option Nat) × List Char) :=
  match skip verbose cs with
  | '}' :: rest => some ((min, none), skip verbose rest)
  | cs => do
    let (max, cs) ← decimal verbose cs
    match cs with
    | '}' :: rest => if min ≤ max then some ((min, some max), skip verbose rest) else none
    | _ => none

theorem agrees_upperBound (verbose : Bool) (min : Nat) (cs : List Char) :
    Agrees (fun _ => Spent) (upperBound verbose min cs)
      (upperBound verbose min (cs ++ closing)) := by
  have hmax : ∀ cs, Agrees (fun _ => Spent)
      (decimal verbose cs >>= fun (max, cs) => match cs with
        | '}' :: rest => if min ≤ max then some ((min, some max), skip verbose rest) else none
        | _ => none)
      (decimal verbose (cs ++ closing) >>= fun (max, cs) => match cs with
        | '}' :: rest => if min ≤ max then some ((min, some max), skip verbose rest) else none
        | _ => none) := by
    intro cs
    refine (agrees_decimal verbose cs).bind (fun max left => ?_) fun max rest hspent => ?_
    · rcases left with _ | ⟨c, left⟩
      · exact agrees_none _ _
      · by_cases hbrace : c = '}'
        · subst hbrace
          simp only [List.cons_append]
          split
          · exact agrees_skip _ verbose left
          · exact agrees_none _ _
        · simp only [List.cons_append, List.cons.injEq, hbrace, false_and, imp_self, implies_true]
          exact agrees_none _ _
    · rcases hspent with hrest | hrest
      · subst hrest
        exact agrees_none _ _
      · subst hrest
        exact agrees_none _ _
  unfold upperBound
  rcases skip_closing verbose cs with h | h
  · rw [h]
    rcases skip verbose cs with _ | ⟨c, front⟩
    · exact hmax []
    · by_cases hbrace : c = '}'
      · subst hbrace
        exact agrees_skip _ verbose front
      · simp only [List.cons_append, List.cons.injEq, hbrace, false_and, imp_self, implies_true]
        exact hmax (c :: front)
  · rw [h]
    exact agrees_none _ _

theorem agrees_bounds (verbose : Bool) (cs : List Char) :
    Agrees (fun _ => Spent) (bounds verbose cs) (bounds verbose (cs ++ closing)) := by
  have hmin : Agrees (fun _ => Spent) (decimal verbose (skip verbose cs))
      (decimal verbose (skip verbose (cs ++ closing))) :=
    agrees_after_skip (agrees_decimal verbose) (agrees_none _ _) verbose cs
  rw [bounds_eq, bounds_eq]
  refine hmin.bind (fun min left => ?_) fun min rest hspent => ?_
  · rcases left with _ | ⟨c, left⟩
    · exact agrees_none _ _
    · by_cases hbrace : c = '}'
      · subst hbrace
        exact agrees_skip _ verbose left
      · by_cases hcomma : c = ','
        · subst hcomma
          exact agrees_upperBound verbose min left
        · simp only [boundsTail, List.cons_append, List.cons.injEq, hbrace, hcomma, false_and,
            imp_self, implies_true]
          exact agrees_none _ _
  · rcases hspent with hrest | hrest
    · subst hrest
      exact agrees_none _ _
    · subst hrest
      exact agrees_none _ _

/-! ## Elements -/

theorem agrees_primitive (verbose : Bool) (c : Char) (cs : List Char) :
    Agrees (fun _ rest => Spent rest ∨ Dangling verbose rest) (primitive verbose (c :: cs))
      (primitive verbose (c :: (cs ++ closing))) := by
  by_cases hescape : c = '\\'
  · subst hescape
    refine (agrees_escape verbose cs).bind (fun e left => ?_) fun e rest htaken => ?_
    · cases e with
      | literal l => exact agrees_some _ left
      | assertion a => exact agrees_some _ left
      | short cls negated => exact agrees_some _ left
      | property query negated => exact agrees_some _ left
    · have hrest : Spent rest ∨ Dangling verbose rest := htaken.imp_right And.right
      cases e with
      | literal l => exact agrees_taken hrest _
      | assertion a => exact agrees_taken hrest _
      | short cls negated => exact agrees_taken hrest _
      | property query negated => exact agrees_taken hrest _
  · by_cases hdot : c = '.'
    · subst hdot
      exact agrees_some _ cs
    · by_cases hcaret : c = '^'
      · subst hcaret
        exact agrees_some _ cs
      · by_cases hdollar : c = '$'
        · subst hdollar
          exact agrees_some _ cs
        · simp only [primitive]
          exact agrees_some _ cs

/-- The kinds of elements, by their first character. -/
theorem step_cons (st : State) (c : Char) (cs : List Char) :
    step st (c :: cs) =
      if c = '(' then afterParenthesis st cs
      else if c = ')' then (closeGroup st).map (·, cs)
      else if c = '|' then
        some ({ st with parts := [], branches := .ofParts st.parts.reverse :: st.branches }, cs)
      else if c = '[' then Bracket.parse st.verbose cs >>= fun (read, rest) =>
        some (st.push (.bracket read.1 read.2), rest)
      else if c = '?' then (repeatLast st 0 (some 1)).map (·, dropLazy cs)
      else if c = '*' then (repeatLast st 0 none).map (·, dropLazy cs)
      else if c = '+' then (repeatLast st 1 none).map (·, dropLazy cs)
      else if c = '{' then bounds st.verbose cs >>= fun (read, rest) =>
        (repeatLast st read.1 read.2).map (·, dropLazy rest)
      else primitive st.verbose (c :: cs) >>= fun (part, rest) => some (st.push part, rest) := by
  iterate 7
    split
    · rename_i hc
      subst hc
      rfl
  split
  · rename_i hc
    subst hc
    refine Option.bind_congr fun ⟨(min, max), rest⟩ _ => ?_
    dsimp only
    cases repeatLast st min max <;> rfl
  · rename_i hgroup hend hbranch hbracket hoption hmany hsome hbounds
    simp only [step, List.cons.injEq, hgroup, hend, hbranch, hbracket, hoption, hmany, hsome,
      hbounds, false_and, imp_self, implies_true]

/-- A repetition opens and closes no group. -/
theorem frames_of_repeatLast {st after : State} {min : Nat} {max : Option Nat}
    (h : repeatLast st min max = some after) : after.frames = st.frames := by
  unfold repeatLast at h
  split at h
  · cases h
  · cases h
  · cases h
    rfl

/-- An operator of repetition is a single character, and perhaps a question mark. -/
theorem agrees_operator (st : State) (min : Nat) (max : Option Nat) (cs : List Char) :
    Agrees (Takes st) ((repeatLast st min max).map (·, dropLazy cs))
      ((repeatLast st min max).map (·, dropLazy (cs ++ closing))) := by
  rw [dropLazy_closing]
  cases repeatLast st min max with
  | none => exact agrees_none _ _
  | some after => exact agrees_some after _

/-- One element of a pattern, with at least its first character in the text itself. -/
theorem agrees_step (st : State) (c : Char) (cs : List Char) :
    Agrees (Takes st) (step st (c :: cs)) (step st (c :: (cs ++ closing))) := by
  rw [step_cons, step_cons]
  split
  · exact agrees_afterParenthesis st cs
  split
  · cases closeGroup st with
    | none => exact agrees_none _ _
    | some after => exact agrees_some after cs
  split
  · exact agrees_some _ cs
  split
  · exact (Bracket.agrees_parse st.verbose cs).bind (fun read left => agrees_some _ left)
      fun read rest => False.elim
  split
  · exact agrees_operator st 0 (some 1) cs
  split
  · exact agrees_operator st 0 none cs
  split
  · exact agrees_operator st 1 none cs
  split
  · refine (agrees_bounds st.verbose cs).bind
      (fun read left => agrees_operator st read.1 read.2 left) fun read rest hspent => ?_
    dsimp only
    cases hrepeat : repeatLast st read.1 read.2 with
    | none => exact agrees_none _ _
    | some after =>
      refine agrees_taken ⟨.inl (Spent.dropLazy hspent), ?_⟩ _
      rw [frames_of_repeatLast hrepeat]
      exact id
  · exact (agrees_primitive st.verbose c cs).bind (fun part left => agrees_some _ left)
      fun part rest hrest => agrees_taken ⟨hrest, id⟩ _

end KeyIndex.Regex.Pattern.Parser
