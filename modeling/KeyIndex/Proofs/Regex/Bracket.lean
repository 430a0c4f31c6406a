import KeyIndex.Proofs.Regex.Lexis
import KeyIndex.Regex.Pattern.Bracket

/-!
# Bracketed classes before a closing

A class in brackets takes the closing for members of its own when it is not closed before.  As
no bracket is in the closing, such a class is not closed at all.

Main definitions:

- `Done`: nothing of the text itself remains.

Main results:

- Theorem `named?_closing`: classes by name.
- Theorem `agrees_step`: one element of a class.
- Theorem `agrees_parse`: a class is closed in the text itself, or it is not closed.
-/

namespace KeyIndex.Regex.Pattern.Bracket

/-- Nothing of the text itself remains. -/
def Done (rest : List Char) : Prop := rest = closing ∨ Spent rest

/-! ## Names -/

/-- What follows the caret of a class by name, if there is one. -/
def nameTail (negated : Bool) (cs : List Char) : Option (ClassSet × List Char) :=
  match cs.span (· ≠ ':') with
  | (name, ':' :: ']' :: rest) => (namedClass? (.ofList name)).map fun c => (.named c negated, rest)
  | _ => none

theorem named?_colon (cs : List Char) :
    named? (':' :: cs) = match cs with
      | '^' :: cs => nameTail true cs
      | cs => nameTail false cs := by
  rcases cs with _ | ⟨c, cs⟩
  · rfl
  · by_cases hcaret : c = '^'
    · subst hcaret
      rfl
    · simp only [named?, List.cons.injEq, hcaret, false_and, imp_self, implies_true]
      rfl

theorem nameTail_closing (negated : Bool) (cs : List Char) :
    nameTail negated (cs ++ closing) =
      (nameTail negated cs).map fun read => (read.1, read.2 ++ closing) := by
  have hcolon : ':' ∉ closing := by decide
  unfold nameTail
  rcases span_stop cs hcolon with ⟨name, left, hown, hwhole⟩ | ⟨hown, hwhole⟩
  · rw [hown, hwhole]
    rcases left with _ | ⟨c, left⟩
    · rfl
    · by_cases hclose : c = ']'
      · subst hclose
        simp only [List.cons_append, Option.map_map]
        rfl
      · simp only [List.cons_append, Prod.mk.injEq, List.cons.injEq, hclose, false_and, and_false,
          imp_self, implies_true, Option.map_none]
  · generalize cs.span (· ≠ ':') = own at hown
    generalize (cs ++ closing).span (· ≠ ':') = whole at hwhole
    rcases own with ⟨name, own⟩
    rcases whole with ⟨name', whole⟩
    dsimp only at hown hwhole
    subst hown hwhole
    rfl

/-- Whether a class is given by name does not depend on the closing. -/
theorem named?_closing (cs : List Char) :
    named? (cs ++ closing) = (named? cs).map fun read => (read.1, read.2 ++ closing) := by
  rcases cs with _ | ⟨c, cs⟩
  · rfl
  · by_cases hcolon : c = ':'
    · subst hcolon
      rw [List.cons_append, named?_colon, named?_colon]
      rcases cs with _ | ⟨c, cs⟩
      · exact nameTail_closing false []
      · by_cases hcaret : c = '^'
        · subst hcaret
          exact nameTail_closing true cs
        · simp only [List.cons_append, List.cons.injEq, hcaret, false_and, imp_self, implies_true]
          exact nameTail_closing false (c :: cs)
    · simp only [named?, List.cons_append, List.cons.injEq, hcolon, false_and, imp_self,
        implies_true, Option.map_none]

/-! ## Opening a bracket -/

/-- What follows the caret of a class, if there is one. -/
def openTail (verbose negated : Bool) (cs : List Char) : Option (Level × List Char) :=
  match collect verbose (· == '-') false cs with
  | ([], ']' :: cs) =>
    match skip verbose cs with
    | [] => none
    | cs => some (⟨[.literal ⟨']', false⟩], none, negated⟩, cs)
  | (_, []) => none
  | (hyphens, cs) => some (⟨hyphens.map fun c => .literal ⟨c, false⟩, none, negated⟩, cs)

theorem openLevel_eq (verbose : Bool) (cs : List Char) :
    openLevel verbose cs = match skip verbose cs with
      | '^' :: cs => openTail verbose true (skip verbose cs)
      | cs => openTail verbose false cs := by
  unfold openLevel
  rcases skip verbose cs with _ | ⟨c, front⟩
  · rfl
  · by_cases hcaret : c = '^'
    · subst hcaret
      rfl
    · simp only [List.cons.injEq, hcaret, false_and, imp_self, implies_true]
      rfl

theorem agrees_openTail (verbose negated : Bool) (cs : List Char) :
    Agrees (fun _ => Done) (openTail verbose negated cs)
      (openTail verbose negated (cs ++ closing)) := by
  have hdone : ∀ {level : Level} {rest : List Char}, Done rest → ∀ own,
      Agrees (fun _ => Done) own (some (level, rest)) := fun hrest => agrees_taken hrest
  unfold openTail
  rcases collect_closing verbose (· == '-') false cs with hspent | hsame
  · apply Agrees.of_none
    generalize collect verbose (· == '-') false (cs ++ closing) = found at hspent
    rcases found with ⟨_ | ⟨hyphen, hyphens⟩, left⟩
    · rcases hspent with rfl | rfl
      · exact hdone (.inr (.inl rfl)) _
      · exact agrees_none _ _
    · rcases hspent with rfl | rfl
      · exact hdone (.inr (.inl rfl)) _
      · exact agrees_none _ _
  · rw [hsame]
    generalize collect verbose (· == '-') false cs = found
    rcases found with ⟨_ | ⟨hyphen, hyphens⟩, _ | ⟨c, left⟩⟩
    · exact hdone (.inl rfl) _
    · by_cases hclose : c = ']'
      · subst hclose
        simp only [List.cons_append]
        rcases skip_closing verbose left with h | h
        · rw [h]
          rcases skip verbose left with _ | ⟨d, front⟩
          · exact hdone (.inl rfl) _
          · exact agrees_some _ (d :: front)
        · rw [h]
          exact agrees_none _ _
      · simp only [List.cons_append, List.cons.injEq, hclose, false_and, imp_self, implies_true]
        exact agrees_some _ (c :: left)
    · exact hdone (.inl rfl) _
    · exact agrees_some _ (c :: left)

theorem agrees_openLevel (verbose : Bool) (cs : List Char) :
    Agrees (fun _ => Done) (openLevel verbose cs) (openLevel verbose (cs ++ closing)) := by
  rw [openLevel_eq, openLevel_eq]
  rcases skip_closing verbose cs with h | h
  · rw [h]
    generalize skip verbose cs = front
    rcases front with _ | ⟨c, front⟩
    · exact agrees_openTail verbose false []
    · by_cases hcaret : c = '^'
      · subst hcaret
        exact agrees_after_skip (agrees_openTail verbose true) (agrees_none _ _) verbose front
      · simp only [List.cons_append, List.cons.injEq, hcaret, false_and, imp_self, implies_true]
        exact agrees_openTail verbose false (c :: front)
  · rw [h]
    exact agrees_none _ _

/-! ## Items and ranges -/

theorem agrees_item (verbose : Bool) (cs : List Char) :
    Agrees (fun _ => Spent) (item verbose cs) (item verbose (cs ++ closing)) := by
  rcases cs with _ | ⟨c, cs⟩
  · exact agrees_taken (.inl rfl) _
  · by_cases hescape : c = '\\'
    · subst hescape
      refine (agrees_escape verbose cs).bind (fun e left => ?_) fun e rest htaken => ?_
      · cases e with
        | assertion a => exact agrees_none _ _
        | literal l => exact agrees_some _ left
        | short cls negated => exact agrees_some _ left
        | property query negated => exact agrees_some _ left
      · rcases htaken with hspent | ⟨rfl, -⟩
        · cases e with
          | assertion a => exact agrees_none _ _
          | literal l => exact agrees_taken hspent _
          | short cls negated => exact agrees_taken hspent _
          | property query negated => exact agrees_taken hspent _
        · exact agrees_none _ _
    · simp only [item, List.cons_append]
      exact agrees_some _ cs

/-- The closing is not taken for the end of a range that is none. -/
theorem peekAfter_closing (verbose : Bool) (first : Char) (cs : List Char) {c : Char}
    (hc : c ∉ closing) :
    peekAfter verbose (first :: (cs ++ closing)) = some c ↔
      peekAfter verbose (first :: cs) = some c := by
  have hhead : ∀ cs : List Char, (cs ++ closing).head? = some c ↔ cs.head? = some c := by
    intro cs
    rcases cs with _ | ⟨d, cs⟩
    · simp only [closing, List.mem_cons, List.not_mem_nil, or_false, not_or] at hc
      simp [closing, Ne.symm hc.1]
    · rfl
  unfold peekAfter
  cases verbose with
  | false => exact hhead cs
  | true =>
    simp only [if_true, List.tail_cons, dropWhile_isBlank_closing]
    generalize cs.dropWhile isBlank = front
    rcases front with _ | ⟨d, front⟩
    · exact hhead []
    · by_cases hsign : d = '#'
      · subst hsign
        simp only [List.cons_append, dropWhile_isBlank_closing]
        exact hhead _
      · simp only [List.cons_append, List.cons.injEq, hsign, false_and, imp_self, implies_true]
        exact hhead (d :: front)

/-- What follows the first item of a range. -/
def rangeTail (verbose : Bool) (first : ClassSet) (cs : List Char) :
    Option (ClassSet × List Char) :=
  match skip verbose cs with
  | [] => none
  | '-' :: cs =>
    let next := peekAfter verbose ('-' :: cs)
    if next = some ']' ∨ next = some '-' then some (first, '-' :: cs)
    else do
      let (last, cs) ← item verbose (skip verbose cs)
      match first, last with
      | .literal a, .literal b => if a.char ≤ b.char then some (.range a b, cs) else none
      | _, _ => none
  | cs => some (first, cs)

theorem itemOrRange_eq (verbose : Bool) (cs : List Char) :
    itemOrRange verbose cs =
      item verbose cs >>= fun (first, cs) => rangeTail verbose first cs := rfl

theorem agrees_rangeTail (verbose : Bool) (first : ClassSet) (cs : List Char) :
    Agrees (fun _ => Done) (rangeTail verbose first cs)
      (rangeTail verbose first (cs ++ closing)) := by
  unfold rangeTail
  rcases skip_closing verbose cs with h | h
  · rw [h]
    rcases skip verbose cs with _ | ⟨c, front⟩
    · exact agrees_taken (.inl rfl) _
    · by_cases hhyphen : c = '-'
      · subst hhyphen
        have hlast : Agrees (fun _ => Spent) (item verbose (skip verbose front))
            (item verbose (skip verbose (front ++ closing))) :=
          agrees_after_skip (agrees_item verbose) (agrees_none _ _) verbose front
        have hclose : ']' ∉ closing := by decide
        have hnext : '-' ∉ closing := by decide
        simp only [List.cons_append, peekAfter_closing verbose '-' front hclose,
          peekAfter_closing verbose '-' front hnext]
        split
        · exact agrees_some first ('-' :: front)
        · refine hlast.bind (fun last left => ?_) fun last rest hspent => ?_
          · dsimp only
            split
            · split
              · exact agrees_some _ left
              · exact agrees_none _ _
            · exact agrees_none _ _
          · dsimp only
            split
            · split
              · exact agrees_taken (.inr hspent) _
              · exact agrees_none _ _
            · exact agrees_none _ _
      · simp only [List.cons_append, List.cons.injEq, hhyphen, false_and, imp_self, implies_true]
        exact agrees_some first (c :: front)
  · rw [h]
    exact agrees_none _ _

theorem Spent.rangeTail {rest : List Char} (h : Spent rest) (verbose : Bool) (first : ClassSet) :
    Agrees (fun _ => Done) none (rangeTail verbose first rest) := by
  have hskip := h.skip verbose
  unfold Bracket.rangeTail
  rcases hskip with hskip | hskip
  · rw [hskip]
    exact agrees_taken (.inr (.inl rfl)) _
  · rw [hskip]
    exact agrees_none _ _

theorem agrees_itemOrRange (verbose : Bool) (cs : List Char) :
    Agrees (fun _ => Done) (itemOrRange verbose cs) (itemOrRange verbose (cs ++ closing)) := by
  rw [itemOrRange_eq, itemOrRange_eq]
  exact (agrees_item verbose cs).bind (fun first left => agrees_rangeTail verbose first left)
    fun first rest hspent => Spent.rangeTail hspent verbose first

/-! ## Classes -/

section Run

variable {verbose : Bool} {level : Level} {outer : List Level}

/-- An element that is neither a bracket nor an operator is an item or a range. -/
theorem step_of_other {c : Char} {cs : List Char} (hopen : c ≠ '[') (hclose : c ≠ ']')
    (hoperator : ∀ rest, cs = c :: rest → c ≠ '&' ∧ c ≠ '-' ∧ c ≠ '~') :
    step verbose level outer (c :: cs) =
      itemOrRange verbose (c :: cs) >>= fun (set, rest) =>
        some (.reading (level.push set) outer, rest) := by
  unfold step
  split
  · rename_i hnil
    cases hnil
  · rename_i hcons
    cases hcons
    exact absurd rfl hopen
  · rename_i hcons
    cases hcons
    exact absurd rfl hclose
  · rename_i hcons
    cases hcons
    exact absurd rfl (hoperator _ rfl).1
  · rename_i hcons
    cases hcons
    exact absurd rfl (hoperator _ rfl).2.1
  · rename_i hcons
    cases hcons
    exact absurd rfl (hoperator _ rfl).2.2
  · rfl

/-- The class is still open, and nothing of the text itself remains. -/
def Unclosed (progress : Progress) (rest : List Char) : Prop :=
  (∃ level outer, progress = .reading level outer) ∧ Done rest

theorem agrees_step (cs : List Char) :
    Agrees Unclosed (step verbose level outer cs) (step verbose level outer (cs ++ closing)) := by
  have hitem : ∀ cs, Agrees Unclosed
      (itemOrRange verbose cs >>= fun (set, rest) => some (.reading (level.push set) outer, rest))
      (itemOrRange verbose (cs ++ closing) >>= fun (set, rest) =>
        some (.reading (level.push set) outer, rest)) := by
    intro cs
    exact (agrees_itemOrRange verbose cs).bind (fun set left => agrees_some _ left)
      fun set rest hdone => agrees_taken ⟨⟨_, _, rfl⟩, hdone⟩ _
  rcases cs with _ | ⟨c, cs⟩
  · -- The class has no more elements of its own, and the parenthesis is taken for one.
    exact (hitem []).of_none none
  · by_cases hopen : c = '['
    · subst hopen
      simp only [step, List.cons_append, named?_closing]
      cases named? cs with
      | none =>
        exact (agrees_openLevel verbose cs).bind (fun inner left => agrees_some _ left)
          fun inner rest hdone => agrees_taken ⟨⟨_, _, rfl⟩, hdone⟩ _
      | some read => exact agrees_some _ read.2
    · by_cases hclose : c = ']'
      · subst hclose
        exact agrees_some _ cs
      · by_cases hoperator : ∀ rest, cs = c :: rest → c ≠ '&' ∧ c ≠ '-' ∧ c ≠ '~'
        · have hwhole : ∀ rest, cs ++ closing = c :: rest → c ≠ '&' ∧ c ≠ '-' ∧ c ≠ '~' := by
            intro rest hcons
            rcases cs with _ | ⟨d, cs⟩
            · cases hcons
              decide
            · cases hcons
              exact hoperator cs rfl
          rw [List.cons_append, step_of_other hopen hclose hoperator,
            step_of_other hopen hclose hwhole]
          exact hitem (c :: cs)
        · simp only [Classical.not_forall, not_and_or, Classical.not_not] at hoperator
          rcases hoperator with ⟨rest, rfl, rfl | rfl | rfl⟩
          · exact agrees_some _ rest
          · exact agrees_some _ rest
          · exact agrees_some _ rest

/-- No class is closed by what remains of the closing. -/
theorem run_of_done {rest : List Char} (h : Done rest) : run verbose level outer rest = none := by
  have hnil : ∀ level outer, run verbose level outer [] = none := by
    intro level outer
    rw [run]
    cases verbose <;> rfl
  have hdollar : ∀ level outer, run verbose level outer ['$'] = none := by
    intro level outer
    rw [run]
    cases verbose <;> rfl
  rcases h with rfl | rfl | rfl
  · rw [run]
    have hstep : step verbose level outer (skip verbose closing) =
        some (.reading (level.push (.literal ⟨')', false⟩)) outer, ['$']) := by
      cases verbose <;> rfl
    rw [hstep]
    exact hdollar _ _
  · exact hdollar _ _
  · exact hnil _ _

/-- A class is closed in the text itself, or it is not closed at all. -/
theorem agrees_run (cs : List Char) :
    Agrees (fun _ _ => False) (run verbose level outer cs)
      (run verbose level outer (cs ++ closing)) := by
  -- On what is left of the class, as each element makes it shorter.
  induction hlength : cs.length using Nat.strongRecOn generalizing cs level outer with
  | _ length ih =>
    subst hlength
    intro read rest hread
    rw [run] at hread ⊢
    rcases skip_closing verbose cs with h | h
    · have hstep : Agrees Unclosed (step verbose level outer (skip verbose cs))
          (step verbose level outer (skip verbose cs ++ closing)) := agrees_step _
      rw [h] at hread
      split at hread
      · cases hread
      · rename_i body negated after hcomplete
        rcases hstep _ _ hcomplete with ⟨⟨_, _, hreading⟩, -⟩ | ⟨left, rfl, hown⟩
        · cases hreading
        · cases hread
          exact .inr ⟨left, rfl, by rw [hown]⟩
      · rename_i inner around after hreading
        split at hread
        · rename_i hless
          rcases hstep _ _ hreading with ⟨-, hdone⟩ | ⟨left, rfl, hown⟩
          · rw [run_of_done hdone] at hread
            cases hread
          · rw [List.length_append, List.length_append, Nat.add_lt_add_iff_right] at hless
            rw [hown]
            simp only [hless, if_true]
            exact ih _ hless left rfl read rest hread
        · cases hread
    · rw [h] at hread
      cases hread

end Run

/-- The class after an opening bracket is closed in the text itself, if at all. -/
theorem agrees_parse (verbose : Bool) (cs : List Char) :
    Agrees (fun _ _ => False) (parse verbose cs) (parse verbose (cs ++ closing)) := by
  refine (agrees_openLevel verbose cs).bind (fun level left => agrees_run left) ?_
  intro level rest hdone
  dsimp only
  rw [run_of_done hdone]
  exact agrees_none _ _

end KeyIndex.Regex.Pattern.Bracket
