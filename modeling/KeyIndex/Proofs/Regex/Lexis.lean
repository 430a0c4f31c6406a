import KeyIndex.Regex.Pattern.Lexis
import Mathlib.Data.List.TakeDrop

/-!
# Lexical elements before a closing

A pattern that must match whole texts is put into a group, so that the end of this group stands
after it.  A lexical element is read from the pattern alone as it is read before the closing,
unless it takes a part of the closing for its own: a comment runs on, an escape at the end finds
a character after it.  Once a part of the closing is taken, the rest of it closes no group.

Main definitions:

- `closing`: what stands after the pattern.
- `Spent`: what remains when some of the closing was taken.
- `Agrees`: what is read before the closing is read from the text alone.

Main results:

- Theorems `skip_closing`, `collect_closing`: blanks and comments before the closing.
- Theorem `agrees_decimal`: numbers.
- Theorem `agrees_escape`: what follows a backslash.
-/

namespace KeyIndex.Regex.Pattern

/-! ## The closing -/

/-- What closes the group around a pattern that must match whole texts, and asks for the end of
the text. -/
def closing : List Char := [')', '$']

/-- What remains when some of the closing has been read. -/
def Spent (rest : List Char) : Prop := rest = ['$'] ∨ rest = []

theorem Spent.tail {c : Char} {rest : List Char} (h : Spent (c :: rest)) : Spent rest := by
  rcases h with h | h <;> cases h
  exact .inr rfl

/-- What is read from a text with the closing after it is read from the text alone, unless some
of the closing was `taken` for a part of it. -/
def Agrees {α : Type} (taken : α → List Char → Prop) (own whole : Option (α × List Char)) :
    Prop :=
  ∀ a rest, whole = some (a, rest) →
    taken a rest ∨ ∃ left, rest = left ++ closing ∧ own = some (a, left)

section Agrees

variable {α β : Type} {taken : α → List Char → Prop} {later : β → List Char → Prop}
variable {own whole : Option (α × List Char)}

theorem agrees_none (taken : α → List Char → Prop) (own : Option (α × List Char)) :
    Agrees taken own none := nofun

theorem agrees_some (a : α) (left : List Char) :
    Agrees taken (some (a, left)) (some (a, left ++ closing)) := by
  rintro a rest ⟨⟩
  exact .inr ⟨left, rfl, rfl⟩

theorem agrees_taken {a : α} {rest : List Char} (h : taken a rest)
    (own : Option (α × List Char)) : Agrees taken own (some (a, rest)) := by
  rintro a rest ⟨⟩
  exact .inl h

/-- When nothing could be read from the text alone, some of the closing was taken. -/
theorem Agrees.of_none (h : Agrees taken none whole) (own : Option (α × List Char)) :
    Agrees taken own whole := by
  intro a rest hwhole
  rcases h a rest hwhole with htaken | ⟨left, -, hnone⟩
  · exact .inl htaken
  · cases hnone

/-- One element after another. -/
theorem Agrees.bind {next : α × List Char → Option (β × List Char)} (h : Agrees taken own whole)
    (hnext : ∀ a left, Agrees later (next (a, left)) (next (a, left ++ closing)))
    (htaken : ∀ a rest, taken a rest → Agrees later none (next (a, rest))) :
    Agrees later (own >>= next) (whole >>= next) := by
  intro b rest hwhole
  rcases Option.bind_eq_some_iff.mp hwhole with ⟨⟨a, middle⟩, hread, hlast⟩
  rcases h a middle hread with hmiddle | ⟨left, rfl, rfl⟩
  · exact (htaken a middle hmiddle).of_none _ b rest hlast
  · exact hnext a left b rest hlast

/-- What is read does not depend on how the closing is read. -/
theorem agrees_option {γ : Type} (found : Option γ) {own whole : γ → Option (α × List Char)}
    (h : ∀ c, Agrees taken (own c) (whole c)) :
    Agrees taken (found >>= own) (found >>= whole) := by
  cases found with
  | none => exact agrees_none _ _
  | some c => exact h c

theorem Agrees.map (h : Agrees taken own whole) (f : α → β)
    (htaken : ∀ a rest, taken a rest → later (f a) rest) :
    Agrees later (own.map fun read => (f read.1, read.2))
      (whole.map fun read => (f read.1, read.2)) := by
  rw [Option.map_eq_bind, Option.map_eq_bind]
  exact h.bind (fun a left => agrees_some (f a) left)
    fun a rest hrest => agrees_taken (htaken a rest hrest) none

end Agrees

/-! ## Blanks and comments -/

/-- A comment at the end of a text goes on through the closing.  Nothing else takes some of it
for a blank. -/
theorem skipBlanks_closing (inComment : Bool) (cs : List Char) :
    skipBlanks inComment (cs ++ closing) = skipBlanks inComment cs ++ closing ∨
      skipBlanks inComment (cs ++ closing) = [] := by
  induction cs generalizing inComment with
  | nil => cases inComment <;> decide
  | cons c cs ih =>
    simp only [List.cons_append, skipBlanks]
    split
    · exact ih _
    · split
      · exact ih _
      · split
        · exact ih _
        · exact .inl rfl

theorem skip_closing (verbose : Bool) (cs : List Char) :
    skip verbose (cs ++ closing) = skip verbose cs ++ closing ∨
      skip verbose (cs ++ closing) = [] := by
  cases verbose with
  | false => exact .inl rfl
  | true => exact skipBlanks_closing false cs

theorem Spent.skip {rest : List Char} (h : Spent rest) (verbose : Bool) :
    Spent (skip verbose rest) := by
  rcases h with rfl | rfl <;> cases verbose
  · exact .inl rfl
  · exact .inl (by decide)
  · exact .inr rfl
  · exact .inr rfl

theorem dropWhile_isBlank_closing (cs : List Char) :
    (cs ++ closing).dropWhile isBlank = cs.dropWhile isBlank ++ closing := by
  induction cs with
  | nil => decide
  | cons c cs ih =>
    simp only [List.cons_append, List.dropWhile_cons]
    split
    · exact ih
    · rfl

theorem collect_closing_start (verbose : Bool) (keep : Char → Bool) :
    Spent (collect verbose keep false closing).2 ∨
      collect verbose keep false closing = ([], closing) := by
  have hparen : isBlank ')' = false := by decide
  have hdollar : isBlank '$' = false := by decide
  cases hkeep : keep ')' with
  | false => exact .inr (by simp [closing, collect, hparen, hkeep])
  | true =>
    left
    cases hkeep' : keep '$' with
    | false => exact .inl (by simp [closing, collect, hparen, hdollar, hkeep, hkeep'])
    | true => exact .inr (by simp [closing, collect, hparen, hdollar, hkeep, hkeep'])

theorem collect_closing (verbose : Bool) (keep : Char → Bool) (inComment : Bool)
    (cs : List Char) :
    Spent (collect verbose keep inComment (cs ++ closing)).2 ∨
      collect verbose keep inComment (cs ++ closing) =
        ((collect verbose keep inComment cs).1,
          (collect verbose keep inComment cs).2 ++ closing) := by
  induction cs generalizing inComment with
  | nil =>
    cases inComment with
    | true => exact .inl (.inr (by simp [closing, collect]))
    | false =>
      -- The closing is kept if it is what is asked for, as in the name of a property.
      exact collect_closing_start verbose keep
  | cons c cs ih =>
    simp only [List.cons_append, collect]
    split
    · exact ih _
    · split
      · exact ih _
      · split
        · exact ih _
        · split
          · rcases ih false with h | h
            · exact .inl h
            · right
              rw [h]
          · exact .inr rfl

/-- What stands before a character that is none of the closing. -/
theorem collect_stop (verbose : Bool) (keep : Char → Bool) (cs : List Char) {stop : Char}
    (hstop : stop ∉ closing) :
    (∃ kept left, collect verbose keep false cs = (kept, stop :: left) ∧
      collect verbose keep false (cs ++ closing) = (kept, stop :: (left ++ closing))) ∨
    ∀ kept rest, collect verbose keep false (cs ++ closing) ≠ (kept, stop :: rest) := by
  simp only [closing, List.mem_cons, List.not_mem_nil, or_false, not_or] at hstop
  rcases collect_closing verbose keep false cs with hspent | hsame
  · right
    intro kept rest h
    rw [h] at hspent
    rcases hspent with hspent | hspent <;> cases hspent
    exact hstop.2 rfl
  · rcases hown : collect verbose keep false cs with ⟨kept, _ | ⟨c, left⟩⟩
    · right
      intro kept rest h
      rw [hsame, hown] at h
      cases h
      exact hstop.1 rfl
    · by_cases hc : c = stop
      · subst hc
        exact .inl ⟨kept, left, rfl, by rw [hsame, hown]; rfl⟩
      · right
        intro kept rest h
        rw [hsame, hown] at h
        cases h
        exact hc rfl

/-- What stands before the first place of a character that is none of the closing. -/
theorem span_stop (cs : List Char) {stop : Char} (hstop : stop ∉ closing) :
    (∃ before left, cs.span (· ≠ stop) = (before, stop :: left) ∧
      (cs ++ closing).span (· ≠ stop) = (before, stop :: (left ++ closing))) ∨
    (cs.span (· ≠ stop)).2 = [] ∧ ((cs ++ closing).span (· ≠ stop)).2 = [] := by
  simp only [List.span_eq_takeWhile_dropWhile]
  induction cs with
  | nil =>
    refine .inr ⟨rfl, ?_⟩
    simp only [closing, List.mem_cons, List.not_mem_nil, or_false, not_or] at hstop
    simp [closing, Ne.symm hstop.1, Ne.symm hstop.2]
  | cons c cs ih =>
    by_cases hc : c = stop
    · subst hc
      exact .inl ⟨[], cs, by simp, by simp⟩
    · rcases ih with ⟨before, left, hown, hwhole⟩ | ⟨hown, hwhole⟩
      · simp only [Prod.mk.injEq] at hown hwhole
        exact .inl ⟨c :: before, left, by simpa [hc] using hown, by simpa [hc] using hwhole⟩
      · exact .inr ⟨by simpa [hc] using hown, by simpa [hc] using hwhole⟩

theorem brace_not_mem : '}' ∉ closing := by decide

/-- Blanks and comments are passed over before an element.  When they take the closing, nothing
remains for the element. -/
theorem agrees_after_skip {α : Type} {taken : α → List Char → Prop}
    {read : List Char → Option (α × List Char)}
    (h : ∀ cs, Agrees taken (read cs) (read (cs ++ closing))) (hnil : Agrees taken none (read []))
    (verbose : Bool) (cs : List Char) :
    Agrees taken (read (skip verbose cs)) (read (skip verbose (cs ++ closing))) := by
  rcases skip_closing verbose cs with hskip | hskip
  · rw [hskip]
    exact h _
  · rw [hskip]
    exact hnil.of_none _

/-- They are passed over after an element. -/
theorem agrees_skip {α : Type} (a : α) (verbose : Bool) (left : List Char) :
    Agrees (fun _ => Spent) (some (a, skip verbose left))
      (some (a, skip verbose (left ++ closing))) := by
  rcases skip_closing verbose left with h | h
  · rw [h]
    exact agrees_some a _
  · rw [h]
    exact agrees_taken (.inr rfl) _

/-! ## Numbers -/

theorem Spent.dropWhile_isBlank {rest : List Char} (h : Spent rest) :
    Spent (rest.dropWhile isBlank) := by
  rcases h with rfl | rfl
  · exact .inl (by decide)
  · exact .inr rfl

theorem agrees_decimal (verbose : Bool) (cs : List Char) :
    Agrees (fun _ => Spent) (decimal verbose cs) (decimal verbose (cs ++ closing)) := by
  unfold decimal
  rw [dropWhile_isBlank_closing]
  rcases collect_closing verbose Char.isDigit false (cs.dropWhile isBlank) with hspent | hsame
  · generalize collect verbose Char.isDigit false (cs.dropWhile isBlank ++ closing) = found
      at hspent
    rcases found with ⟨_ | ⟨digit, digits⟩, left⟩
    · exact agrees_none _ _
    · apply Agrees.of_none
      dsimp only at hspent ⊢
      split
      · exact agrees_taken (hspent.dropWhile_isBlank.skip verbose) _
      · exact agrees_none _ _
  · rw [hsame]
    generalize collect verbose Char.isDigit false (cs.dropWhile isBlank) = found
    rcases found with ⟨_ | ⟨digit, digits⟩, left⟩
    · exact agrees_none _ _
    · dsimp only
      split
      · rw [dropWhile_isBlank_closing]
        exact agrees_skip _ verbose _
      · exact agrees_none _ _

theorem Spent.hexDigits {rest : List Char} (h : Spent rest) (verbose : Bool) (count : Nat) :
    Agrees (fun _ => Spent) none (hexDigits verbose count rest) := by
  cases count with
  | zero => exact agrees_taken h _
  | succ count =>
    rcases h with rfl | rfl
    · exact agrees_none _ _
    · exact agrees_none _ _

theorem agrees_hexDigits (verbose : Bool) (count : Nat) (cs : List Char) :
    Agrees (fun _ => Spent) (hexDigits verbose count cs)
      (hexDigits verbose count (cs ++ closing)) := by
  induction count generalizing cs with
  | zero => exact agrees_some _ cs
  | succ count ih =>
    cases cs with
    | nil => exact agrees_none _ _
    | cons c cs =>
      have hdigits := agrees_after_skip ih (Spent.hexDigits (.inr rfl) verbose count) verbose cs
      simp only [List.cons_append, Pattern.hexDigits]
      split
      · exact hdigits.bind (fun digits left => agrees_some _ left)
          fun digits rest hrest => agrees_taken hrest _
      · exact agrees_none _ _

/-- An escape with as many digits as its letter demands. -/
def plainEscape (verbose : Bool) (count : Nat) (cs : List Char) : Option (Literal × List Char) := do
  let (digits, rest) ← hexDigits verbose count cs
  let c ← charOfCode? (digitsValue 16 digits)
  some (⟨c, count == 2⟩, rest)

theorem agrees_plainEscape (verbose : Bool) (count : Nat) (cs : List Char) :
    Agrees (fun _ => Spent) (plainEscape verbose count cs)
      (plainEscape verbose count (cs ++ closing)) := by
  refine (agrees_hexDigits verbose count cs).bind
    (fun digits left => agrees_option _ fun c => agrees_some _ left) fun digits rest hrest => ?_
  dsimp only
  cases charOfCode? (digitsValue 16 digits) with
  | none => exact agrees_none _ _
  | some c => exact agrees_taken hrest _

theorem agrees_hexEscape (verbose : Bool) {count : Nat} (hcount : 0 < count) (cs : List Char) :
    Agrees (fun _ => Spent) (hexEscape verbose count cs)
      (hexEscape verbose count (cs ++ closing)) := by
  unfold hexEscape
  rcases skip_closing verbose cs with h | h
  · rw [h]
    generalize skip verbose cs = front
    rcases front with _ | ⟨c, front⟩
    · exact agrees_plainEscape verbose count []
    · by_cases hbrace : c = '{'
      · subst hbrace
        simp only [List.cons_append]
        rcases collect_stop verbose isHexDigit front brace_not_mem with
          ⟨_ | ⟨digit, digits⟩, left, hown, hwhole⟩ | hnone
        · rw [hwhole]
          exact agrees_none _ _
        · simp only [hown, hwhole]
          exact agrees_option _ fun c => agrees_skip _ verbose left
        · apply Agrees.of_none
          split
          · rename_i hcollect
            exact absurd hcollect (hnone _ _)
          · exact agrees_none _ _
      · simp only [List.cons_append, List.cons.injEq, hbrace, false_and, imp_self, implies_true]
        exact agrees_plainEscape verbose count (c :: front)
  · rw [h]
    apply Agrees.of_none
    cases count with
    | zero => cases hcount
    | succ count => exact agrees_none _ _

/-! ## Properties -/

theorem agrees_propertyEscape (verbose : Bool) (cs : List Char) :
    Agrees (fun _ => Spent) (propertyEscape verbose cs)
      (propertyEscape verbose (cs ++ closing)) := by
  unfold propertyEscape
  rcases skip_closing verbose cs with h | h
  · rw [h]
    generalize skip verbose cs = front
    rcases front with _ | ⟨c, front⟩
    · exact agrees_taken (Spent.skip (.inl rfl) verbose) _
    · by_cases hbrace : c = '{'
      · subst hbrace
        simp only [List.cons_append]
        rcases collect_closing verbose (fun c => decide (c ≠ '}')) false front with
          hspent | hsame
        · generalize collect verbose (fun c => decide (c ≠ '}')) false (front ++ closing) =
            found at hspent
          rcases found with ⟨name, _ | ⟨stop, left⟩⟩
          · exact agrees_none _ _
          · exact agrees_taken hspent.tail _
        · rw [hsame]
          generalize collect verbose (fun c => decide (c ≠ '}')) false front = found
          rcases found with ⟨name, _ | ⟨stop, left⟩⟩
          · exact agrees_taken (.inl rfl) _
          · exact agrees_some _ left
      · by_cases hescape : c = '\\'
        · subst hescape
          exact agrees_none _ _
        · simp only [List.cons_append]
          exact agrees_skip _ verbose front
  · rw [h]
    exact agrees_none _ _

/-! ## Escapes -/

/-- A brace that opens nothing which the closing could close. -/
def Dangling (verbose : Bool) (rest : List Char) : Prop :=
  ∃ left, rest = '{' :: left ∧ skip verbose left = closing

theorem agrees_boundaryName (verbose : Bool) (cs : List Char) :
    Agrees (fun name rest => Spent rest ∨ name = .boundary ∧ Dangling verbose rest)
      (boundaryName verbose cs) (boundaryName verbose (cs ++ closing)) := by
  rcases cs with _ | ⟨c, cs⟩
  · exact agrees_some _ []
  · by_cases hbrace : c = '{'
    · subst hbrace
      unfold boundaryName
      simp only [List.cons_append]
      rcases skip_closing verbose cs with h | h
      · rcases hfront : skip verbose cs with _ | ⟨d, front⟩
        · -- The text ends after the brace, but before the closing it opens a repetition.
          rw [hfront] at h
          rw [h]
          exact agrees_taken (.inr ⟨rfl, cs ++ closing, rfl, h⟩) _
        · rw [hfront] at h
          rw [h]
          dsimp only [List.cons_append]
          split
          · exact agrees_some Assertion.boundary ('{' :: cs)
          · rw [← List.cons_append]
            rcases collect_stop verbose (fun c => c.isAlpha || c == '-') (d :: front)
              brace_not_mem with ⟨letters, left, hown, hwhole⟩ | hnone
            · simp only [hown, hwhole]
              split
              · exact agrees_some _ left
              · split
                · exact agrees_some _ left
                · split
                  · exact agrees_some _ left
                  · split
                    · exact agrees_some _ left
                    · exact agrees_none _ _
            · apply Agrees.of_none
              split
              · rename_i hcollect
                exact absurd hcollect (hnone _ _)
              · exact agrees_none _ _
      · rw [h]
        exact agrees_none _ _
    · unfold boundaryName
      simp only [List.cons_append, List.cons.injEq, hbrace, false_and, imp_self, implies_true]
      exact agrees_some Assertion.boundary (c :: cs)

/-- What follows a backslash. -/
theorem agrees_escape (verbose : Bool) (cs : List Char) :
    Agrees (fun e rest => Spent rest ∨ e = .assertion .boundary ∧ Dangling verbose rest)
      (escape verbose cs) (escape verbose (cs ++ closing)) := by
  rcases cs with _ | ⟨c, cs⟩
  · exact agrees_taken (.inl (.inl rfl)) _
  · unfold escape
    dsimp only [List.cons_append]
    split
    case h_1 | h_2 | h_3 =>
      exact (agrees_hexEscape verbose (Nat.succ_pos _) cs).map Escape.literal fun _ _ => .inl
    case h_4 =>
      exact (agrees_propertyEscape verbose cs).map (Escape.property · false) fun _ _ => .inl
    case h_5 =>
      exact (agrees_propertyEscape verbose cs).map (Escape.property · true) fun _ _ => .inl
    case h_23 =>
      refine (agrees_boundaryName verbose cs).map Escape.assertion fun name rest htaken => ?_
      exact htaken.imp_right fun h => ⟨congrArg Escape.assertion h.1, h.2⟩
    case h_24 =>
      split
      · exact agrees_some _ cs
      · exact agrees_none _ _
    -- The other escapes are a single character.
    all_goals exact agrees_some _ cs

end KeyIndex.Regex.Pattern
