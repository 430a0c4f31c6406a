import KeyIndex.Json.Value
import KeyIndex.Proofs.Json.Grammar
import Mathlib.Data.List.Chain

/-!
# Tokens are read from their texts

A text of a token is read as the token, in whichever of its ways it is written.  A number ends
where nothing follows that it could go on with; every other token ends by itself.  So the text of
some tokens is scanned as these tokens if no two numbers stand next to each other, whatever white
space there is.

Main results:

- Definition `Halts`: no number goes on with a text.
- Theorem `scanNumber_of_isText`: a number is read from its texts.
- Theorems `scanString_of_areWritten`, `textOfUnits_eq_some_iff`: so are the elements of a string,
  and they have the text that they name.
- Theorem `scan_of_isText`: how a text with a token at its front is scanned.
- Theorem `Lays.scan`: tokens are scanned from their texts.
-/

namespace KeyIndex.Json

variable {cs rest : List Char}

/-! ## Digits -/

/-- The digits at the front of a text are all digits of a number, if no digit follows. -/
theorem splitDigits_append {digits : List Char} (h : ∀ c ∈ digits, c.isDigit = true)
    (hrest : ∀ c, rest.head? = some c → c.isDigit = false) :
    splitDigits (digits ++ rest) = (digits, rest) := by
  have htake : rest.takeWhile Char.isDigit = [] := by
    cases rest with
    | nil => rfl
    | cons c rest => rw [List.takeWhile_cons, hrest c rfl]; rfl
  have hdrop : rest.dropWhile Char.isDigit = rest := by
    cases rest with
    | nil => rfl
    | cons c rest => rw [List.dropWhile_cons, hrest c rfl]; rfl
  rw [splitDigits, List.takeWhile_append_of_pos h, List.dropWhile_append_of_pos h, htake, hdrop,
    List.append_nil]

/-- The first character of a run is a digit. -/
theorem IsRun.exists_cons {digits : List Char} (h : IsRun digits) :
    ∃ c more, digits = c :: more ∧ c.isDigit = true := by
  rcases List.exists_cons_of_ne_nil h.ne_nil with ⟨c, more, rfl⟩
  exact ⟨c, more, rfl, h.isDigit c List.mem_cons_self⟩

/-! ## Numbers -/

/-- No number goes on with a text. -/
def Halts (rest : List Char) : Prop :=
  ∀ c, rest.head? = some c → c.isDigit = false ∧ c ≠ '.' ∧ c ≠ 'e' ∧ c ≠ 'E'

theorem halts_nil : Halts [] := by
  intro c hc
  cases hc

theorem halts_cons {c : Char} (h : c.isDigit = false ∧ c ≠ '.' ∧ c ≠ 'e' ∧ c ≠ 'E')
    (rest : List Char) : Halts (c :: rest) := by
  intro d hd
  cases hd
  exact h

theorem scanWhole_of_isWhole {digits : List Char} (h : IsWhole digits)
    (hrest : ∀ c, rest.head? = some c → c.isDigit = false) :
    scanWhole (digits ++ rest) = some (digits, rest) := by
  rw [scanWhole, splitDigits_append h.isDigit hrest]
  split
  case h_1 hsplit => exact absurd (Prod.mk.inj hsplit).1 h.ne_nil
  -- Only a single zero starts with a zero.
  case h_2 hsplit =>
    have hdigits := (Prod.mk.inj hsplit).1
    have hzero := h.eq_zero (by rw [hdigits]; rfl)
    rw [hdigits] at hzero
    cases hzero
  case h_3 hsplit =>
    rcases Prod.mk.inj hsplit with ⟨rfl, rfl⟩
    rfl

theorem scanFraction_of_ne (h : rest.head? ≠ some '.') : scanFraction rest = some ([], rest) := by
  cases rest with
  | nil => rfl
  | cons c rest =>
    rw [List.head?_cons, ne_eq, Option.some.injEq] at h
    unfold scanFraction
    split
    case h_1 heq => exact absurd (List.cons.inj heq).1 h
    case h_2 => rfl

theorem scanFraction_of_isFraction {fraction : List Char} (h : IsFraction fraction cs)
    (hrest : ∀ c, rest.head? = some c → c.isDigit = false ∧ c ≠ '.') :
    scanFraction (cs ++ rest) = some (fraction, rest) := by
  cases h with
  | none => exact scanFraction_of_ne fun hc => (hrest '.' hc).2 rfl
  | point hrun =>
    have hsplit := splitDigits_append hrun.isDigit fun c hc => (hrest c hc).1
    rcases hrun.exists_cons with ⟨c, more, rfl, -⟩
    rw [List.cons_append, scanFraction, hsplit]

theorem scanExponent_halts (h : Halts rest) : scanExponent rest = some (none, rest) := by
  cases rest with
  | nil => rfl
  | cons c rest =>
    rcases h c rfl with ⟨-, -, hsmall, hlarge⟩
    rw [scanExponent, if_neg (by simp [hsmall, hlarge])]

/-- A run of digits has no sign. -/
theorem exponentSign_run {digits : List Char} (h : IsRun digits) (rest : List Char) :
    exponentSign (digits ++ rest) = (false, digits ++ rest) := by
  rcases h.exists_cons with ⟨c, more, rfl, hdigit⟩
  unfold exponentSign
  split
  case h_1 heq => rw [(List.cons.inj heq).1] at hdigit; cases hdigit
  case h_2 heq => rw [(List.cons.inj heq).1] at hdigit; cases hdigit
  case h_3 => rfl

/-- What is read of an exponent whose digits come after its letter and its sign. -/
theorem scanExponent_letter {letter : Char} {digits : List Char}
    (hletter : letter = 'e' ∨ letter = 'E') (hrun : IsRun digits) (hrest : Halts rest)
    (hdigits : (exponentSign cs).2 = digits ++ rest) :
    scanExponent (letter :: cs) =
      some (some (if (exponentSign cs).1 then -(digitsValue digits : Int) else digitsValue digits),
        rest) := by
  have hsplit := splitDigits_append hrun.isDigit fun c hc => (hrest c hc).1
  rw [scanExponent, if_pos hletter, hdigits, hsplit]
  rcases hrun.exists_cons with ⟨c, more, rfl, -⟩
  rfl

theorem scanExponent_of_isExponent {exponent : Option Int} (h : IsExponent exponent cs)
    (hrest : Halts rest) : scanExponent (cs ++ rest) = some (exponent, rest) := by
  cases h with
  | none => exact scanExponent_halts hrest
  | @unsigned letter digits hletter hrun =>
    have hsign := exponentSign_run hrun rest
    rw [List.cons_append, scanExponent_letter hletter hrun hrest (by rw [hsign]), hsign]
    rfl
  | plus hletter hrun =>
    rw [List.cons_append, List.cons_append, scanExponent_letter hletter hrun hrest rfl]
    rfl
  | minus hletter hrun =>
    rw [List.cons_append, List.cons_append, scanExponent_letter hletter hrun hrest rfl]
    rfl

/-- After the digits before a point comes no digit, and after those after it no point either. -/
theorem IsExponent.head {exponent : Option Int} (h : IsExponent exponent cs) (hrest : Halts rest) :
    ∀ c, (cs ++ rest).head? = some c → c.isDigit = false ∧ c ≠ '.' := by
  intro c hc
  cases h with
  | none => exact ⟨(hrest c hc).1, (hrest c hc).2.1⟩
  | unsigned hletter | plus hletter | minus hletter =>
    cases hc
    rcases hletter with rfl | rfl
    · decide
    · decide

theorem IsFraction.head {fraction : List Char} (h : IsFraction fraction cs)
    (hrest : ∀ c, rest.head? = some c → c.isDigit = false) :
    ∀ c, (cs ++ rest).head? = some c → c.isDigit = false := by
  intro c hc
  cases h with
  | none => exact hrest c hc
  | point _ => cases hc; decide

theorem scanNumber_of_ne (h : cs.head? ≠ some '-') : scanNumber cs = scanUnsigned false cs := by
  unfold scanNumber
  split
  case h_1 => exact absurd rfl h
  case h_2 => rfl

/-- A number is read from its texts, if no number goes on after it. -/
theorem scanNumber_of_isText {n : Numeral} (h : n.IsText cs) (hrest : Halts rest) :
    scanNumber (cs ++ rest) = some (n, rest) := by
  rcases h with @⟨negative, whole, fraction, fractional, exponential, exponent, hwhole, hfraction,
    hexponent⟩
  have hpoint := hexponent.head hrest
  have hdigit := hfraction.head fun c hc => (hpoint c hc).1
  have hunsigned : scanUnsigned negative (whole ++ (fractional ++ (exponential ++ rest))) =
      some (⟨negative, whole, fraction, exponent⟩, rest) := by
    simp only [scanUnsigned, scanWhole_of_isWhole hwhole hdigit,
      scanFraction_of_isFraction hfraction hpoint, scanExponent_of_isExponent hexponent hrest,
      Option.bind_eq_bind, Option.bind_some]
  cases negative with
  | true =>
    simp only [if_true, List.cons_append, List.append_assoc]
    exact hunsigned
  | false =>
    simp only [Bool.false_eq_true, if_false, List.nil_append, List.append_assoc]
    rw [scanNumber_of_ne ?_]
    · exact hunsigned
    · rcases hwhole.exists_cons with ⟨c, more, rfl, hdigit⟩
      rintro ⟨⟩
      cases hdigit

/-! ## Strings -/

/-- What is read of a string whose first element is known. -/
def withUnit (unit : Unit16) (found : Option (List Unit16 × List Char)) :
    Option (List Unit16 × List Char) :=
  found.map fun (units, rest) => (unit :: units, rest)

/-- The letter of a short escape is not the one of an escape by number. -/
theorem ne_of_shortEscape? {letter c : Char} (h : shortEscape? letter = some c) : letter ≠ 'u' := by
  rintro rfl
  cases h

/-- An element of a string is read from its texts. -/
theorem scanString_of_isText {unit : Unit16} {word : List Char} (h : unit.IsText word)
    (cs : List Char) : scanString (word ++ cs) = withUnit unit (scanString cs) := by
  cases h with
  | plain hquote hescape hcontrol =>
    rw [List.singleton_append, scanString.eq_def]
    simp only [hquote, hescape, hcontrol, if_false]
    cases scanString cs <;> rfl
  | short hletter =>
    rw [List.cons_append, List.singleton_append, scanString.eq_def]
    simp only [ne_of_shortEscape? hletter, hletter, if_false]
    cases scanString cs <;> rfl
  | code hcode =>
    simp only [List.cons_append, List.nil_append]
    rw [scanString.eq_def]
    simp only [hcode]
    cases scanString cs <;> rfl

/-- The elements of a string are read from their texts. -/
theorem scanString_of_areWritten {units : List Unit16} (h : AreWritten units cs)
    (rest : List Char) : scanString (cs ++ '"' :: rest) = some (units, rest) := by
  induction h with
  | nil =>
    rw [List.nil_append]
    unfold scanString
    rfl
  | cons hunit _ ih =>
    rw [List.append_assoc, scanString_of_isText hunit, ih]
    rfl

/-- The elements of a string have the text that they name. -/
theorem textOfUnits_eq_some_iff {units : List Unit16} {text : List Char} :
    textOfUnits units = some text ↔ Names units text := by
  constructor
  · intro h
    fun_induction textOfUnits units generalizing text with
    | case1 => cases h; exact .nil
    | case2 c units ih =>
      rcases Option.map_eq_some_iff.mp h with ⟨more, hmore, rfl⟩
      exact .char c (ih hmore)
    | case3 high low units hpair ih =>
      rcases Option.map_eq_some_iff.mp h with ⟨more, hmore, rfl⟩
      exact .pair hpair.1 hpair.2 (ih hmore)
    | case4 => cases h
    | case5 => cases h
  · intro h
    induction h with
    | nil => rfl
    | char c _ ih => rw [textOfUnits, ih, Option.map_some]
    | pair hhigh hlow _ ih => rw [textOfUnits, if_pos ⟨hhigh, hlow⟩, ih, Option.map_some]

/-- What the elements of a string say is read of them. -/
theorem map_textOfUnits {units : List Unit16} {text : Text} (h : Says units text) :
    (textOfUnits units).map String.ofList = text := by
  cases text with
  | some text => rw [textOfUnits_eq_some_iff.mpr h, Option.map_some, String.ofList_toList]
  | none =>
    rw [Option.map_eq_none_iff, Option.eq_none_iff_forall_ne_some]
    exact fun text htext => h text (textOfUnits_eq_some_iff.mp htext)

/-! ## Tokens -/

/-- A punctuation mark at the front of a text is a token. -/
theorem scan_punctuation {c : Char} {token : Token} (cs : List Char) (hblank : isBlank c = false)
    (h : punctuation? c = some token) :
    Token.scan (c :: cs) = (Token.scan cs).map (token :: ·) := by
  rw [Token.scan, hblank, h]
  rfl

/-- A word at the front of a text is a token. -/
theorem scan_word {c : Char} {cs after : List Char} {token : Token} (hblank : isBlank c = false)
    (hpunctuation : punctuation? c = none) (h : scanWord (c :: cs) = some (token, after)) :
    Token.scan (c :: cs) = (Token.scan after).map (token :: ·) := by
  rw [Token.scan, hblank, hpunctuation, if_neg (by decide)]
  dsimp only
  split
  case h_1 hnone => rw [h] at hnone; cases hnone
  case h_2 found rest hfound =>
    rw [h] at hfound
    cases hfound
    rfl

/-- A text that starts with a sign or a digit is a number. -/
theorem scanWord_number {c : Char} (cs : List Char) (h : c = '-' ∨ c.isDigit = true) :
    scanWord (c :: cs) =
      (scanNumber (c :: cs)).map fun (numeral, rest) => (.number numeral, rest) := by
  unfold scanWord
  split
  case h_1 heq => cases heq; simp at h
  case h_2 heq => cases heq; simp at h
  case h_3 heq => cases heq; simp at h
  case h_4 heq => cases heq; simp at h
  case h_5 => cases scanNumber (c :: cs) <;> rfl

/-- A text that starts with a quote is a string. -/
theorem scanWord_quote (cs : List Char) :
    scanWord ('"' :: cs) = (scanString cs).bind fun (units, rest) =>
      some (.string ((textOfUnits units).map String.ofList), rest) := by
  rfl

/-- Signs and digits are neither blanks nor punctuation. -/
theorem plain_of_number {c : Char} (h : c = '-' ∨ c.isDigit = true) :
    isBlank c = false ∧ punctuation? c = none := by
  constructor
  · rw [← Bool.not_eq_true]
    intro hblank
    simp only [isBlank, Bool.or_eq_true, decide_eq_true_eq] at hblank
    rcases hblank with ((rfl | rfl) | rfl) | rfl <;> simp at h
  · unfold punctuation?
    split <;> first | rfl | simp at h

/-- A punctuation mark is no blank, and no number goes on with it. -/
theorem of_punctuation? {c : Char} {mark : Token} (h : punctuation? c = some mark) :
    isBlank c = false ∧ c.isDigit = false ∧ c ≠ '.' ∧ c ≠ 'e' ∧ c ≠ 'E' := by
  unfold punctuation? at h
  split at h
  case h_7 => cases h
  all_goals decide

/-- No number goes on with a blank. -/
theorem of_isBlank {c : Char} (h : isBlank c = true) :
    c.isDigit = false ∧ c ≠ '.' ∧ c ≠ 'e' ∧ c ≠ 'E' := by
  simp only [isBlank, Bool.or_eq_true, decide_eq_true_eq] at h
  rcases h with ((rfl | rfl) | rfl) | rfl <;> decide

/-- The first character of a number is a sign or a digit. -/
theorem Numeral.IsText.exists_cons {n : Numeral} (h : n.IsText cs) :
    ∃ c more, cs = c :: more ∧ (c = '-' ∨ c.isDigit = true) := by
  rcases h with @⟨negative, whole, fraction, fractional, exponential, exponent, hwhole, -, -⟩
  cases negative with
  | true => exact ⟨'-', _, rfl, .inl rfl⟩
  | false =>
    rcases hwhole.exists_cons with ⟨c, more, rfl, hdigit⟩
    exact ⟨c, _, rfl, .inr hdigit⟩

/-- A token is a number. -/
def Token.IsNumber : Token → Prop
  | .number _ => True
  | _ => False

/-- A token is read from its texts.  No number may go on after a number. -/
theorem scan_of_isText {token : Token} (h : token.IsText cs)
    (hrest : token.IsNumber → Halts rest) :
    Token.scan (cs ++ rest) = (Token.scan rest).map (token :: ·) := by
  cases h with
  | mark hmark => exact scan_punctuation rest (of_punctuation? hmark).1 hmark
  | null => exact scan_word (by decide) (by decide) rfl
  | true => exact scan_word (by decide) (by decide) rfl
  | false => exact scan_word (by decide) (by decide) rfl
  | @string units text cs hwritten hsays =>
    rw [List.cons_append, List.append_assoc, List.singleton_append]
    have hword : scanWord ('"' :: (cs ++ '"' :: rest)) = some (.string text, rest) := by
      rw [scanWord_quote, scanString_of_areWritten hwritten, Option.bind_some]
      dsimp only
      rw [map_textOfUnits hsays]
    exact scan_word (by decide) (by decide) hword
  | @number numeral cs hnumber =>
    have hscan := scanNumber_of_isText hnumber (hrest trivial)
    rcases hnumber.exists_cons with ⟨c, more, rfl, hfirst⟩
    rcases plain_of_number hfirst with ⟨hblank, hpunctuation⟩
    have hword : scanWord (c :: (more ++ rest)) = some (.number numeral, rest) := by
      rw [scanWord_number _ hfirst, ← List.cons_append, hscan]
      rfl
    exact scan_word hblank hpunctuation hword

/-- No number goes on where no number follows. -/
theorem Lays.halts {tokens : List Token} (h : Lays tokens cs)
    (hfirst : ∀ token, tokens.head? = some token → ¬ token.IsNumber) : Halts cs := by
  cases h with
  | nil => exact halts_nil
  | blank hblank _ => exact halts_cons (of_isBlank hblank) _
  | token htoken _ =>
    have hnumber := hfirst _ rfl
    cases htoken with
    | mark hmark => exact halts_cons (of_punctuation? hmark).2 _
    | null => exact halts_cons (by decide) _
    | true => exact halts_cons (by decide) _
    | false => exact halts_cons (by decide) _
    | string _ _ => exact halts_cons (by decide) _
    | number _ => exact absurd trivial hnumber

/-- No two numbers stand next to each other. -/
def Apart (tokens : List Token) : Prop :=
  tokens.IsChain fun token next => ¬ (token.IsNumber ∧ next.IsNumber)

/-- Tokens are scanned from their texts. -/
theorem Lays.scan {tokens : List Token} (h : Lays tokens cs) (hapart : Apart tokens) :
    Token.scan cs = some tokens := by
  induction h with
  | nil => rw [Token.scan]
  | blank hblank _ ih =>
    rw [Token.scan, if_pos hblank]
    exact ih hapart
  | token htoken hlays ih =>
    rcases List.isChain_cons.mp hapart with ⟨hfirst, hmore⟩
    have hhalts := fun hnumber => hlays.halts fun next hnext hnext' =>
      hfirst next hnext ⟨hnumber, hnext'⟩
    rw [scan_of_isText htoken hhalts, ih hmore, Option.map_some]

end KeyIndex.Json
