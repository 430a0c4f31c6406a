/-!
# Tokens of a JSON text

A JSON text is read in two stages: its characters are cut into tokens, and the
tokens are put together to a tree.  This module holds the first stage and its
inverse, the characters a token is written with.

A string token keeps what its escapes say.  An escape may name half of a
surrogate pair; two halves in the right order are one character, and a half that
stands alone makes the whole token a string without text (`none`), which is still
a well-formed token.

Main definitions:

- `Token.scan`: the tokens of a text, `none` when the text has anything else.
- `Token.chars`: the characters a token is written with.
-/

namespace KeyIndex.Json

/-- A number as it is written: sign, digits before and after the point, exponent. -/
structure Numeral where
  negative : Bool
  whole : List Char
  fraction : List Char
  exponent : Option Int
deriving DecidableEq

/-- The characters a string token stands for, `none` when one of its escapes
names half a surrogate pair whose other half is missing. -/
abbrev Text := Option String

/-- A lexical unit of a JSON text. -/
inductive Token where
  | openObject
  | closeObject
  | openArray
  | closeArray
  | colon
  | comma
  | null
  | bool (value : Bool)
  | string (text : Text)
  | number (numeral : Numeral)
deriving DecidableEq

/-! ## String tokens -/

/-- One element of a string token: a character, or an escaped half of a
surrogate pair. -/
inductive Unit16 where
  | char (c : Char)
  | half (code : Nat)
deriving DecidableEq

/-- The value of a hexadecimal digit of either case. -/
def hexValue? (c : Char) : Option Nat :=
  if '0' ≤ c ∧ c ≤ '9' then some (c.toNat - '0'.toNat)
  else if 'a' ≤ c ∧ c ≤ 'f' then some (c.toNat - 'a'.toNat + 10)
  else if 'A' ≤ c ∧ c ≤ 'F' then some (c.toNat - 'A'.toNat + 10)
  else none

/-- The value of four hexadecimal digits. -/
def hex4? (a b c d : Char) : Option Nat := do
  let a ← hexValue? a
  let b ← hexValue? b
  let c ← hexValue? c
  let d ← hexValue? d
  some (((a * 16 + b) * 16 + c) * 16 + d)

/-- What a four-digit escape names: a character outside the surrogate range. -/
def Unit16.ofCode (code : Nat) : Unit16 :=
  if 0xD800 ≤ code ∧ code ≤ 0xDFFF then .half code else .char (Char.ofNat code)

/-- The character named by the letter of a short escape. -/
def shortEscape? : Char → Option Char
  | '"' => some '"'
  | '\\' => some '\\'
  | '/' => some '/'
  | 'b' => some '\x08'
  | 'f' => some '\x0c'
  | 'n' => some '\n'
  | 'r' => some '\r'
  | 't' => some '\t'
  | _ => none

/-- The elements of a string token up to its closing quote, and what follows it.
A character below the space must be escaped. -/
def scanString : List Char → Option (List Unit16 × List Char)
  | [] => none
  | c :: rest =>
    if c = '"' then some ([], rest)
    else if c = '\\' then
      match rest with
      | [] => none
      | e :: rest =>
        if e = 'u' then
          match rest with
          | h₁ :: h₂ :: h₃ :: h₄ :: rest => do
            let code ← hex4? h₁ h₂ h₃ h₄
            let (units, rest) ← scanString rest
            some (.ofCode code :: units, rest)
          | _ => none
        else do
          let e ← shortEscape? e
          let (units, rest) ← scanString rest
          some (.char e :: units, rest)
    else if c.toNat < 0x20 then none
    else do
      let (units, rest) ← scanString rest
      some (.char c :: units, rest)

/-- Reading a string token uses up at least its closing quote. -/
theorem scanString_length {cs : List Char} {units : List Unit16} {rest : List Char}
    (h : scanString cs = some (units, rest)) : rest.length < cs.length := by
  fun_induction scanString cs generalizing units rest with
  | case1 | case3 | case5 | case7 => simp at h
  | case2 => simp_all
  | case4 =>
    rename_i ih
    simp only [Option.bind_eq_bind, Option.bind_eq_some_iff, Option.some.injEq] at h
    obtain ⟨code, -, ⟨us, r⟩, hr, he⟩ := h
    have := ih hr
    cases he
    simp only [List.length_cons]
    omega
  | case6 =>
    rename_i ih
    simp only [Option.bind_eq_bind, Option.bind_eq_some_iff, Option.some.injEq] at h
    obtain ⟨_, -, ⟨us, r⟩, hr, he⟩ := h
    have := ih hr
    cases he
    simp only [List.length_cons]
    omega
  | case8 =>
    rename_i ih
    simp only [Option.bind_eq_bind, Option.bind_eq_some_iff, Option.some.injEq] at h
    obtain ⟨⟨us, r⟩, hr, he⟩ := h
    have := ih hr
    cases he
    simp only [List.length_cons]
    omega

/-- The character of a surrogate pair. -/
def joinHalves (high low : Nat) : Char :=
  Char.ofNat (0x10000 + (high - 0xD800) * 0x400 + (low - 0xDC00))

/-- The text of a string token: a high half must be followed by a low half, and
no half may stand anywhere else. -/
def textOfUnits : List Unit16 → Option (List Char)
  | [] => some []
  | .char c :: rest => (textOfUnits rest).map (c :: ·)
  | .half high :: .half low :: rest =>
    if high < 0xDC00 ∧ 0xDC00 ≤ low then (textOfUnits rest).map (joinHalves high low :: ·)
    else none
  | .half _ :: _ => none

/-! ## Number tokens -/

/-- The longest run of decimal digits at the front, and what follows it. -/
def splitDigits (cs : List Char) : List Char × List Char :=
  (cs.takeWhile Char.isDigit, cs.dropWhile Char.isDigit)

/-- The value of a run of decimal digits. -/
def digitsValue (digits : List Char) : Nat :=
  digits.foldl (fun n c => n * 10 + (c.toNat - '0'.toNat)) 0

/-- The digits after a decimal point, none when there is no point.  A point must
be followed by a digit. -/
def scanFraction : List Char → Option (List Char × List Char)
  | '.' :: rest =>
    match splitDigits rest with
    | ([], _) => none
    | (digits, rest) => some (digits, rest)
  | cs => some ([], cs)

/-- The sign of an exponent and what follows it. -/
def exponentSign : List Char → Bool × List Char
  | '-' :: rest => (true, rest)
  | '+' :: rest => (false, rest)
  | cs => (false, cs)

/-- The exponent of a number, `none` when it has none. -/
def scanExponent : List Char → Option (Option Int × List Char)
  | c :: rest =>
    if c = 'e' ∨ c = 'E' then
      match splitDigits (exponentSign rest).2 with
      | ([], _) => none
      | (digits, after) =>
        let n : Int := digitsValue digits
        some (some (if (exponentSign rest).1 then -n else n), after)
    else some (none, c :: rest)
  | [] => some (none, [])

/-- The digits before the point: one zero, or digits that do not start with a
zero. -/
def scanWhole (cs : List Char) : Option (List Char × List Char) :=
  match splitDigits cs with
  | ([], _) => none
  | ('0' :: _ :: _, _) => none
  | (digits, rest) => some (digits, rest)

/-- A number without its sign. -/
def scanUnsigned (negative : Bool) (cs : List Char) : Option (Numeral × List Char) := do
  let (whole, rest) ← scanWhole cs
  let (fraction, rest) ← scanFraction rest
  let (exponent, rest) ← scanExponent rest
  some (⟨negative, whole, fraction, exponent⟩, rest)

/-- A number with its sign. -/
def scanNumber : List Char → Option (Numeral × List Char)
  | '-' :: rest => scanUnsigned true rest
  | cs => scanUnsigned false cs

theorem splitDigits_length (cs : List Char) :
    (splitDigits cs).1.length + (splitDigits cs).2.length = cs.length := by
  rw [← List.length_append, splitDigits, List.takeWhile_append_dropWhile]

theorem scanWhole_length {cs digits rest : List Char} (h : scanWhole cs = some (digits, rest)) :
    rest.length < cs.length := by
  have hsum := splitDigits_length cs
  unfold scanWhole at h
  split at h
  · simp at h
  · simp at h
  · next d r _ hne hsplit =>
    simp only [Option.some.injEq, Prod.mk.injEq] at h
    obtain ⟨rfl, rfl⟩ := h
    rw [hsplit] at hsum
    cases d with
    | nil => simp_all
    | cons => simp only [List.length_cons] at hsum; omega

theorem scanFraction_length {cs digits rest : List Char}
    (h : scanFraction cs = some (digits, rest)) : rest.length ≤ cs.length := by
  unfold scanFraction at h
  split at h
  · next r =>
    have hsum := splitDigits_length r
    split at h
    · simp at h
    · next d r' _ hsplit =>
      simp only [Option.some.injEq, Prod.mk.injEq] at h
      obtain ⟨rfl, rfl⟩ := h
      rw [hsplit] at hsum
      simp only [List.length_cons] at hsum ⊢
      omega
  · simp_all

theorem exponentSign_length (cs : List Char) : (exponentSign cs).2.length ≤ cs.length := by
  unfold exponentSign
  split <;> simp

theorem scanExponent_length {cs rest : List Char} {e : Option Int}
    (h : scanExponent cs = some (e, rest)) : rest.length ≤ cs.length := by
  unfold scanExponent at h
  split at h
  · next c r =>
    have hsign := exponentSign_length r
    split at h
    · have hsum := splitDigits_length (exponentSign r).2
      split at h
      · simp at h
      · next d r' _ hsplit =>
        simp only [Option.some.injEq, Prod.mk.injEq] at h
        obtain ⟨-, rfl⟩ := h
        rw [hsplit] at hsum
        simp only [List.length_cons] at hsum ⊢
        omega
    · simp_all
  · simp_all

theorem scanUnsigned_length {negative : Bool} {cs rest : List Char} {n : Numeral}
    (h : scanUnsigned negative cs = some (n, rest)) : rest.length < cs.length := by
  simp only [scanUnsigned, Option.bind_eq_bind, Option.bind_eq_some_iff, Option.some.injEq,
    Prod.mk.injEq, Prod.exists] at h
  obtain ⟨_, r₁, h₁, _, r₂, h₂, _, r₃, h₃, -, rfl⟩ := h
  have := scanWhole_length h₁
  have := scanFraction_length h₂
  have := scanExponent_length h₃
  omega

theorem scanNumber_length {cs rest : List Char} {n : Numeral}
    (h : scanNumber cs = some (n, rest)) : rest.length < cs.length := by
  unfold scanNumber at h
  split at h
  · have := scanUnsigned_length h
    simp only [List.length_cons]
    omega
  · exact scanUnsigned_length h

/-! ## The tokens of a text -/

/-- The white space of JSON. -/
def isBlank (c : Char) : Bool := c = ' ' || c = '\t' || c = '\n' || c = '\r'

/-- The token that one character is by itself. -/
def punctuation? : Char → Option Token
  | '{' => some .openObject
  | '}' => some .closeObject
  | '[' => some .openArray
  | ']' => some .closeArray
  | ':' => some .colon
  | ',' => some .comma
  | _ => none

/-- The first token of a text that starts with neither a blank nor punctuation,
and what follows it. -/
def scanWord : List Char → Option (Token × List Char)
  | 'n' :: 'u' :: 'l' :: 'l' :: rest => some (.null, rest)
  | 't' :: 'r' :: 'u' :: 'e' :: rest => some (.bool true, rest)
  | 'f' :: 'a' :: 'l' :: 's' :: 'e' :: rest => some (.bool false, rest)
  | '"' :: rest => do
    let (units, rest) ← scanString rest
    some (.string ((textOfUnits units).map String.ofList), rest)
  | cs => do
    let (numeral, rest) ← scanNumber cs
    some (.number numeral, rest)

/-- Reading a word uses up at least one character. -/
theorem scanWord_length {cs rest : List Char} {token : Token}
    (h : scanWord cs = some (token, rest)) : rest.length < cs.length := by
  unfold scanWord at h
  split at h
  · cases h; simp only [List.length_cons]; omega
  · cases h; simp only [List.length_cons]; omega
  · cases h; simp only [List.length_cons]; omega
  · simp only [Option.bind_eq_bind, Option.bind_eq_some_iff, Option.some.injEq, Prod.mk.injEq,
      Prod.exists] at h
    obtain ⟨_, _, hs, -, rfl⟩ := h
    have := scanString_length hs
    simp only [List.length_cons]
    omega
  · simp only [Option.bind_eq_bind, Option.bind_eq_some_iff, Option.some.injEq, Prod.mk.injEq,
      Prod.exists] at h
    obtain ⟨_, _, hs, -, rfl⟩ := h
    exact scanNumber_length hs

/-- All tokens of a text, `none` when it contains anything that is neither a
token nor white space. -/
def Token.scan (cs : List Char) : Option (List Token) :=
  match cs with
  | [] => some []
  | c :: rest =>
    if isBlank c then Token.scan rest
    else match punctuation? c with
      | some token => (Token.scan rest).map (token :: ·)
      | none =>
        match _h : scanWord (c :: rest) with
        | none => none
        | some (token, after) => (Token.scan after).map (token :: ·)
termination_by cs.length
decreasing_by
  · simp
  · simp
  · exact scanWord_length _h

/-! ## Writing tokens -/

/-- A lower-case hexadecimal digit. -/
def hexDigit (n : Nat) : Char :=
  if n < 10 then Char.ofNat ('0'.toNat + n) else Char.ofNat ('a'.toNat + (n - 10))

/-- A character inside a string token: quotes, backslashes and control
characters are escaped, everything else is written as it is. -/
def escapeChar (c : Char) : List Char :=
  if c = '"' then ['\\', '"']
  else if c = '\\' then ['\\', '\\']
  else if c = '\n' then ['\\', 'n']
  else if c = '\r' then ['\\', 'r']
  else if c = '\t' then ['\\', 't']
  else if c = '\x08' then ['\\', 'b']
  else if c = '\x0c' then ['\\', 'f']
  else if c.toNat < 0x20 then
    ['\\', 'u', '0', '0', hexDigit (c.toNat / 16), hexDigit (c.toNat % 16)]
  else [c]

/-- The characters of a number token. -/
def Numeral.chars (n : Numeral) : List Char :=
  (if n.negative then ['-'] else []) ++ n.whole
    ++ (if n.fraction.isEmpty then [] else '.' :: n.fraction)
    ++ (match n.exponent with
        | none => []
        | some e => 'e' :: (toString e).toList)

/-- The characters a token is written with.  A string without text is written as
the shortest escape that has none. -/
def Token.chars : Token → List Char
  | .openObject => ['{']
  | .closeObject => ['}']
  | .openArray => ['[']
  | .closeArray => [']']
  | .colon => [':']
  | .comma => [',']
  | .null => "null".toList
  | .bool true => "true".toList
  | .bool false => "false".toList
  | .string (some s) => '"' :: s.toList.flatMap escapeChar ++ ['"']
  | .string none => "\"\\ud800\"".toList
  | .number n => n.chars

end KeyIndex.Json
