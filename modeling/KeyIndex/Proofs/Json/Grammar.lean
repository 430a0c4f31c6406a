import KeyIndex.Json.Tree

/-!
# JSON texts

What a JSON text is, apart from how it is read: a text of a tree is its tokens, each of them in
one of the ways in which it may be written, with any white space before, between and after them.
A number may have an exponent with a letter of either case, with and without a sign; a character
of a string may stand for itself or be escaped, by a letter or by its number.

Main definitions:

- `Numeral.IsText`, `Unit16.IsText`, `Token.IsText`: how a number, an element of a string and a
  token are written.
- `Names`: the text that the elements of a string name.
- `Lays`: tokens with white space around them.
- `Tree.tokens`, `Tree.IsText`: the tokens of a tree, and its texts.
-/

namespace KeyIndex.Json

/-! ## Numbers -/

/-- Some digits, one at least. -/
structure IsRun (digits : List Char) : Prop where
  ne_nil : digits ≠ []
  isDigit : ∀ c ∈ digits, c.isDigit = true

/-- The digits before a point, which start with a zero only if there is nothing else. -/
structure IsWhole (digits : List Char) : Prop extends IsRun digits where
  eq_zero : digits.head? = some '0' → digits = ['0']

/-- How the digits after a point are written, if there are any. -/
inductive IsFraction : List Char → List Char → Prop where
  | none : IsFraction [] []
  | point {digits : List Char} : IsRun digits → IsFraction digits ('.' :: digits)

/-- How an exponent is written, if there is one. -/
inductive IsExponent : Option Int → List Char → Prop where
  | none : IsExponent none []
  | unsigned {letter : Char} {digits : List Char} : letter = 'e' ∨ letter = 'E' → IsRun digits →
      IsExponent (some (digitsValue digits)) (letter :: digits)
  | plus {letter : Char} {digits : List Char} : letter = 'e' ∨ letter = 'E' → IsRun digits →
      IsExponent (some (digitsValue digits)) (letter :: '+' :: digits)
  | minus {letter : Char} {digits : List Char} : letter = 'e' ∨ letter = 'E' → IsRun digits →
      IsExponent (some (-digitsValue digits)) (letter :: '-' :: digits)

/-- How a number is written. -/
inductive Numeral.IsText : Numeral → List Char → Prop where
  | intro (negative : Bool) {whole fraction fractional exponential : List Char}
      {exponent : Option Int} : IsWhole whole → IsFraction fraction fractional →
      IsExponent exponent exponential → Numeral.IsText ⟨negative, whole, fraction, exponent⟩
        ((if negative then ['-'] else []) ++ (whole ++ (fractional ++ exponential)))

/-! ## Strings -/

/-- How an element of a string is written: as it is, or after a backslash, by a letter or by its
number. -/
inductive Unit16.IsText : Unit16 → List Char → Prop where
  | plain {c : Char} : c ≠ '"' → c ≠ '\\' → ¬ c.toNat < 0x20 → Unit16.IsText (.char c) [c]
  | short {letter c : Char} : shortEscape? letter = some c → Unit16.IsText (.char c) ['\\', letter]
  | code {a b c d : Char} {code : Nat} : hex4? a b c d = some code →
      Unit16.IsText (.ofCode code) ['\\', 'u', a, b, c, d]

/-- How some elements of a string are written. -/
inductive AreWritten : List Unit16 → List Char → Prop where
  | nil : AreWritten [] []
  | cons {unit : Unit16} {units : List Unit16} {word cs : List Char} :
      unit.IsText word → AreWritten units cs → AreWritten (unit :: units) (word ++ cs)

/-- The text that the elements of a string name.  A character outside the basic plane may be named
by the two halves of its pair. -/
inductive Names : List Unit16 → List Char → Prop where
  | nil : Names [] []
  | char (c : Char) {units : List Unit16} {text : List Char} :
      Names units text → Names (.char c :: units) (c :: text)
  | pair {high low : Nat} {units : List Unit16} {text : List Char} :
      high < 0xDC00 → 0xDC00 ≤ low → Names units text →
        Names (.half high :: .half low :: units) (joinHalves high low :: text)

/-- What the elements of a string say: the text that they name, or nothing if they name none. -/
def Says (units : List Unit16) : Text → Prop
  | some text => Names units text.toList
  | none => ∀ text, ¬ Names units text

/-! ## Tokens -/

/-- How a token is written. -/
inductive Token.IsText : Token → List Char → Prop where
  | mark {mark : Token} {c : Char} : punctuation? c = some mark → Token.IsText mark [c]
  | null : Token.IsText .null ['n', 'u', 'l', 'l']
  | true : Token.IsText (.bool true) ['t', 'r', 'u', 'e']
  | false : Token.IsText (.bool false) ['f', 'a', 'l', 's', 'e']
  | string {units : List Unit16} {text : Text} {cs : List Char} : AreWritten units cs →
      Says units text → Token.IsText (.string text) ('"' :: (cs ++ ['"']))
  | number {numeral : Numeral} {cs : List Char} : numeral.IsText cs →
      Token.IsText (.number numeral) cs

/-- Tokens, one after another, with white space wherever it may be. -/
inductive Lays : List Token → List Char → Prop where
  | nil : Lays [] []
  | blank {c : Char} {tokens : List Token} {cs : List Char} :
      isBlank c = true → Lays tokens cs → Lays tokens (c :: cs)
  | token {token : Token} {tokens : List Token} {word cs : List Char} :
      token.IsText word → Lays tokens cs → Lays (token :: tokens) (word ++ cs)

/-! ## Trees -/

namespace Tree

mutual

/-- The tokens of a tree. -/
def tokens : Tree → List Token
  | .null => [.null]
  | .bool b => [.bool b]
  | .number n => [.number n]
  | .string text => [.string text]
  | .array items => .openArray :: itemTokens items ++ [.closeArray]
  | .object members => .openObject :: memberTokens members ++ [.closeObject]

/-- The tokens of the items of an array, separated by commas. -/
def itemTokens : List Tree → List Token
  | [] => []
  | [item] => item.tokens
  | item :: items => item.tokens ++ .comma :: itemTokens items

/-- The tokens of the members of an object, separated by commas. -/
def memberTokens : List (Text × Tree) → List Token
  | [] => []
  | [(name, tree)] => .string name :: .colon :: tree.tokens
  | (name, tree) :: members =>
    .string name :: .colon :: tree.tokens ++ .comma :: memberTokens members

end

/-- A text is one of a tree. -/
def IsText (tree : Tree) (text : String) : Prop := Lays tree.tokens text.toList

end Tree

end KeyIndex.Json
