import KeyIndex.Json.Tree

/-!
# JSON values

A value is a tree of which something has been made: every string has text, every
number is an exact decimal, and within an object each name stands once.  Values
are what the library writes, and what it keeps of a text when it takes part of it
over as it stands.

Main definitions:

- `Value.tokens`, `Value.render`: how a value is written.
- `Tree.keep?`: the value of a tree that is nested no deeper than allowed.
-/

namespace KeyIndex.Json

/-- The number `mantissa * 10 ^ exponent`. -/
structure Number where
  mantissa : Int
  exponent : Int
deriving DecidableEq

namespace Number

/-- A whole number. -/
def ofInt (n : Int) : Number := ⟨n, 0⟩

/-- The number that a numeral denotes. -/
def ofNumeral (n : Numeral) : Number :=
  let digits : Int := digitsValue (n.whole ++ n.fraction)
  ⟨if n.negative then -digits else digits, n.exponent.getD 0 - n.fraction.length⟩

/-- The least magnitude that is beyond every binary64 number: half a unit in the
last place above the greatest of them. -/
def overflow : Nat := (1 <<< 1024) - (1 <<< 970)

/-- Whether a number can be kept: its magnitude must not be beyond the binary64
numbers.  The first three cases settle extreme exponents without computing their
powers: a mantissa other than zero is at least one, and below the power of ten
that has its binary logarithm as exponent. -/
def inRange (n : Number) : Bool :=
  if n.mantissa = 0 then true
  else if 400 < n.exponent then false
  else if n.exponent < -(Nat.log2 n.mantissa.natAbs + 1 : Int) then true
  else if 0 ≤ n.exponent then n.mantissa.natAbs * Nat.pow 10 n.exponent.toNat < overflow
  else n.mantissa.natAbs < overflow * Nat.pow 10 (-n.exponent).toNat

/-- How a number is written: a whole number by its digits, any other with an
exponent. -/
def numeral (n : Number) : Numeral where
  negative := n.mantissa < 0
  whole := Nat.toDigits 10 n.mantissa.natAbs
  fraction := []
  exponent := if n.exponent = 0 then none else some n.exponent

end Number

/-- A JSON value. -/
inductive Value where
  | null
  | bool (value : Bool)
  | number (number : Number)
  | string (text : String)
  | array (items : List Value)
  | object (members : List (String × Value))

namespace Value

instance : Inhabited Value := ⟨.null⟩

/-- A whole number. -/
def int (n : Int) : Value := .number (.ofInt n)

/-- A natural number. -/
def nat (n : Nat) : Value := int n

/-- A list of values, each of them written by `write`. -/
def list {α : Type} (write : α → Value) (items : List α) : Value := .array (items.map write)

/-- A list of strings. -/
def strings (items : List String) : Value := list .string items

/-- Nothing is written as `null`. -/
def option {α : Type} (write : α → Value) : Option α → Value
  | none => .null
  | some a => write a

/-! ## Writing values -/

mutual

/-- The tokens of a value. -/
def tokens : Value → List Token
  | .null => [.null]
  | .bool b => [.bool b]
  | .number n => [.number n.numeral]
  | .string s => [.string (some s)]
  | .array items => .openArray :: itemTokens items ++ [.closeArray]
  | .object members => .openObject :: memberTokens members ++ [.closeObject]

/-- The tokens of the items of an array, separated by commas. -/
def itemTokens : List Value → List Token
  | [] => []
  | [item] => item.tokens
  | item :: items => item.tokens ++ .comma :: itemTokens items

/-- The tokens of the members of an object, separated by commas. -/
def memberTokens : List (String × Value) → List Token
  | [] => []
  | [(name, value)] => .string (some name) :: .colon :: value.tokens
  | (name, value) :: members =>
    .string (some name) :: .colon :: value.tokens ++ .comma :: memberTokens members

end

/-- The text of a value, without white space. -/
def render (value : Value) : String := .ofList (value.tokens.flatMap Token.chars)

end Value

/-! ## Keeping a tree as a value -/

/-- The members of an object with each name at its last place only. -/
def lastOfEach {α : Type} : List (String × α) → List (String × α)
  | [] => []
  | (name, a) :: rest =>
    if rest.any (·.1 = name) then lastOfEach rest else (name, a) :: lastOfEach rest

namespace Tree

mutual

/-- The value of a tree in which at most `depth` containers are nested.  All its
strings must have text and its numbers must be in range; of members with one name
the last is kept. -/
def keep? (depth : Nat) : Tree → Option Value
  | .null => some .null
  | .bool b => some (.bool b)
  | .number n =>
    let number := Number.ofNumeral n
    if number.inRange then some (.number number) else none
  | .string text => text.map .string
  | .array items =>
    match depth with
    | 0 => none
    | depth + 1 => (keepItems? depth items).map .array
  | .object members =>
    match depth with
    | 0 => none
    | depth + 1 => (keepMembers? depth members).map (.object <| lastOfEach ·)

/-- The values of the items of an array. -/
def keepItems? (depth : Nat) : List Tree → Option (List Value)
  | [] => some []
  | item :: items => do
    let value ← keep? depth item
    let values ← keepItems? depth items
    some (value :: values)

/-- The values of the members of an object, by name. -/
def keepMembers? (depth : Nat) : List (Text × Tree) → Option (List (String × Value))
  | [] => some []
  | (name, tree) :: members => do
    let name ← name
    let value ← keep? depth tree
    let values ← keepMembers? depth members
    some ((name, value) :: values)

end

end Tree

end KeyIndex.Json
