import KeyIndex.Unicode.Property

/-!
# Regular expressions

A regular expression describes parts of a text: a part runs from one position to
another, and a position is the number of characters before it.  Assertions describe
empty parts by what stands around them.

Main definitions:

- `Regex`: expressions; `Look`: assertions.
- `Regex.Spans`: which parts of a text an expression describes.
- `Regex.Occurs`: some part of the text is described.
-/

namespace KeyIndex

open Unicode (CharSet)

namespace Regex

/-- An assertion on a position. -/
inductive Look where
  /-- The start of the text. -/
  | start
  /-- The end of the text. -/
  | stop
  /-- The start of a line, where lines end with a line feed. -/
  | lineStart
  /-- The end of a line, where lines end with a line feed. -/
  | lineStop
  /-- The start of a line, where lines end with a carriage return, a line feed, or
  both in this order. -/
  | lineStartCR
  /-- The end of such a line. -/
  | lineStopCR
  /-- A word starts or ends here. -/
  | boundary (word : CharSet)
  /-- No word starts or ends here. -/
  | noBoundary (word : CharSet)
  /-- A word starts here. -/
  | wordStart (word : CharSet)
  /-- A word ends here. -/
  | wordStop (word : CharSet)
  /-- What comes before is not part of a word. -/
  | noWordBefore (word : CharSet)
  /-- What comes after is not part of a word. -/
  | noWordAfter (word : CharSet)

/-- The character before a position. -/
def before? (text : Array Char) (i : Nat) : Option Char := if i = 0 then none else text[i - 1]?

/-- Whether the character before a position is in a set. -/
def isBefore (text : Array Char) (i : Nat) (set : CharSet) : Bool :=
  (before? text i).any set.contains

/-- Whether the character after a position is in a set. -/
def isAfter (text : Array Char) (i : Nat) (set : CharSet) : Bool :=
  text[i]?.any set.contains

/-- Whether an assertion is true at a position. -/
def Look.holds (text : Array Char) (i : Nat) : Look → Bool
  | start => i == 0
  | stop => i == text.size
  | lineStart => i == 0 || before? text i == some '\n'
  | lineStop => i == text.size || text[i]? == some '\n'
  | lineStartCR =>
    i == 0 || before? text i == some '\n'
      || before? text i == some '\r' && text[i]? != some '\n'
  | lineStopCR =>
    i == text.size || text[i]? == some '\r'
      || text[i]? == some '\n' && before? text i != some '\r'
  | boundary word => isBefore text i word != isAfter text i word
  | noBoundary word => isBefore text i word == isAfter text i word
  | wordStart word => !isBefore text i word && isAfter text i word
  | wordStop word => isBefore text i word && !isAfter text i word
  | noWordBefore word => !isBefore text i word
  | noWordAfter word => !isAfter text i word

end Regex

/-- A regular expression. -/
inductive Regex where
  /-- The empty part. -/
  | empty
  /-- One character of a set. -/
  | one (set : CharSet)
  /-- The empty part, where an assertion is true. -/
  | look (assertion : Regex.Look)
  /-- One part after another. -/
  | seq (first second : Regex)
  /-- One or the other. -/
  | either (left right : Regex)
  /-- A number of parts, one after another: at least `min`, and at most `max` if
  there is a bound. -/
  | times (body : Regex) (min : Nat) (max : Option Nat)

namespace Regex

instance : Inhabited Regex := ⟨.empty⟩

/-- A text as the characters at its positions. -/
abbrev Chars := Array Char

/-- `Repeats R n i j`: there are `n` steps of `R`, one after another, from `i` to `j`. -/
inductive Repeats (R : Nat → Nat → Prop) : Nat → Nat → Nat → Prop where
  | zero (i : Nat) : Repeats R 0 i i
  | succ {n i j k : Nat} : R i j → Repeats R n j k → Repeats R (n + 1) i k

/-- `Spans text r i j`: the part of `text` from position `i` to position `j` is
described by `r`. -/
def Spans (text : Chars) : Regex → Nat → Nat → Prop
  | empty, i, j => j = i
  | one set, i, j => j = i + 1 ∧ ∃ c, text[i]? = some c ∧ set.contains c = true
  | look assertion, i, j => j = i ∧ assertion.holds text i = true
  | seq first second, i, j => ∃ k, first.Spans text i k ∧ second.Spans text k j
  | either left right, i, j => left.Spans text i j ∨ right.Spans text i j
  | times body min max, i, j =>
    ∃ n, min ≤ n ∧ (∀ m, max = some m → n ≤ m) ∧ Repeats (body.Spans text) n i j

/-- Some part of a text is described by an expression. -/
def Occurs (r : Regex) (text : Chars) : Prop :=
  ∃ i j, i ≤ text.size ∧ r.Spans text i j

/-- A whole text is described by an expression. -/
def Covers (r : Regex) (text : Chars) : Prop := r.Spans text 0 text.size

/-- Expressions one after another. -/
def sequence (rs : List Regex) : Regex := rs.foldr .seq .empty

/-- Any of some expressions; of none, the one that describes nothing. -/
def choice : List Regex → Regex
  | [] => .one .empty
  | [r] => r
  | r :: rs => .either r (choice rs)

/-- Whether an expression describes empty parts only. -/
def isEmptyOnly : Regex → Bool
  | empty => true
  | one _ => false
  | look _ => true
  | seq first second => first.isEmptyOnly && second.isEmptyOnly
  | either left right => left.isEmptyOnly && right.isEmptyOnly
  | times body _ max => body.isEmptyOnly || max == some 0

/-- Repetition.  Of an expression that describes empty parts only, many repetitions
describe nothing else than one. -/
def repeated (body : Regex) (min : Nat) (max : Option Nat) : Regex :=
  if body.isEmptyOnly then .times body (Nat.min min 1) (some (Nat.min (max.getD 1) 1))
  else .times body min max

end Regex

end KeyIndex
