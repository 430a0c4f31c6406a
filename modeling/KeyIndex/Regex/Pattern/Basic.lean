import KeyIndex.Regex.Basic

/-!
# Patterns: regular expressions as they are written

A pattern keeps what is written: escapes that name a class, flags, groups.  What it
describes depends on the flags in force where each of its parts stands.

Main definitions:

- `Pattern`, and `ClassSet` for what stands between brackets.
- `Pattern.depth`: how deep a pattern is nested.
-/

namespace KeyIndex.Regex

/-- A character of a pattern.  A `byte` is written as an escape with exactly two
hexadecimal digits. -/
structure Literal where
  char : Char
  byte : Bool
deriving DecidableEq

/-- The classes with an escape of one letter. -/
inductive ShortClass where
  | digit
  | space
  | word
deriving DecidableEq

/-- The classes of ASCII characters with a name between colons. -/
inductive NamedClass where
  | alnum | alpha | ascii | blank | cntrl | digit | graph | lower | print | punct | space
  | upper | word | xdigit
deriving DecidableEq

/-- How a property of characters is named. -/
inductive PropertyQuery where
  /-- A yes-or-no property, a category or a script. -/
  | name (name : String)
  /-- A property with a value; with a `different` value, if so written. -/
  | value (name value : String) (different : Bool)
deriving DecidableEq

/-- The operations between the sets of a bracketed class. -/
inductive SetOp where
  | inter
  | diff
  | symmDiff
deriving DecidableEq

/-- What stands between the brackets of a class. -/
inductive ClassSet where
  | literal (l : Literal)
  | range (first last : Literal)
  | named (cls : NamedClass) (negated : Bool)
  | short (cls : ShortClass) (negated : Bool)
  | property (query : PropertyQuery) (negated : Bool)
  | bracket (body : ClassSet) (negated : Bool)
  /-- Any number of items side by side, but not one. -/
  | union (items : List ClassSet)
  | binary (op : SetOp) (left right : ClassSet)

/-- An assertion as it is written. -/
inductive Assertion where
  | lineStart
  | lineStop
  | textStart
  | textStop
  | boundary
  | noBoundary
  | wordStart
  | wordStop
  | wordStartHalf
  | wordStopHalf
deriving DecidableEq

/-- The flags of a pattern. -/
inductive Flag where
  | ignoreCase
  | multiLine
  | dotAll
  | swapGreed
  | unicode
  | crlf
  | verbose
deriving DecidableEq

/-- Flags that are switched on or off. -/
abbrev FlagChanges := List (Flag × Bool)

/-- A pattern. -/
inductive Pattern where
  | empty
  | literal (l : Literal)
  /-- Any character, except what ends a line. -/
  | dot
  | assertion (a : Assertion)
  | short (cls : ShortClass) (negated : Bool)
  | property (query : PropertyQuery) (negated : Bool)
  | bracket (body : ClassSet) (negated : Bool)
  /-- Changes the flags up to the end of the group around. -/
  | flags (changes : FlagChanges)
  /-- A group, with changes of flags inside.  If it captures, what it describes can be
  told apart in a match. -/
  | group (captures : Bool) (changes : FlagChanges) (body : Pattern)
  /-- Repetition, at least `min` times and at most `max` times if there is a bound. -/
  | times (body : Pattern) (min : Nat) (max : Option Nat)
  /-- Patterns one after another: at least two. -/
  | concat (parts : List Pattern)
  /-- Patterns of which one is chosen: at least two. -/
  | alternate (branches : List Pattern)

/-! ## Nesting -/

namespace ClassSet

/-- One item by itself, or several side by side. -/
def ofItems : List ClassSet → ClassSet
  | [item] => item
  | items => .union items

mutual

/-- The nesting depth of what stands between brackets. -/
def depth : ClassSet → Nat
  | .literal _ | .range _ _ | .named _ _ | .short _ _ | .property _ _ => 0
  | .bracket body _ => body.depth + 1
  | .union [] => 0
  | .union (item :: items) => max item.depth (depths items) + 1
  | .binary _ left right => max left.depth right.depth + 1

/-- The greatest depth of some items. -/
def depths : List ClassSet → Nat
  | [] => 0
  | item :: items => max item.depth (depths items)

end

end ClassSet

namespace Pattern

instance : Inhabited Pattern := ⟨.empty⟩

/-- Parts one after another; one part is itself. -/
def ofParts : List Pattern → Pattern
  | [] => .empty
  | [part] => part
  | parts => .concat parts

/-- Branches to choose from; one branch is itself. -/
def ofBranches : List Pattern → Pattern
  | [branch] => branch
  | branches => .alternate branches

mutual

/-- The nesting depth: each group, repetition, class, concatenation and choice is
one deeper than the deepest of its parts. -/
def depth : Pattern → Nat
  | .empty | .literal _ | .dot | .assertion _ | .short _ _ | .property _ _ | .flags _ => 0
  | .bracket body _ => body.depth + 1
  | .group _ _ body => body.depth + 1
  | .times body _ _ => body.depth + 1
  | .concat parts => depths parts + 1
  | .alternate branches => depths branches + 1

/-- The greatest depth of some patterns. -/
def depths : List Pattern → Nat
  | [] => 0
  | p :: ps => max p.depth (depths ps)

end

end Pattern

end KeyIndex.Regex
