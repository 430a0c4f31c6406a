import KeyIndex.Regex.Pattern.Parser

/-!
# What patterns describe

A pattern stands for a regular expression that depends on the flags.  A change of
flags holds to the end of the group it stands in, across the branches that follow.

Without the Unicode flag, classes are made of ASCII characters.  An element that
could then match a part of a character has no meaning, and a pattern with such an
element is refused.

Main definitions:

- `Flags`: the flags that matter for it.
- `ClassSet.meaning?`, `Pattern.meaning?`: what is described under some flags, where
  properties are looked up in `properties`.
-/

namespace KeyIndex.Regex

open Unicode (CharSet Properties)

/-- The flags that matter for what a pattern describes. -/
structure Flags where
  ignoreCase : Bool
  multiLine : Bool
  dotAll : Bool
  unicode : Bool
  crlf : Bool

namespace Flags

/-- The flags at the start of a pattern. -/
def initial : Flags := ⟨false, false, false, true, false⟩

/-- The flags after one change.  Which matches are preferred, and how the pattern
is laid out, does not matter here. -/
def set (flags : Flags) : Flag × Bool → Flags
  | (.ignoreCase, on) => { flags with ignoreCase := on }
  | (.multiLine, on) => { flags with multiLine := on }
  | (.dotAll, on) => { flags with dotAll := on }
  | (.unicode, on) => { flags with unicode := on }
  | (.crlf, on) => { flags with crlf := on }
  | (.swapGreed, _) | (.verbose, _) => flags

/-- The flags after some changes. -/
def apply (flags : Flags) (changes : FlagChanges) : Flags := changes.foldl set flags

end Flags

/-! ## Classes -/

/-- The ASCII characters. -/
def ascii : CharSet := .ranges [(0, 0x7F)]

/-- The ASCII members of a class with a short escape. -/
def ShortClass.ascii : ShortClass → CharSet
  | digit => .ranges [(0x30, 0x39)]
  | space => .ranges [(0x09, 0x0D), (0x20, 0x20)]
  | word => .ranges [(0x30, 0x39), (0x41, 0x5A), (0x5F, 0x5F), (0x61, 0x7A)]

/-- All members of a class with a short escape. -/
def ShortClass.full : ShortClass → CharSet
  | digit => Unicode.digit
  | space => Unicode.white
  | word => Unicode.word

/-- The members of a class by name. -/
def NamedClass.members : NamedClass → CharSet
  | alnum => .ranges [(0x30, 0x39), (0x41, 0x5A), (0x61, 0x7A)]
  | alpha => .ranges [(0x41, 0x5A), (0x61, 0x7A)]
  | ascii => .ranges [(0x00, 0x7F)]
  | blank => .ranges [(0x09, 0x09), (0x20, 0x20)]
  | cntrl => .ranges [(0x00, 0x1F), (0x7F, 0x7F)]
  | digit => .ranges [(0x30, 0x39)]
  | graph => .ranges [(0x21, 0x7E)]
  | lower => .ranges [(0x61, 0x7A)]
  | print => .ranges [(0x20, 0x7E)]
  | punct => .ranges [(0x21, 0x2F), (0x3A, 0x40), (0x5B, 0x60), (0x7B, 0x7E)]
  | space => .ranges [(0x09, 0x0D), (0x20, 0x20)]
  | upper => .ranges [(0x41, 0x5A)]
  | word => .ranges [(0x30, 0x39), (0x41, 0x5A), (0x5F, 0x5F), (0x61, 0x7A)]
  | xdigit => .ranges [(0x30, 0x39), (0x41, 0x46), (0x61, 0x66)]

/-- The set of a property. -/
def PropertyQuery.members? (properties : Properties) : PropertyQuery → Option CharSet
  | name n => properties.named? n
  | value n v different =>
    (properties.valued? n v).map fun set => if different then .compl set else set

/-- The members of a set and all their case variants, if case is ignored.  Without
the Unicode flag only ASCII letters have variants. -/
def foldCase (flags : Flags) (set : CharSet) : CharSet :=
  if !flags.ignoreCase then set
  else if flags.unicode then .anyCase set
  else .inter ascii (.anyCase (.inter ascii set))

/-- The complement of a set, if so asked.  Without the Unicode flag a complement
has members that are no characters, and there is none. -/
def negate? (flags : Flags) (negated : Bool) (set : CharSet) : Option CharSet :=
  if !negated then some set
  else if flags.unicode then some (.compl set)
  else none

/-- A literal of a class.  Without the Unicode flag it must be in ASCII. -/
def Literal.member? (flags : Flags) (l : Literal) : Option Char :=
  if flags.unicode || l.char.toNat < 0x80 then some l.char else none

/-- The set of a short escape. -/
def ShortClass.meaning? (flags : Flags) (cls : ShortClass) (negated : Bool) : Option CharSet :=
  negate? flags negated (if flags.unicode then cls.full else cls.ascii)

/-- The set of a property escape. -/
def PropertyQuery.meaning? (properties : Properties) (flags : Flags) (query : PropertyQuery)
    (negated : Bool) : Option CharSet := do
  if flags.unicode then negate? flags negated (foldCase flags (← query.members? properties))
  else none

/-- The set that an operator makes of two sets. -/
def SetOp.apply : SetOp → CharSet → CharSet → CharSet
  | inter, a, b => .inter a b
  | diff, a, b => a.diff b
  | symmDiff, a, b => a.symmDiff b

namespace ClassSet

mutual

/-- The set of what stands between brackets. -/
def meaning? (properties : Properties) (flags : Flags) : ClassSet → Option CharSet
  | .literal l => (l.member? flags).map .single
  | .range first last => do
    let first ← first.member? flags
    let last ← last.member? flags
    some (.range first last)
  | .named cls negated => negate? flags negated (foldCase flags cls.members)
  | .short cls negated => cls.meaning? flags negated
  | .property query negated => query.meaning? properties flags negated
  | .bracket body negated => do
    negate? flags negated (foldCase flags (← body.meaning? properties flags))
  | .union items => meanings? properties flags items
  | .binary op left right => do
    let left ← left.meaning? properties flags
    let right ← right.meaning? properties flags
    some (op.apply (foldCase flags left) (foldCase flags right))

/-- The set of some items side by side. -/
def meanings? (properties : Properties) (flags : Flags) : List ClassSet → Option CharSet
  | [] => some .empty
  | item :: items => do
    let set ← item.meaning? properties flags
    let sets ← meanings? properties flags items
    some (.union set sets)

end

end ClassSet

/-! ## Elements -/

/-- What a literal describes.  Without the Unicode flag a character beyond ASCII
has no case variants, and an escape of two digits beyond ASCII is no character. -/
def Literal.meaning? (flags : Flags) (l : Literal) : Option Regex :=
  if flags.unicode then some (.one (foldCase flags (.single l.char)))
  else if l.char.toNat < 0x80 then some (.one (foldCase flags (.single l.char)))
  else if l.byte then none
  else some (.one (.single l.char))

/-- What a dot describes.  Without the Unicode flag it would describe a part of a
character. -/
def dotMeaning? (flags : Flags) : Option Regex :=
  if !flags.unicode then none
  else if flags.dotAll then some (.one .all)
  else if flags.crlf then some (.one (.compl (.ranges [(0x0A, 0x0A), (0x0D, 0x0D)])))
  else some (.one (.compl (.single '\n')))

/-- What the characters of words are. -/
def wordSet (flags : Flags) : CharSet :=
  if flags.unicode then ShortClass.word.full else ShortClass.word.ascii

/-- What an assertion describes. -/
def Assertion.meaning (flags : Flags) : Assertion → Look
  | lineStart =>
    if !flags.multiLine then .start else if flags.crlf then .lineStartCR else .lineStart
  | lineStop =>
    if !flags.multiLine then .stop else if flags.crlf then .lineStopCR else .lineStop
  | textStart => .start
  | textStop => .stop
  | boundary => .boundary (wordSet flags)
  | noBoundary => .noBoundary (wordSet flags)
  | wordStart => .wordStart (wordSet flags)
  | wordStop => .wordStop (wordSet flags)
  | wordStartHalf => .noWordBefore (wordSet flags)
  | wordStopHalf => .noWordAfter (wordSet flags)

namespace Pattern

mutual

/-- What a pattern describes, and the flags after it. -/
def meaning? (properties : Properties) (flags : Flags) : Pattern → Option (Regex × Flags)
  | .empty => some (.empty, flags)
  | .literal l => (l.meaning? flags).map (·, flags)
  | .dot => (dotMeaning? flags).map (·, flags)
  | .assertion a => some (.look (a.meaning flags), flags)
  | .short cls negated => (cls.meaning? flags negated).map (.one ·, flags)
  | .property query negated =>
    (query.meaning? properties flags negated).map (.one ·, flags)
  | .bracket body negated => do
    let set ← negate? flags negated (foldCase flags (← body.meaning? properties flags))
    some (.one set, flags)
  | .flags changes => some (.empty, flags.apply changes)
  | .group _ changes body => do
    let (r, _) ← body.meaning? properties (flags.apply changes)
    some (r, flags)
  | .times body min max => do
    let (r, flags) ← body.meaning? properties flags
    some (r.repeated min max, flags)
  | .concat parts => do
    let (rs, flags) ← meanings? properties flags parts
    some (sequence rs, flags)
  | .alternate branches => do
    let (rs, flags) ← meanings? properties flags branches
    some (choice rs, flags)

/-- What some patterns describe, read one after another, and the flags after them. -/
def meanings? (properties : Properties) (flags : Flags) :
    List Pattern → Option (List Regex × Flags)
  | [] => some ([], flags)
  | p :: ps => do
    let (r, flags) ← p.meaning? properties flags
    let (rs, flags) ← meanings? properties flags ps
    some (r :: rs, flags)

end

end Pattern

end KeyIndex.Regex
