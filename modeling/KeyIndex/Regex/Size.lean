import KeyIndex.Regex.Pattern.Meaning

/-!
# An estimate of sizes

How large an automaton for a pattern gets depends on how it is built.  What is here is
an estimate, for want of the automaton itself: a text is read from its end, byte by
byte, and repetitions are unrolled.  A state counts 32 bytes, and each way out of a
state some more.

Main definitions:

- `setSize`: the size of the automaton of a set of characters.
- `Regex.size`: the size of the automaton of an expression.
- `Pattern.estimate`: the size of the automaton of a pattern, with its groups.
-/

namespace KeyIndex.Regex

open Unicode (CharSet Properties)

/-- The bytes of a code point in UTF-8. -/
def utf8Length (code : Nat) : Nat :=
  if code < 0x80 then 1 else if code < 0x800 then 2 else if code < 0x10000 then 3 else 4

/-- The size of what reads the code points of one run.  A run across lengths of
encodings is read in several parts. -/
def runSize (start stop : Nat) : Nat :=
  let last := stop - 1
  62 + 270 * (utf8Length last - utf8Length start)

/-- The size of the automaton of a set of characters: a chain of states for the bytes
of a single character, one state for ranges in ASCII, and a state or more for each
other run. -/
def setSize (set : CharSet) : Nat :=
  match set.runs with
  | [] => 32
  | [(start, stop)] =>
    if stop = start + 1 then 32 * utf8Length start
    else if stop ≤ 0x80 then 72
    else 70 + runSize start stop
  | runs =>
    if runs.all fun (_, stop) => stop ≤ 0x80 then 64 + 8 * runs.length
    else runs.foldl (fun sum (start, stop) => sum + runSize start stop) 70

/-- The size of the automaton of an expression. -/
def size : Regex → Nat
  | empty => 32
  | one set => setSize set
  | look _ => 32
  | seq first second => first.size + second.size
  | either left right => left.size + right.size + 40
  | times body min max =>
    match max with
    | none => body.size * (if min = 0 then 1 else min) + 40
    | some max => body.size * max + 40 * (max - min)

namespace Pattern

mutual

/-- The pattern with a mark at both ends of each group that captures.  The automaton has
a state of its own there, which counts as much as that of an assertion. -/
def marked : Pattern → Pattern
  | .group true changes body =>
    .group true changes (.concat [.assertion .textStart, body.marked, .assertion .textStop])
  | .group false changes body => .group false changes body.marked
  | .times body min max => .times body.marked min max
  | .concat parts => .concat (allMarked parts)
  | .alternate branches => .alternate (allMarked branches)
  | p => p

/-- Some patterns, each with its marks. -/
def allMarked : List Pattern → List Pattern
  | [] => []
  | p :: ps => p.marked :: allMarked ps

end

/-- The size of the automaton of a pattern.  A pattern that describes nothing has no
automaton. -/
def estimate (properties : Properties) (p : Pattern) : Nat :=
  match p.marked.meaning? properties .initial with
  | some (r, _) => r.size
  | none => 0

end Pattern

end KeyIndex.Regex
