import KeyIndex.Regex.Basic

/-!
# Matching

A set of positions is a natural number, of which bit `i` says whether position `i`
is in the set.  An expression takes a set of positions to the set of all positions
at which a part described by it ends that starts at one of them.  All alternatives
are followed at once, so the work is bounded by a polynomial in the length of the
text for every expression.

Main definitions:

- `Positions.keep`: the positions of a set at which a test succeeds.
- `Regex.reach`: the positions that can be reached from a set of positions.
- `Regex.occurs`: whether some part of a text is described.
-/

namespace KeyIndex.Regex

/-- A set of positions, as the bits of a number. -/
abbrev Positions := Nat

/-- Of some positions, which are counted from `start` and below `size`, those at which
a test succeeds.  Each half is tested on its own, and an empty half is passed over, so
that the work is that of testing the positions there are. -/
def keepFrom (test : Nat → Bool) (start size : Nat) (ps : Positions) : Positions :=
  if ps = 0 then 0
  else if size ≤ 1 then if test start then ps else 0
  else
    let half := size / 2
    let low := ps &&& ((1 <<< half) - 1)
    keepFrom test start half low |||
      (keepFrom test (start + half) (size - half) (ps >>> half) <<< half)
termination_by size

/-- Of some positions below `size`, those at which a test succeeds. -/
def Positions.keep (size : Nat) (test : Nat → Bool) (ps : Positions) : Positions :=
  keepFrom test 0 size ps

/-- The positions of `ps` that are not in `qs`. -/
def Positions.without (ps qs : Positions) : Positions := ps ^^^ (ps &&& qs)

/-- Applies a step a number of times, as long as there are positions left. -/
def iterate (step : Positions → Positions) : Nat → Positions → Positions
  | 0, ps => ps
  | n + 1, ps => if ps = 0 then 0 else iterate step n (step ps)

/-- The positions that are reached from `fresh` by at most `n` steps, and those
already `reached`.  Only positions that were not reached before are followed. -/
def spread (step : Positions → Positions) : Nat → (fresh reached : Positions) → Positions
  | 0, _, reached => reached
  | n + 1, fresh, reached =>
    let next := (step fresh).without reached
    if next = 0 then reached else spread step n next (reached ||| next)

/-- The positions at which a part of a text ends that an expression describes and that
starts in `ps`.  A text has one position more than characters, so that more rounds than
it has characters reach nothing new. -/
def reach (text : Chars) : Regex → Positions → Positions
  | .empty, ps => ps
  | .one set, ps => ps.keep (text.size + 1) (fun i => text[i]?.any set.contains) <<< 1
  | .look assertion, ps => ps.keep (text.size + 1) (assertion.holds text)
  | .seq first second, ps => second.reach text (first.reach text ps)
  | .either left right, ps => left.reach text ps ||| right.reach text ps
  | .times body min max, ps =>
    let ps := iterate (body.reach text) min ps
    match max with
    | none => spread (body.reach text) (text.size + 1) ps ps
    | some max => if max < min then 0 else spread (body.reach text) (max - min) ps ps

/-- Whether some part of a text is described by an expression. -/
def occurs (r : Regex) (text : String) : Bool :=
  let chars := text.toList.toArray
  r.reach chars ((1 <<< (chars.size + 1)) - 1) != 0

end KeyIndex.Regex
