import KeyIndex.Regex.Pattern.Lexis

/-!
# Bracketed classes

What stands between brackets is read by a machine that holds one level for each
open bracket.  A level has the items read so far and, after an operator, the
operation with its left operand.  Operators bind to the left and more loosely than
items side by side.

Main definitions:

- `Bracket.parse`: the class that starts after an opening bracket.
-/

namespace KeyIndex.Regex.Pattern.Bracket

/-- What has been read since a bracket was opened. -/
structure Level where
  /-- The items since the bracket or the last operator, last first. -/
  items : List ClassSet
  /-- The last operator, with everything before it. -/
  pending : Option (SetOp × ClassSet)
  /-- Whether the class is negated. -/
  negated : Bool

namespace Level

/-- Everything read at a level. -/
def body (level : Level) : ClassSet :=
  let items := ClassSet.ofItems level.items.reverse
  match level.pending with
  | none => items
  | some (op, left) => .binary op left items

/-- One more item. -/
def push (level : Level) (item : ClassSet) : Level := { level with items := item :: level.items }

/-- An operator: what was read so far is its left operand. -/
def operate (level : Level) (op : SetOp) : Level :=
  { level with items := [], pending := some (op, level.body) }

end Level

/-- The level that an opening bracket starts.  A caret negates the class; hyphens
that come first stand for themselves, and so does a closing bracket that comes
first. -/
def openLevel (verbose : Bool) (cs : List Char) : Option (Level × List Char) := do
  let (negated, cs) := match skip verbose cs with
    | '^' :: cs => (true, skip verbose cs)
    | cs => (false, cs)
  match collect verbose (· == '-') false cs with
  | ([], ']' :: cs) =>
    match skip verbose cs with
    | [] => none
    | cs => some (⟨[.literal ⟨']', false⟩], none, negated⟩, cs)
  | (_, []) => none
  | (hyphens, cs) => some (⟨hyphens.map fun c => .literal ⟨c, false⟩, none, negated⟩, cs)

/-- The class of a name between colons. -/
def namedClass? : String → Option NamedClass
  | "alnum" => some .alnum
  | "alpha" => some .alpha
  | "ascii" => some .ascii
  | "blank" => some .blank
  | "cntrl" => some .cntrl
  | "digit" => some .digit
  | "graph" => some .graph
  | "lower" => some .lower
  | "print" => some .print
  | "punct" => some .punct
  | "space" => some .space
  | "upper" => some .upper
  | "word" => some .word
  | "xdigit" => some .xdigit
  | _ => none

/-- A class by name: colons inside a pair of brackets, of which the opening one has
been read.  Anything else is no such class. -/
def named? : List Char → Option (ClassSet × List Char)
  | ':' :: cs =>
    let (negated, cs) := match cs with
      | '^' :: cs => (true, cs)
      | cs => (false, cs)
    match cs.span (· ≠ ':') with
    | (name, ':' :: ']' :: rest) => (namedClass? (.ofList name)).map fun c => (.named c negated, rest)
    | _ => none
  | _ => none

/-- One item: an escape or a character. -/
def item (verbose : Bool) : List Char → Option (ClassSet × List Char)
  | [] => none
  | '\\' :: cs => do
    let (e, rest) ← escape verbose cs
    match e with
    | .literal l => some (.literal l, rest)
    | .short cls negated => some (.short cls negated, rest)
    | .property query negated => some (.property query negated, rest)
    | .assertion _ => none
  | c :: cs => some (.literal ⟨c, false⟩, cs)

/-- One item or a range.  A hyphen makes no range before a closing bracket or
another hyphen. -/
def itemOrRange (verbose : Bool) (cs : List Char) : Option (ClassSet × List Char) := do
  let (first, cs) ← item verbose cs
  match skip verbose cs with
  | [] => none
  | '-' :: cs =>
    let next := peekAfter verbose ('-' :: cs)
    if next = some ']' ∨ next = some '-' then some (first, '-' :: cs)
    else do
      let (last, cs) ← item verbose (skip verbose cs)
      match first, last with
      | .literal a, .literal b => if a.char ≤ b.char then some (.range a b, cs) else none
      | _, _ => none
  | cs => some (first, cs)

/-- Either a class that is complete, or the levels that are open, innermost first. -/
inductive Progress where
  | complete (body : ClassSet) (negated : Bool)
  | reading (level : Level) (outer : List Level)

/-- A closing bracket: the innermost level becomes an item of the one around it. -/
def close (level : Level) : List Level → Progress
  | [] => .complete level.body level.negated
  | around :: outer => .reading (around.push (.bracket level.body level.negated)) outer

/-- Reads one element. -/
def step (verbose : Bool) (level : Level) (outer : List Level) :
    List Char → Option (Progress × List Char)
  | [] => none
  | '[' :: cs =>
    match named? cs with
    | some (cls, rest) => some (.reading (level.push cls) outer, rest)
    | none => do
      let (inner, rest) ← openLevel verbose cs
      some (.reading inner (level :: outer), rest)
  | ']' :: cs => some (close level outer, cs)
  | '&' :: '&' :: cs => some (.reading (level.operate .inter) outer, cs)
  | '-' :: '-' :: cs => some (.reading (level.operate .diff) outer, cs)
  | '~' :: '~' :: cs => some (.reading (level.operate .symmDiff) outer, cs)
  | cs => do
    let (set, rest) ← itemOrRange verbose cs
    some (.reading (level.push set) outer, rest)

/-- Reads elements until the class is complete.  Each element is at least one
character long. -/
def run (verbose : Bool) (level : Level) (outer : List Level) (cs : List Char) :
    Option ((ClassSet × Bool) × List Char) :=
  match step verbose level outer (skip verbose cs) with
  | none => none
  | some (.complete body negated, rest) => some ((body, negated), rest)
  | some (.reading level outer, rest) =>
    if rest.length < cs.length then run verbose level outer rest else none
termination_by cs.length

/-- The class that starts after an opening bracket, and whether it is negated. -/
def parse (verbose : Bool) (cs : List Char) : Option ((ClassSet × Bool) × List Char) := do
  let (level, rest) ← openLevel verbose cs
  run verbose level [] rest

end KeyIndex.Regex.Pattern.Bracket
