import KeyIndex.Regex.Pattern.Bracket

/-!
# Reading patterns

A pattern is read by a machine that holds one frame for each open group, with what
was read before the group.  Each step reads one element; the machine does not
backtrack.

Main definitions:

- `Parser.step`: one element of a pattern.
- `Pattern.parse?`: the pattern of a text.
-/

namespace KeyIndex.Regex.Pattern

namespace Parser

/-- What was read around an open group, before it. -/
structure Frame where
  /-- The parts of the current branch, last first. -/
  parts : List Pattern
  /-- The branches before it, last first. -/
  branches : List Pattern
  /-- Whether the group captures. -/
  captures : Bool
  /-- The changes of flags inside the group. -/
  changes : FlagChanges
  /-- Whether verbose mode is on outside of the group. -/
  verbose : Bool

/-- What has been read so far. -/
structure State where
  /-- The open groups, innermost first. -/
  frames : List Frame
  /-- The parts of the current branch, last first. -/
  parts : List Pattern
  /-- The branches before it, last first. -/
  branches : List Pattern
  /-- Whether verbose mode is on. -/
  verbose : Bool
  /-- The names of the groups so far. -/
  names : List String

/-- Before anything has been read. -/
def State.initial : State := ⟨[], [], [], false, []⟩

/-- One more part. -/
def State.push (st : State) (part : Pattern) : State := { st with parts := part :: st.parts }

/-- The branches since the last open group, as one pattern. -/
def State.body (st : State) : Pattern :=
  .ofBranches (.ofParts st.parts.reverse :: st.branches).reverse

/-! ## Flags and names -/

/-- The flag of a letter. -/
def flag? : Char → Option Flag
  | 'i' => some .ignoreCase
  | 'm' => some .multiLine
  | 's' => some .dotAll
  | 'U' => some .swapGreed
  | 'u' => some .unicode
  | 'R' => some .crlf
  | 'x' => some .verbose
  | _ => none

/-- Letters of flags up to a colon or a closing parenthesis, which is left at the
front.  Flags after a hyphen are switched off.  No flag and no hyphen may come
twice, and a hyphen must not come last. -/
def flagChanges (off afterHyphen : Bool) (seen : FlagChanges) :
    List Char → Option (FlagChanges × List Char)
  | [] => none
  | c :: cs =>
    if c = ':' ∨ c = ')' then if afterHyphen then none else some (seen.reverse, c :: cs)
    else if c = '-' then if off then none else flagChanges true true seen cs
    else do
      let flag ← flag? c
      if seen.any (·.1 = flag) then none
      else flagChanges off false ((flag, !off) :: seen) cs

/-- Whether a character may stand in the name of a group. -/
def isNameChar (first : Bool) (c : Char) : Bool :=
  if first then c == '_' || Unicode.alphabetic.contains c
  else c == '_' || c == '.' || c == '[' || c == ']' || Unicode.alphanumeric.contains c

/-- The name of a group, up to the closing angle bracket. -/
def groupName (cs : List Char) : Option (String × List Char) :=
  match cs.span (· ≠ '>') with
  | (first :: name, _ :: rest) =>
    if isNameChar true first && name.all (isNameChar false) then
      some (.ofList (first :: name), rest)
    else none
  | _ => none

/-- What the changes of flags make of verbose mode. -/
def verboseAfter (changes : FlagChanges) (verbose : Bool) : Bool :=
  (changes.lookup .verbose).getD verbose

/-! ## Groups -/

/-- Opens a group. -/
def openGroup (st : State) (captures : Bool) (changes : FlagChanges) (names : List String) :
    State where
  frames := ⟨st.parts, st.branches, captures, changes, st.verbose⟩ :: st.frames
  parts := []
  branches := []
  verbose := verboseAfter changes st.verbose
  names := names

/-- Closes the innermost group. -/
def closeGroup (st : State) : Option State :=
  match st.frames with
  | [] => none
  | frame :: frames =>
    some ⟨frames, .group frame.captures frame.changes st.body :: frame.parts, frame.branches,
      frame.verbose, st.names⟩

/-- A group with a name that no other group has. -/
def namedGroup (st : State) (cs : List Char) : Option (State × List Char) := do
  let (name, rest) ← groupName cs
  if name ∈ st.names then none else some (openGroup st true [] (name :: st.names), rest)

/-- What follows an opening parenthesis: a group of some kind, or flags up to the
end of the group around. -/
def afterParenthesis (st : State) (cs : List Char) : Option (State × List Char) :=
  match skip st.verbose cs with
  | '?' :: '=' :: _ | '?' :: '!' :: _ | '?' :: '<' :: '=' :: _ | '?' :: '<' :: '!' :: _ => none
  | '?' :: 'P' :: '<' :: cs => namedGroup st cs
  | '?' :: '<' :: cs => namedGroup st cs
  | '?' :: cs => do
    match ← flagChanges false false [] cs with
    | (changes, ':' :: rest) => some (openGroup st false changes st.names, rest)
    | ([], _) => none
    | (changes, _ :: rest) =>
      some ({ st.push (.flags changes) with verbose := verboseAfter changes st.verbose }, rest)
    | (_, []) => none
  | cs => some (openGroup st true [] st.names, cs)

/-! ## Repetition -/

/-- Repeats the last part, which must not be a change of flags. -/
def repeatLast (st : State) (min : Nat) (max : Option Nat) : Option State :=
  match st.parts with
  | [] | .flags _ :: _ => none
  | part :: parts => some { st with parts := .times part min max :: parts }

/-- What follows an operator of repetition.  A question mark only says which of
several matches is preferred. -/
def dropLazy : List Char → List Char
  | '?' :: cs => cs
  | cs => cs

/-- The bounds of a repetition, after the opening brace. -/
def bounds (verbose : Bool) (cs : List Char) : Option ((Nat × Option Nat) × List Char) := do
  let (min, cs) ← decimal verbose (skip verbose cs)
  match cs with
  | '}' :: rest => some ((min, some min), skip verbose rest)
  | ',' :: cs =>
    match skip verbose cs with
    | '}' :: rest => some ((min, none), skip verbose rest)
    | cs => do
      let (max, cs) ← decimal verbose cs
      match cs with
      | '}' :: rest => if min ≤ max then some ((min, some max), skip verbose rest) else none
      | _ => none
  | _ => none

/-! ## Elements -/

/-- A part that is neither a group nor a class in brackets. -/
def primitive (verbose : Bool) : List Char → Option (Pattern × List Char)
  | [] => none
  | '\\' :: cs => do
    let (e, rest) ← escape verbose cs
    match e with
    | .literal l => some (.literal l, rest)
    | .assertion a => some (.assertion a, rest)
    | .short cls negated => some (.short cls negated, rest)
    | .property query negated => some (.property query negated, rest)
  | '.' :: cs => some (.dot, cs)
  | '^' :: cs => some (.assertion .lineStart, cs)
  | '$' :: cs => some (.assertion .lineStop, cs)
  | c :: cs => some (.literal ⟨c, false⟩, cs)

/-- Reads one element. -/
def step (st : State) : List Char → Option (State × List Char)
  | [] => none
  | '(' :: cs => afterParenthesis st cs
  | ')' :: cs => (closeGroup st).map (·, cs)
  | '|' :: cs =>
    some ({ st with parts := [], branches := .ofParts st.parts.reverse :: st.branches }, cs)
  | '[' :: cs => do
    let ((body, negated), rest) ← Bracket.parse st.verbose cs
    some (st.push (.bracket body negated), rest)
  | '?' :: cs => (repeatLast st 0 (some 1)).map (·, dropLazy cs)
  | '*' :: cs => (repeatLast st 0 none).map (·, dropLazy cs)
  | '+' :: cs => (repeatLast st 1 none).map (·, dropLazy cs)
  | '{' :: cs => do
    let ((min, max), rest) ← bounds st.verbose cs
    let st ← repeatLast st min max
    some (st, dropLazy rest)
  | cs => do
    let (part, rest) ← primitive st.verbose cs
    some (st.push part, rest)

/-- Reads elements to the end.  Each element is at least one character long. -/
def run (st : State) (cs : List Char) : Option State :=
  match skip st.verbose cs with
  | [] => some st
  | element =>
    match step st element with
    | none => none
    | some (st, rest) => if rest.length < cs.length then run st rest else none
termination_by cs.length

end Parser

/-- The greatest nesting depth of a pattern. -/
def maxDepth : Nat := 250

/-- The pattern of a text.  All its groups must be closed, and it must not be
nested too deep. -/
def parse? (text : List Char) : Option Pattern := do
  let st ← Parser.run .initial text
  if st.frames.isEmpty && st.body.depth ≤ maxDepth then some st.body else none

end KeyIndex.Regex.Pattern
