import KeyIndex.Json.Token

/-!
# Parse trees of JSON texts

The tokens of a text are put together by a machine whose state holds the
containers that are still open, innermost first, so that a text may be nested to
any depth.  The tree keeps everything the text says: numbers as they are written,
strings without text, repeated member names.  What a reader makes of it is its own
affair.

Main definitions:

- `Tree.step`: what one token does to the machine.
- `Tree.ofTokens?` and `Tree.parse?`: the tree of a list of tokens and of a text.
-/

namespace KeyIndex.Json

/-- What a JSON text says, before anything is made of its numbers and names. -/
inductive Tree where
  | null
  | bool (value : Bool)
  | number (numeral : Numeral)
  | string (text : Text)
  | array (items : List Tree)
  | object (members : List (Text × Tree))

namespace Tree

instance : Inhabited Tree := ⟨.null⟩

/-! ## The machine -/

/-- A container that is still open, with what it holds so far, last first.  In an
object a value for `name` is awaited. -/
inductive Frame where
  | array (items : List Tree)
  | object (members : List (Text × Tree)) (name : Text)

/-- What may come next, inside the open containers, innermost first. -/
inductive State where
  /-- A value. -/
  | value (frames : List Frame)
  /-- The first item of an array, or its end. -/
  | itemOrEnd (frames : List Frame)
  /-- A comma and a further item, or the end of the array. -/
  | commaOrEndArray (items : List Tree) (frames : List Frame)
  /-- The first member name of an object, or its end. -/
  | nameOrEnd (frames : List Frame)
  /-- A member name. -/
  | nextName (members : List (Text × Tree)) (frames : List Frame)
  /-- The colon after a member name. -/
  | colon (members : List (Text × Tree)) (name : Text) (frames : List Frame)
  /-- A comma and a further member, or the end of the object. -/
  | commaOrEndObject (members : List (Text × Tree)) (frames : List Frame)
  /-- Nothing: the text is complete. -/
  | complete (tree : Tree)

/-- A finished value goes to the innermost open container. -/
def State.give (tree : Tree) : List Frame → State
  | [] => .complete tree
  | .array items :: frames => .commaOrEndArray (tree :: items) frames
  | .object members name :: frames => .commaOrEndObject ((name, tree) :: members) frames

/-- The first token of a value. -/
def State.begin (frames : List Frame) : Token → Option State
  | .null => some (.give .null frames)
  | .bool b => some (.give (.bool b) frames)
  | .number n => some (.give (.number n) frames)
  | .string s => some (.give (.string s) frames)
  | .openArray => some (.itemOrEnd frames)
  | .openObject => some (.nameOrEnd frames)
  | _ => none

/-- What one token does. -/
def step : State → Token → Option State
  | .value frames, token => State.begin frames token
  | .itemOrEnd frames, .closeArray => some (.give (.array []) frames)
  | .itemOrEnd frames, token => State.begin (.array [] :: frames) token
  | .commaOrEndArray items frames, .comma => some (.value (.array items :: frames))
  | .commaOrEndArray items frames, .closeArray => some (.give (.array items.reverse) frames)
  | .nameOrEnd frames, .closeObject => some (.give (.object []) frames)
  | .nameOrEnd frames, .string name => some (.colon [] name frames)
  | .nextName members frames, .string name => some (.colon members name frames)
  | .colon members name frames, .colon => some (.value (.object members name :: frames))
  | .commaOrEndObject members frames, .comma => some (.nextName members frames)
  | .commaOrEndObject members frames, .closeObject =>
    some (.give (.object members.reverse) frames)
  | _, _ => none

/-- The tree of a list of tokens, `none` when they are not one value. -/
def ofTokens? (tokens : List Token) : Option Tree :=
  match tokens.foldlM step (.value []) with
  | some (.complete tree) => some tree
  | _ => none

/-- The tree of a text, `none` when it is not a JSON text. -/
def parse? (text : String) : Option Tree :=
  (Token.scan text.toList).bind ofTokens?

end Tree

end KeyIndex.Json
