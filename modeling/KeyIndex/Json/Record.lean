import KeyIndex.Json.Value

/-!
# Records in JSON

How the members of a record are found in a tree, and how its scalars are read.
A record is an object that has its fields as members, in any order and among
members of other names, or an array that has its fields as items, in the order of
their declaration.  A field must not be given twice.  Members of other names are
passed over, whatever their values are, but their names must have text.

A type that has a JSON form says how it is written and what is read as it.

Main definitions:

- `Tree.fields?`: the fields that a tree gives of a record.
- `Tree.exactFields?`: the same for a record that admits no other members.
- `Form`: types with a JSON form; `read?` and `write` go from and to texts.
-/

namespace KeyIndex.Json

/-- A type whose values have a JSON form. -/
class Form (α : Type) where
  /-- The value that stands for `a`. -/
  toValue : α → Value
  /-- What a tree stands for, if anything. -/
  ofTree? : Tree → Option α

export Form (toValue ofTree?)

/-- Reads a text as a value of type `α`. -/
def read? (α : Type) [Form α] (text : String) : Option α := (Tree.parse? text).bind ofTree?

/-- The text of a value of type `α`. -/
def write {α : Type} [Form α] (a : α) : String := (toValue a).render

/-! ## Scalars, lists, options -/

namespace Tree

/-- The text of a string. -/
def string? : Tree → Option String
  | .string text => text
  | _ => none

/-- A whole number that is written without sign, point and exponent. -/
def nat? : Tree → Option Nat
  | .number n =>
    if !n.negative && n.fraction.isEmpty && n.exponent.isNone then some (digitsValue n.whole)
    else none
  | _ => none

/-- A natural number below a bound. -/
def natBelow? (bound : Nat) (tree : Tree) : Option Nat :=
  tree.nat?.filter (· < bound)

/-- The items of an array. -/
def list? {α : Type} (item? : Tree → Option α) : Tree → Option (List α)
  | .array items => items.mapM item?
  | _ => none

/-- Nothing for `null`, otherwise something. -/
def option? {α : Type} (some? : Tree → Option α) : Tree → Option (Option α)
  | .null => some none
  | tree => (some? tree).map some

end Tree

instance : Form String := ⟨.string, Tree.string?⟩

instance : Form UInt32 :=
  ⟨fun n => .nat n.toNat, fun t => (t.natBelow? UInt32.size).map UInt32.ofNat⟩

instance : Form UInt64 :=
  ⟨fun n => .nat n.toNat, fun t => (t.natBelow? UInt64.size).map UInt64.ofNat⟩

instance {α : Type} [Form α] : Form (List α) := ⟨.list toValue, Tree.list? ofTree?⟩

instance {α : Type} [Form α] : Form (Option α) := ⟨.option toValue, Tree.option? ofTree?⟩

/-! ## Records -/

/-- The fields of a record that a tree gives, each at most once. -/
abbrev Fields := List (String × Tree)

/-- All members of an object, if their names have text. -/
def namedMembers? (members : List (Text × Tree)) : Option Fields :=
  members.mapM fun (name, tree) => name.map (·, tree)

namespace Tree

/-- The fields of a record with the given field names. -/
def fields? (names : List String) : Tree → Option Fields
  | .object members => do
    let named ← namedMembers? members
    let fields := named.filter (names.contains ·.1)
    if (fields.map (·.1)).Nodup then some fields else none
  | .array items => if items.length ≤ names.length then some (names.zip items) else none
  | _ => none

/-- The fields of a record that admits no other members and of which all fields
must be given. -/
def exactFields? (names : List String) : Tree → Option Fields
  | .object members => do
    let fields ← namedMembers? members
    if (fields.map (·.1)).Perm names then some fields else none
  | .array items => if items.length = names.length then some (names.zip items) else none
  | _ => none

end Tree

namespace Fields

/-- The tree of a field. -/
def get? (fields : Fields) (name : String) : Option Tree := List.lookup name fields

/-- A field that must be given. -/
def need {α : Type} [Form α] (fields : Fields) (name : String) : Option α :=
  (fields.get? name).bind ofTree?

/-- A field that has a default. -/
def get {α : Type} [Form α] (fields : Fields) (name : String) (default : α) : Option α :=
  match fields.get? name with
  | none => some default
  | some tree => ofTree? tree

end Fields

end KeyIndex.Json
