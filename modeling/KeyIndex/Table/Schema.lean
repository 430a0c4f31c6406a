import KeyIndex.Json.Record

/-!
# Schemas

The schema of a table: a definition that is kept as it stands, and the fields that
make up the key of a record.

Main definitions:

- `Schema`: the schema.
- `Schema.depth`: how deep a definition may be nested.
-/

namespace KeyIndex

open Json

/-- The schema of a table. -/
structure Schema where
  definition : Value
  keyFields : List String

namespace Schema

instance : Inhabited Schema := ⟨⟨.null, []⟩⟩

/-- The containers that may be nested in a definition.  A text may hold 127 of them
one in another, and the schema itself is one. -/
def depth : Nat := 126

end Schema

/-! ## JSON form -/

instance : Form Schema where
  toValue schema := .object [
    ("definition", schema.definition),
    ("record_key_fields", toValue schema.keyFields)]
  ofTree? tree := do
    let names := ["definition", "record_key_fields"]
    let fields ← tree.fields? names
    let definition ← fields.get? "definition"
    some {
      definition := ← definition.keep? Schema.depth
      keyFields := ← fields.need "record_key_fields" }

end KeyIndex
