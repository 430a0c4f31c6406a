import KeyIndex.Table.Query

/-!
# Tables by their contents

A table that is given by what it holds: every answer is listed, or is a failure that
is listed in its place.

Main definitions:

- `Contents`: what a table holds.
- `Contents.table`: the table that holds it.
-/

namespace KeyIndex

/-- The schema of a table that is given without one: records with the key `id`. -/
def Schema.plain : Schema := ⟨.object [("type", .string "record")], ["id"]⟩

/-- What a table holds. -/
structure Contents where
  basePath : String := "memory://table"
  latest : Except Failure (Option Instant) := .ok none
  partitions : Except Failure (List String) := .ok []
  slices : List (String × Except Failure (List FileSlice)) := []
  schema : Except Failure Schema := .ok .plain
  baseFiles : List (String × Except Failure (List RecordKey)) := []
  logFiles : List (String × Except Failure (List LogBlock)) := []

/-- The table that holds the given contents.  A partition that is not listed has no
slices, and a file that is not listed cannot be decoded. -/
def Contents.table (contents : Contents) : Table where
  basePath := contents.basePath
  answer
    | .latestInstant => contents.latest
    | .schema => contents.schema
    | .partitions => contents.partitions
    | .slices partition _ => (contents.slices.lookup partition).getD (.ok [])
    | .baseKeys path =>
      (contents.baseFiles.lookup path).getD (.error (.decode ("missing base file " ++ path)))
    | .logBlocks path _ =>
      (contents.logFiles.lookup path).getD (.error (.decode ("missing log file " ++ path)))

end KeyIndex
