import KeyIndex.Table.Live

/-!
# The keys of a slice

The keys that are alive in a slice are those of its base file and those that its log
files put, without the keys whose last operation in the logs deletes them.

Main definitions:

- `readLogs`, `LogView.read`: the blocks of some log files, and their replay.
- `aliveKeys`: keys of a base file and the replay of the logs put together.
- `FileSlice.keys`: the keys of a slice.
-/

namespace KeyIndex

/-- The blocks of some log files, one file after another.  A failure names all the
files in `all`. -/
def readLogs (all : List String) (schema : Schema) : List String → Reading (List LogBlock)
  | [] => return []
  | path :: paths => do
    let blocks : List LogBlock ← Reading.query (.logBlocks path schema) (.logFiles all)
    return blocks ++ (← readLogs all schema paths)

/-- The replay of the log files at the given paths, oldest first. -/
def LogView.read (paths : List String) (schema : Schema) (asOf : Instant) : Reading LogView :=
  return .ofBlocks asOf (← readLogs paths schema paths)

/-- The keys of the base file that the logs do not delete, in the order of the file,
and then those that the logs put, each key once. -/
def aliveKeys (base : List RecordKey) (view : LogView) (partition : String) : List RecordKey :=
  let kept := base.filter fun key => !view.deletes key.key
  let put := view.upserted.map fun key => RecordKey.mk key partition
  (kept ++ put).eraseDups

namespace FileSlice

/-- The keys of the base file of a slice; none if it has no base file that holds
something. -/
def baseKeys (slice : FileSlice) : Reading (List RecordKey) :=
  match slice.completeBase? with
  | none => pure []
  | some file => Reading.query (.baseKeys file.path) (.baseFile file.path)

/-- The keys that are alive in a slice as of an instant, each of them once. -/
def keys (slice : FileSlice) (schema : Schema) (asOf : Instant) :
    Reading (List RecordKey) := do
  let base ← slice.baseKeys
  let paths := slice.completeLogs.map (·.path)
  if paths.isEmpty then
    return base.eraseDups
  else
    let view ← LogView.read paths schema asOf
    return aliveKeys base view slice.partition

end FileSlice

end KeyIndex
