import KeyIndex.Table.Query

/-!
# Live slices

A writer that crashed leaves files of size zero, which hold nothing.  The live part
of a slice is the slice without them, with its log files in the order in which they
were written; a slice with nothing left is not live.

Main definitions:

- `FileSlice.live?`: the live part of a slice.
- `liveSlices`: the live slices of a partition.
-/

namespace KeyIndex

/-- Whether the writer of the file finished. -/
def BaseFile.isComplete (file : BaseFile) : Bool := 0 < file.size

/-- Whether the writer of the file finished. -/
def LogFile.isComplete (file : LogFile) : Bool := 0 < file.size

namespace FileSlice

/-- The log files that hold something, in the order of the slice. -/
def completeLogs (slice : FileSlice) : List LogFile := slice.logFiles.filter (·.isComplete)

/-- The base file, if it holds something. -/
def completeBase? (slice : FileSlice) : Option BaseFile := slice.baseFile.filter (·.isComplete)

/-- The slice without files that hold nothing, its log files by version; log files of
one version stay in their order. -/
def pruned (slice : FileSlice) : FileSlice :=
  { slice with
    baseFile := slice.completeBase?
    logFiles := slice.completeLogs.mergeSort fun a b => a.version ≤ b.version }

/-- The live part of a slice, if it has one. -/
def live? (slice : FileSlice) : Option FileSlice :=
  if slice.pruned.isEmpty then none else some slice.pruned

end FileSlice

/-- The live slices of a partition as of an instant. -/
def liveSlices (partition : String) (instant : Instant) : Reading (List FileSlice) := do
  let slices : List FileSlice ← Reading.query (.slices partition instant) id
  return slices.filterMap (·.live?)

end KeyIndex
