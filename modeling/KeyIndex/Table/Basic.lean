/-!
# Tables: files, slices, keys, index entries

A table is split into partitions, and the records of a partition into file groups.
What a file group holds as of some commit is a file slice: a base file with the
records at one instant, and log files with the changes since.  The index of a table
says for each record key where its record lives.

Main definitions:

- `FileGroup`, `Instant`: file groups by their names and commits by their times, which
  are ordered by their text.
- `FileSlice`: the files of one file group as of a commit.
- `RecordKey`, `Location`, `IndexEntry`: what the index is made of.
-/

namespace KeyIndex

/-- A file group, by its name, which is stable for the lifetime of a table. -/
structure FileGroup where
  name : String
deriving DecidableEq, Inhabited

/-- The time of a commit.  Times have a fixed width, so that the order of their
texts, character by character, is the order in time. -/
structure Instant where
  text : String
deriving DecidableEq, Inhabited

namespace Instant

instance : LT Instant := ⟨fun a b => a.text < b.text⟩

instance (a b : Instant) : Decidable (a < b) := inferInstanceAs (Decidable (a.text < b.text))

/-- How one instant stands to another. -/
instance : Ord Instant := ⟨fun a b => compareOfLessAndEq a b⟩

end Instant

/-! ## Files and slices -/

/-- A file with all records of a file group at one instant.  Size zero marks a file
whose writer did not finish. -/
structure BaseFile where
  path : String
  size : UInt64
deriving DecidableEq, Inhabited

/-- A file with changes to a file group.  The version counts the log files of a
slice in the order they were written. -/
structure LogFile where
  path : String
  size : UInt64
  version : UInt32
deriving DecidableEq, Inhabited

/-- The files of one file group as of a commit. -/
structure FileSlice where
  partition : String
  fileGroup : FileGroup
  baseInstant : Instant
  baseFile : Option BaseFile
  logFiles : List LogFile
deriving DecidableEq, Inhabited

namespace FileSlice

/-- A slice without files. -/
def empty (partition : String) (fileGroup : FileGroup) (baseInstant : Instant) : FileSlice :=
  ⟨partition, fileGroup, baseInstant, none, []⟩

/-- The slice with a base file, in place of the one it had. -/
def setBaseFile (slice : FileSlice) (file : BaseFile) : FileSlice :=
  { slice with baseFile := some file }

/-- The slice with one more log file, after those it had. -/
def addLogFile (slice : FileSlice) (file : LogFile) : FileSlice :=
  { slice with logFiles := slice.logFiles ++ [file] }

/-- Whether a slice has no file at all. -/
def isEmpty (slice : FileSlice) : Bool := slice.baseFile.isNone && slice.logFiles.isEmpty

end FileSlice

/-! ## Keys and index entries -/

/-- What identifies a record in a table. -/
structure RecordKey where
  key : String
  partition : String
deriving DecidableEq, Inhabited

namespace RecordKey

/-- A key as text, after its partition. -/
def text (k : RecordKey) : String := k.partition ++ "/" ++ k.key

/-- Keys are ordered by key and, if those are equal, by partition. -/
def le (a b : RecordKey) : Bool :=
  if a.key = b.key then decide (a.partition ≤ b.partition) else decide (a.key < b.key)

/-- A list of keys in ascending order. -/
def sort (keys : List RecordKey) : List RecordKey := keys.mergeSort le

end RecordKey

/-- Where a record lives. -/
structure Location where
  partition : String
  baseInstant : Instant
  fileGroup : FileGroup
deriving DecidableEq, Inhabited

/-- What the index says of one key. -/
structure IndexEntry where
  key : RecordKey
  location : Location
deriving DecidableEq, Inhabited

/-- The entry of a key that is alive in a slice.  The partition is the key's own. -/
def IndexEntry.of (key : RecordKey) (slice : FileSlice) : IndexEntry :=
  ⟨key, ⟨key.partition, slice.baseInstant, slice.fileGroup⟩⟩

end KeyIndex
