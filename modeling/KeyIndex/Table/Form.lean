import KeyIndex.Json.Record
import KeyIndex.Layout
import KeyIndex.Table.Log

/-!
# JSON forms of what a table is made of

File groups and instants are written as strings, files, slices, keys,
locations, entries, blocks and layouts as records.  A layout is read as it is
written, whether or not it could have been made.

Main definitions: an instance of `Form` for each of these types.
-/

namespace KeyIndex

open Json

instance : Form FileGroup := ⟨fun group => .string group.name, fun t => t.string?.map .mk⟩

instance : Form Instant := ⟨fun instant => .string instant.text, fun t => t.string?.map .mk⟩

/-! ## Files and slices -/

instance : Form BaseFile where
  toValue file := .object [("path", toValue file.path), ("size_bytes", toValue file.size)]
  ofTree? tree := do
    let fields ← tree.fields? ["path", "size_bytes"]
    some { path := ← fields.need "path", size := ← fields.need "size_bytes" }

instance : Form LogFile where
  toValue file := .object [
    ("path", toValue file.path),
    ("size_bytes", toValue file.size),
    ("version", toValue file.version)]
  ofTree? tree := do
    let fields ← tree.fields? ["path", "size_bytes", "version"]
    some {
      path := ← fields.need "path"
      size := ← fields.need "size_bytes"
      version := ← fields.need "version" }

instance : Form FileSlice where
  toValue slice := .object [
    ("partition_path", toValue slice.partition),
    ("file_group_id", toValue slice.fileGroup),
    ("base_instant_time", toValue slice.baseInstant),
    ("base_file", toValue slice.baseFile),
    ("log_files", toValue slice.logFiles)]
  ofTree? tree := do
    let fields ← tree.fields? ["partition_path", "file_group_id", "base_instant_time",
      "base_file", "log_files"]
    some {
      partition := ← fields.need "partition_path"
      fileGroup := ← fields.need "file_group_id"
      baseInstant := ← fields.need "base_instant_time"
      baseFile := ← fields.get "base_file" none
      logFiles := ← fields.need "log_files" }

/-! ## Keys and index entries -/

instance : Form RecordKey where
  toValue key := .object [
    ("key", toValue key.key),
    ("partition_path", toValue key.partition)]
  ofTree? tree := do
    let fields ← tree.fields? ["key", "partition_path"]
    some { key := ← fields.need "key", partition := ← fields.need "partition_path" }

instance : Form Location where
  toValue location := .object [
    ("partition_path", toValue location.partition),
    ("base_instant_time", toValue location.baseInstant),
    ("file_group_id", toValue location.fileGroup)]
  ofTree? tree := do
    let fields ← tree.fields? ["partition_path", "base_instant_time", "file_group_id"]
    some {
      partition := ← fields.need "partition_path"
      baseInstant := ← fields.need "base_instant_time"
      fileGroup := ← fields.need "file_group_id" }

instance : Form IndexEntry where
  toValue entry := .object [
    ("key", toValue entry.key),
    ("location", toValue entry.location)]
  ofTree? tree := do
    let fields ← tree.fields? ["key", "location"]
    some { key := ← fields.need "key", location := ← fields.need "location" }

/-! ## Log blocks -/

/-- The content of a block is an object with one member, named for its kind. -/
instance : Form LogContent where
  toValue
    | .data keys => .object [("Data", .object [("keys", toValue keys)])]
    | .delete keys => .object [("Delete", .object [("keys", toValue keys)])]
    | .rollback target => .object [("Rollback", .object [("target_instant", toValue target)])]
  ofTree?
    | .object [(some "Data", tree)] => do
      let fields ← tree.fields? ["keys"]
      some (.data (← fields.need "keys"))
    | .object [(some "Delete", tree)] => do
      let fields ← tree.fields? ["keys"]
      some (.delete (← fields.need "keys"))
    | .object [(some "Rollback", tree)] => do
      let fields ← tree.fields? ["target_instant"]
      some (.rollback (← fields.need "target_instant"))
    | _ => none

instance : Form LogBlock where
  toValue block := .object [
    ("instant", toValue block.instant),
    ("content", toValue block.content)]
  ofTree? tree := do
    let fields ← tree.fields? ["instant", "content"]
    some { instant := ← fields.need "instant", content := ← fields.need "content" }

/-! ## Layouts -/

instance : Form Layout where
  toValue layout := .object [
    ("worker_index", toValue layout.worker),
    ("total_workers", toValue layout.workers),
    ("max_buckets", toValue layout.groups)]
  ofTree? tree := do
    let fields ← tree.fields? ["worker_index", "total_workers", "max_buckets"]
    some {
      worker := ← fields.need "worker_index"
      workers := ← fields.need "total_workers"
      groups := ← fields.need "max_buckets" }

end KeyIndex
