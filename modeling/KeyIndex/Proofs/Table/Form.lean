import KeyIndex.Proofs.Json.Record
import KeyIndex.Table.Form
import KeyIndex.Table.Schema

/-!
# What a table is made of is read back

File groups, instants, files, slices, keys, locations, entries and blocks are read as they were
written.  So is a schema whose definition can be kept of a text.

Main results:

- Theorems `FileSlice.isReadBack`, `IndexEntry.isReadBack`, `LogBlock.isReadBack` and their like:
  each of them is read from the tree that it is written as.
- Theorem `Schema.isReadBack`: so is a schema, if its definition is plain and not nested too deep.
-/

namespace KeyIndex

open Json

theorem FileGroup.isReadBack (group : FileGroup) : IsReadBack group := rfl

theorem Instant.isReadBack (instant : Instant) : IsReadBack instant := rfl

/-! ## Files and slices -/

theorem BaseFile.isReadBack (file : BaseFile) : IsReadBack file := by
  have hfields : (toValue file).tree.fields? ["path", "size_bytes"] =
      some [("path", (toValue file.path).tree), ("size_bytes", (toValue file.size).tree)] :=
    fields?_tree (by simp)
  show ((toValue file).tree.fields? ["path", "size_bytes"]).bind _ = _
  rw [hfields, Option.bind_some, Fields.need_eq (isReadBack_string file.path) rfl,
    Fields.need_eq (isReadBack_uint64 file.size) rfl]
  rfl

theorem LogFile.isReadBack (file : LogFile) : IsReadBack file := by
  have hfields : (toValue file).tree.fields? ["path", "size_bytes", "version"] =
      some [("path", (toValue file.path).tree), ("size_bytes", (toValue file.size).tree),
        ("version", (toValue file.version).tree)] :=
    fields?_tree (by simp)
  show ((toValue file).tree.fields? ["path", "size_bytes", "version"]).bind _ = _
  rw [hfields, Option.bind_some, Fields.need_eq (isReadBack_string file.path) rfl,
    Fields.need_eq (isReadBack_uint64 file.size) rfl,
    Fields.need_eq (isReadBack_uint32 file.version) rfl]
  rfl

/-- A slice may have no base file, which is written as nothing. -/
theorem FileSlice.isReadBack (slice : FileSlice) : IsReadBack slice := by
  have hfields : (toValue slice).tree.fields? ["partition_path", "file_group_id",
      "base_instant_time", "base_file", "log_files"] =
      some [("partition_path", (toValue slice.partition).tree),
        ("file_group_id", (toValue slice.fileGroup).tree),
        ("base_instant_time", (toValue slice.baseInstant).tree),
        ("base_file", (toValue slice.baseFile).tree),
        ("log_files", (toValue slice.logFiles).tree)] :=
    fields?_tree (by simp)
  have hbase : IsReadBack slice.baseFile := by
    cases slice.baseFile with
    | none => exact isReadBack_none
    | some file => exact isReadBack_some file.isReadBack nofun
  have hlogs : IsReadBack slice.logFiles := isReadBack_list fun file _ => file.isReadBack
  show ((toValue slice).tree.fields? ["partition_path", "file_group_id", "base_instant_time",
    "base_file", "log_files"]).bind _ = _
  rw [hfields, Option.bind_some, Fields.need_eq (isReadBack_string slice.partition) rfl,
    Fields.need_eq slice.fileGroup.isReadBack rfl, Fields.need_eq slice.baseInstant.isReadBack rfl,
    Fields.get_eq hbase rfl, Fields.need_eq hlogs rfl]
  rfl

/-! ## Keys and index entries -/

theorem RecordKey.isReadBack (key : RecordKey) : IsReadBack key := by
  have hfields : (toValue key).tree.fields? ["key", "partition_path"] =
      some [("key", (toValue key.key).tree), ("partition_path", (toValue key.partition).tree)] :=
    fields?_tree (by simp)
  show ((toValue key).tree.fields? ["key", "partition_path"]).bind _ = _
  rw [hfields, Option.bind_some, Fields.need_eq (isReadBack_string key.key) rfl,
    Fields.need_eq (isReadBack_string key.partition) rfl]
  rfl

theorem Location.isReadBack (location : Location) : IsReadBack location := by
  have hfields : (toValue location).tree.fields? ["partition_path", "base_instant_time",
      "file_group_id"] =
      some [("partition_path", (toValue location.partition).tree),
        ("base_instant_time", (toValue location.baseInstant).tree),
        ("file_group_id", (toValue location.fileGroup).tree)] :=
    fields?_tree (by simp)
  show ((toValue location).tree.fields? ["partition_path", "base_instant_time",
    "file_group_id"]).bind _ = _
  rw [hfields, Option.bind_some, Fields.need_eq (isReadBack_string location.partition) rfl,
    Fields.need_eq location.baseInstant.isReadBack rfl,
    Fields.need_eq location.fileGroup.isReadBack rfl]
  rfl

theorem IndexEntry.isReadBack (entry : IndexEntry) : IsReadBack entry := by
  have hfields : (toValue entry).tree.fields? ["key", "location"] =
      some [("key", (toValue entry.key).tree), ("location", (toValue entry.location).tree)] :=
    fields?_tree (by simp)
  show ((toValue entry).tree.fields? ["key", "location"]).bind _ = _
  rw [hfields, Option.bind_some, Fields.need_eq entry.key.isReadBack rfl,
    Fields.need_eq entry.location.isReadBack rfl]
  rfl

/-! ## Log blocks -/

/-- A record with one field. -/
theorem fields?_one {α : Type} [Form α] (name : String) (a : α) :
    (Value.object [(name, toValue a)]).tree.fields? [name] = some [(name, (toValue a).tree)] :=
  @fields?_tree [(name, toValue a)] (by simp)

theorem LogContent.isReadBack (content : LogContent) : IsReadBack content := by
  have hkeys : ∀ keys : List String, IsReadBack keys := fun keys =>
    isReadBack_list fun key _ => isReadBack_string key
  cases content with
  | data keys =>
    show ((Value.object [("keys", toValue keys)]).tree.fields? ["keys"]).bind _ = _
    rw [fields?_one, Option.bind_some, Fields.need_eq (hkeys keys) rfl]
    rfl
  | delete keys =>
    show ((Value.object [("keys", toValue keys)]).tree.fields? ["keys"]).bind _ = _
    rw [fields?_one, Option.bind_some, Fields.need_eq (hkeys keys) rfl]
    rfl
  | rollback target =>
    show ((Value.object [("target_instant", toValue target)]).tree.fields?
      ["target_instant"]).bind _ = _
    rw [fields?_one, Option.bind_some, Fields.need_eq target.isReadBack rfl]
    rfl

theorem LogBlock.isReadBack (block : LogBlock) : IsReadBack block := by
  have hfields : (toValue block).tree.fields? ["instant", "content"] =
      some [("instant", (toValue block.instant).tree),
        ("content", (toValue block.content).tree)] :=
    fields?_tree (by simp)
  show ((toValue block).tree.fields? ["instant", "content"]).bind _ = _
  rw [hfields, Option.bind_some, Fields.need_eq block.instant.isReadBack rfl,
    Fields.need_eq block.content.isReadBack rfl]
  rfl

/-! ## Schemas -/

/-- A definition that is plain and not nested too deep is kept as it was written. -/
theorem Schema.isReadBack (schema : Schema) (hplain : schema.definition.IsPlain)
    (hdepth : schema.definition.depth ≤ Schema.depth) : IsReadBack schema := by
  have hfields : (toValue schema).tree.fields? ["definition", "record_key_fields"] =
      some [("definition", schema.definition.tree),
        ("record_key_fields", (toValue schema.keyFields).tree)] :=
    fields?_tree (by simp)
  have hkeys : IsReadBack schema.keyFields := isReadBack_list fun key _ => isReadBack_string key
  have hdefinition : Fields.get? [("definition", schema.definition.tree),
      ("record_key_fields", (toValue schema.keyFields).tree)] "definition" =
      some schema.definition.tree := rfl
  show ((toValue schema).tree.fields? ["definition", "record_key_fields"]).bind _ = _
  rw [hfields, Option.bind_some, hdefinition]
  show (schema.definition.tree.keep? Schema.depth).bind _ = _
  rw [Value.keep?_tree _ _ hplain hdepth, Option.bind_some, Fields.need_eq hkeys rfl]
  rfl

end KeyIndex
