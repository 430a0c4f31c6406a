import KeyIndex.Proofs.Routing.Layout
import KeyIndex.Proofs.Table.Form
import KeyIndex.Settings

/-!
# What is written is read back

Durations, formats and settings are read as they were written.  With what a table is made of and
with layouts these are all types that have a JSON form: the text that is written of a value of any
of them is read as this value.

Main results:

- Theorem `Duration.ofNanos?_inNanos`: a duration is made of its span in nanoseconds.
- Theorems `TableSettings.isReadBack`, `Settings.isReadBack`: settings are read as they were
  written, with the durations and the format in them.
- Theorem `read?_write_forms`: what is written of any type is read back.
-/

namespace KeyIndex

open Json

/-! ## Durations -/

/-- A duration is made of its span in nanoseconds: those that are less than a second are its
nanoseconds. -/
theorem Duration.ofNanos?_inNanos (d : Duration) : Duration.ofNanos? d.inNanos = some d := by
  have hpos : 0 < nanosPerSecond := by decide
  have hseconds : d.inNanos / nanosPerSecond = d.seconds.toNat := by
    rw [Duration.inNanos, Nat.add_comm, Nat.add_mul_div_right _ _ hpos,
      Nat.div_eq_of_lt d.nanos_lt, Nat.zero_add]
  have hnanos : d.inNanos % nanosPerSecond = d.nanos.toNat := by
    rw [Duration.inNanos, Nat.add_comm, Nat.add_mul_mod_self_right, Nat.mod_eq_of_lt d.nanos_lt]
  have hfits : d.inNanos / nanosPerSecond < UInt64.size := by
    rw [hseconds]
    exact d.seconds.toNat_lt_size
  rw [Duration.ofNanos?, if_pos hfits]
  simp only [hseconds, hnanos, UInt64.ofNat_toNat, UInt32.ofNat_toNat]

theorem Duration.isReadBack (d : Duration) : IsReadBack d := by
  have hfields : (toValue d).tree.exactFields? ["secs", "nanos"] =
      some [("secs", (toValue d.seconds).tree), ("nanos", (toValue d.nanos).tree)] :=
    exactFields?_tree
  show ((toValue d).tree.exactFields? ["secs", "nanos"]).bind _ = _
  rw [hfields, Option.bind_some, Fields.need_eq (isReadBack_uint64 d.seconds) rfl,
    Fields.need_eq (isReadBack_uint32 d.nanos) rfl, Option.bind_eq_bind, Option.bind_some,
    Option.bind_eq_bind, Option.bind_some]
  exact d.ofNanos?_inNanos

/-! ## Settings -/

theorem BaseFormat.isReadBack (format : BaseFormat) : IsReadBack format := by
  cases format with
  | parquet => rfl
  | orc => rfl
  | hfile => rfl

theorem TableSettings.isReadBack (table : TableSettings) : IsReadBack table := by
  have hfields : (toValue table).tree.fields? ["base_path", "table_name", "base_file_format",
      "partition_metadata_file", "metadata_dir"] =
      some [("base_path", (toValue table.basePath).tree),
        ("table_name", (toValue table.name).tree),
        ("base_file_format", (toValue table.format).tree),
        ("partition_metadata_file", (toValue table.markerFile).tree),
        ("metadata_dir", (toValue table.metadataDir).tree)] :=
    fields?_tree (by simp)
  show ((toValue table).tree.fields? ["base_path", "table_name", "base_file_format",
    "partition_metadata_file", "metadata_dir"]).bind _ = _
  rw [hfields, Option.bind_some, Fields.get_eq (isReadBack_string table.basePath) rfl,
    Fields.get_eq (isReadBack_string table.name) rfl, Fields.get_eq table.format.isReadBack rfl,
    Fields.get_eq (isReadBack_string table.markerFile) rfl,
    Fields.get_eq (isReadBack_string table.metadataDir) rfl]
  rfl

/-- There may be no limit to the time that a worker waits, which is written as nothing. -/
theorem Settings.isReadBack (settings : Settings) : IsReadBack settings := by
  have hfields : (toValue settings).tree.fields? ["partition_regex", "barrier_name",
      "barrier_poll_interval", "barrier_timeout", "table"] =
      some [("partition_regex", (toValue settings.partitions).tree),
        ("barrier_name", (toValue settings.rendezvous).tree),
        ("barrier_poll_interval", (toValue settings.pollInterval).tree),
        ("barrier_timeout", (toValue settings.timeout).tree),
        ("table", (toValue settings.table).tree)] :=
    fields?_tree (by simp)
  have htimeout : IsReadBack settings.timeout := by
    cases settings.timeout with
    | none => exact isReadBack_none
    | some timeout => exact isReadBack_some timeout.isReadBack nofun
  show ((toValue settings).tree.fields? ["partition_regex", "barrier_name",
    "barrier_poll_interval", "barrier_timeout", "table"]).bind _ = _
  rw [hfields, Option.bind_some, Fields.get_eq (isReadBack_string settings.partitions) rfl,
    Fields.get_eq (isReadBack_string settings.rendezvous) rfl,
    Fields.get_eq settings.pollInterval.isReadBack rfl, Fields.get_eq htimeout rfl,
    Fields.get_eq settings.table.isReadBack rfl]
  rfl

/-! ## All forms -/

/-- Of every type with a JSON form what is written of a value is read as the value.  The
definition of a schema must have whole numbers of 64 bits and distinct names in each object, and
at most 126 containers nested in one another. -/
theorem read?_write_forms :
    (∀ group : FileGroup, read? FileGroup (write group) = some group) ∧
      (∀ instant : Instant, read? Instant (write instant) = some instant) ∧
      (∀ file : BaseFile, read? BaseFile (write file) = some file) ∧
      (∀ file : LogFile, read? LogFile (write file) = some file) ∧
      (∀ slice : FileSlice, read? FileSlice (write slice) = some slice) ∧
      (∀ key : RecordKey, read? RecordKey (write key) = some key) ∧
      (∀ location : Location, read? Location (write location) = some location) ∧
      (∀ entry : IndexEntry, read? IndexEntry (write entry) = some entry) ∧
      (∀ layout : Layout, read? Layout (write layout) = some layout) ∧
      (∀ block : LogBlock, read? LogBlock (write block) = some block) ∧
      (∀ content : LogContent, read? LogContent (write content) = some content) ∧
      (∀ schema : Schema, schema.definition.IsPlain → schema.definition.depth ≤ 126 →
        read? Schema (write schema) = some schema) ∧
      (∀ format : BaseFormat, read? BaseFormat (write format) = some format) ∧
      (∀ table : TableSettings, read? TableSettings (write table) = some table) ∧
      (∀ settings : Settings, read? Settings (write settings) = some settings) := by
  refine ⟨?_, ?_, ?_, ?_, ?_, ?_, ?_, ?_, ?_, ?_, ?_, ?_, ?_, ?_, ?_⟩
  · exact fun group => group.isReadBack.read?_write
  · exact fun instant => instant.isReadBack.read?_write
  · exact fun file => file.isReadBack.read?_write
  · exact fun file => file.isReadBack.read?_write
  · exact fun slice => slice.isReadBack.read?_write
  · exact fun key => key.isReadBack.read?_write
  · exact fun location => location.isReadBack.read?_write
  · exact fun entry => entry.isReadBack.read?_write
  · exact fun layout => layout.isReadBack.read?_write
  · exact fun block => block.isReadBack.read?_write
  · exact fun content => content.isReadBack.read?_write
  · exact fun schema hplain hdepth => (schema.isReadBack hplain hdepth).read?_write
  · exact fun format => format.isReadBack.read?_write
  · exact fun table => table.isReadBack.read?_write
  · exact fun settings => settings.isReadBack.read?_write

/-- A schema whose definition has the least and the greatest number, a name with a quote and a
line end, and nested containers. -/
theorem read?_write_forms_extreme :
    ∃ schema : Schema,
      schema.definition = .object [("type\"\n", .string "record"),
        ("range", .array [.int (-2 ^ 63), .int (2 ^ 64 - 1)]), ("empty", .object [])] ∧
      schema.definition.IsPlain ∧ schema.definition.depth ≤ 126 ∧
      read? Schema (write schema) = some schema := by
  have hplain : (Value.object [("type\"\n", .string "record"),
      ("range", .array [.int (-2 ^ 63), .int (2 ^ 64 - 1)]), ("empty", .object [])]).IsPlain := by
    refine .object (by decide) ?_
    simp only [List.forall_mem_cons]
    refine ⟨.string _, .array ?_, .object List.nodup_nil nofun, nofun⟩
    simp only [List.forall_mem_cons]
    exact ⟨.int (by decide) (by decide), .int (by decide) (by decide), nofun⟩
  have hdepth : (Value.object [("type\"\n", .string "record"),
      ("range", .array [.int (-2 ^ 63), .int (2 ^ 64 - 1)]),
      ("empty", .object [])]).depth ≤ 126 := by
    decide
  rcases read?_write_forms with ⟨-, -, -, -, -, -, -, -, -, -, -, hschema, -⟩
  exact ⟨⟨_, ["id"]⟩, rfl, hplain, hdepth, hschema ⟨_, ["id"]⟩ hplain hdepth⟩

end KeyIndex
