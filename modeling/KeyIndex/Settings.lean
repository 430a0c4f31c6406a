import KeyIndex.Duration
import KeyIndex.Failure
import KeyIndex.Regex.Engine
import KeyIndex.Regex.Matcher

/-!
# Settings of a worker

Which partitions are indexed, how the workers of a job meet, and where the table
is.  Every setting has a default, and a text of settings need not give any of them.

Main definitions:

- `Settings`, `TableSettings`: the settings and their defaults.
- `Settings.filter`: the expression that a partition must match as a whole.
- `Settings.check`: the first of the demands on settings that is not met.
- `Settings.ofText`: settings read from a JSON text, and checked.
-/

namespace KeyIndex

/-! ## The table -/

/-- The file that makes a directory a partition, unless another is chosen. -/
def defaultMarkerFile : String := ".partition_metadata"

/-- The directory with the metadata of a table, unless another is chosen. -/
def defaultMetadataDir : String := ".logtable"

/-- The name under which workers meet, unless another is chosen. -/
def defaultRendezvous : String := "index_bootstrap"

/-- The format of the base files of a table. -/
inductive BaseFormat where
  | parquet
  | orc
  | hfile
deriving DecidableEq, Inhabited

/-- The name of a format. -/
def BaseFormat.name : BaseFormat → String
  | .parquet => "parquet"
  | .orc => "orc"
  | .hfile => "hfile"

/-- The format of a name. -/
def BaseFormat.ofName? (name : String) : Option BaseFormat :=
  [.parquet, .orc, .hfile].find? fun format : BaseFormat => format.name == name

/-- Where a table is and how it is laid out. -/
structure TableSettings where
  basePath : String := "./table"
  name : String := "table"
  format : BaseFormat := .parquet
  markerFile : String := defaultMarkerFile
  metadataDir : String := defaultMetadataDir
deriving DecidableEq, Inhabited

/-! ## The pass of a worker -/

/-- What a worker indexes and how it meets the other workers. -/
structure Settings where
  partitions : String := ".*"
  rendezvous : String := defaultRendezvous
  pollInterval : Duration := .ofSeconds 5
  timeout : Option Duration := none
  table : TableSettings := {}
deriving DecidableEq

instance : Inhabited Settings := ⟨{}⟩

namespace Settings

/-- The pattern that matches a text from its start to its end where the given
pattern matches, as long as the given one is closed in itself. -/
def wholeMatch (pattern : String) : String := "^(?:" ++ pattern ++ ")$"

/-- The filter for partitions. -/
def filter (settings : Settings) (engine : Regex.Engine) : Except Failure Regex :=
  match Regex.ofPattern? engine (wholeMatch settings.partitions) with
  | some filter => .ok filter
  | none => .error (.pattern (engine.complaint (wholeMatch settings.partitions)))

/-- The first demand that is not met, in the order in which they are made. -/
def check (settings : Settings) (engine : Regex.Engine) : Except Failure Unit :=
  if settings.rendezvous.isEmpty then
    .error (.settings "barrier_name must not be empty")
  else if settings.pollInterval.isZero then
    .error (.settings "barrier_poll_interval must be greater than 0")
  else if settings.timeout.any (·.isZero) then
    .error (.settings "barrier_timeout must be greater than 0 when set")
  else if settings.table.markerFile.isEmpty then
    .error (.settings "partition_metadata_file must not be empty")
  else (settings.filter engine).map fun _ => ()

/-- Where all demands but the last are met, it is the filter that counts. -/
theorem check_eq_filter {settings : Settings} {engine : Regex.Engine}
    (hname : settings.rendezvous.isEmpty = false)
    (hinterval : settings.pollInterval.isZero = false)
    (htimeout : settings.timeout.any (·.isZero) = false)
    (hmarker : settings.table.markerFile.isEmpty = false) :
    settings.check engine = (settings.filter engine).map fun _ => () := by
  simp only [check, hname, hinterval, htimeout, hmarker]
  rfl

end Settings

/-! ## JSON forms -/

open Json

/-- A format is its name, or an object with the name as its only member and `null`
as its value. -/
instance : Form BaseFormat where
  toValue format := .string format.name
  ofTree?
    | .string (some name) => BaseFormat.ofName? name
    | .object [(some name, .null)] => BaseFormat.ofName? name
    | _ => none

instance : Form TableSettings where
  toValue table := .object [
    ("base_path", toValue table.basePath),
    ("table_name", toValue table.name),
    ("base_file_format", toValue table.format),
    ("partition_metadata_file", toValue table.markerFile),
    ("metadata_dir", toValue table.metadataDir)]
  ofTree? tree := do
    let default : TableSettings := {}
    let fields ← tree.fields? ["base_path", "table_name", "base_file_format",
      "partition_metadata_file", "metadata_dir"]
    some {
      basePath := ← fields.get "base_path" default.basePath
      name := ← fields.get "table_name" default.name
      format := ← fields.get "base_file_format" default.format
      markerFile := ← fields.get "partition_metadata_file" default.markerFile
      metadataDir := ← fields.get "metadata_dir" default.metadataDir }

instance : Form Settings where
  toValue settings := .object [
    ("partition_regex", toValue settings.partitions),
    ("barrier_name", toValue settings.rendezvous),
    ("barrier_poll_interval", toValue settings.pollInterval),
    ("barrier_timeout", toValue settings.timeout),
    ("table", toValue settings.table)]
  ofTree? tree := do
    let default : Settings := {}
    let fields ← tree.fields? ["partition_regex", "barrier_name", "barrier_poll_interval",
      "barrier_timeout", "table"]
    some {
      partitions := ← fields.get "partition_regex" default.partitions
      rendezvous := ← fields.get "barrier_name" default.rendezvous
      pollInterval := ← fields.get "barrier_poll_interval" default.pollInterval
      timeout := ← fields.get "barrier_timeout" default.timeout
      table := ← fields.get "table" default.table }

/-- Settings read from a text, and checked.  What is wrong with a text that cannot be read
is for the reader of JSON to say. -/
def Settings.ofText (engine : Regex.Engine) (complaint : String → String) (text : String) :
    Except Failure Settings :=
  match read? Settings text with
  | none => .error (.settings ("Failed to parse config: " ++ complaint text))
  | some settings => (settings.check engine).map fun _ => settings

end KeyIndex
