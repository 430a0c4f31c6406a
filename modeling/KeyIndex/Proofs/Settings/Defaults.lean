import KeyIndex.Proofs.Settings.Form
import KeyIndex.Proofs.Worker.Make

/-!
# Settings of which only some are given

A text of settings gives some of them, in any order and among members of other names, and for a
table again only some of what there is to say about it.  What is given is read as it is said, what
is not given has its default, at both levels, and what then does not meet the demands on settings
is refused with the first demand that is not met.  A text that gives a setting twice is refused.

Main definitions:

- `TableSettings.Given`, `Settings.Given`: some of the settings of a table, and of a worker.
- `Settings.Given.fill`: what is given, and defaults for the rest.
- `Settings.Given.AreSaid`: what the members of an object give.

Main results:

- Theorems `TableSettings.ofTree?_members`, `Settings.ofTree?_members`: what is read of them.
- Theorem `Settings.ofText_of_given`: what is read of a text that gives some settings.
-/

namespace KeyIndex

open Json

/-! ## What trees say -/

/-- A tree says a text. -/
def SaysText (text : String) (tree : Tree) : Prop := tree = .string (some text)

/-- A tree says a natural number, by its digits. -/
def SaysNat (n : Nat) (tree : Tree) : Prop :=
  ∃ digits, tree = .number ⟨false, digits, [], none⟩ ∧ digitsValue digits = n

theorem ofTree?_of_saysText (text : String) (tree : Tree) (h : SaysText text tree) :
    ofTree? tree = some text := by
  rw [h]
  rfl

theorem SaysNat.natBelow? {n bound : Nat} {tree : Tree} (h : SaysNat n tree) (hn : n < bound) :
    tree.natBelow? bound = some n := by
  rcases h with ⟨digits, rfl, rfl⟩
  have hnat : (Tree.number ⟨false, digits, [], none⟩).nat? = some (digitsValue digits) := rfl
  rw [Tree.natBelow?, hnat, Option.filter_some_pos (by simpa using hn)]

/-- A format is said by its name, alone or with nothing as its value. -/
inductive BaseFormat.IsSaid (format : BaseFormat) : Tree → Prop where
  | name : format.IsSaid (.string (some format.name))
  | member : format.IsSaid (.ofMembers [(format.name, .null)])

theorem BaseFormat.ofTree?_of_isSaid (format : BaseFormat) (tree : Tree) (h : format.IsSaid tree) :
    ofTree? tree = some format := by
  cases h with
  | name => cases format <;> rfl
  | member => cases format <;> rfl

namespace Duration

/-- Two numbers are the seconds and the nanoseconds of a duration.  The nanoseconds may be a second
and more. -/
def HasParts (d : Duration) (seconds nanos : Tree) : Prop :=
  ∃ m n, SaysNat m seconds ∧ m < UInt64.size ∧ SaysNat n nanos ∧ n < UInt32.size ∧
    m * nanosPerSecond + n = d.inNanos

/-- A duration is said by its parts, under their names in either order or one after the other. -/
inductive IsSaid (d : Duration) : Tree → Prop where
  | members {members : Fields} {seconds nanos : Tree} :
      members.Perm [("secs", seconds), ("nanos", nanos)] → d.HasParts seconds nanos →
        d.IsSaid (.ofMembers members)
  | items {seconds nanos : Tree} : d.HasParts seconds nanos → d.IsSaid (.array [seconds, nanos])

/-- What is made of the parts of a duration. -/
theorem HasParts.ofParts? {d : Duration} {seconds nanos : Tree} (h : d.HasParts seconds nanos) :
    ∃ s n, ofTree? seconds = some s ∧ ofTree? nanos = some n ∧ Duration.ofParts? s n = some d := by
  rcases h with ⟨m, n, hseconds, hm, hnanos, hn, hspan⟩
  refine ⟨.ofNat m, .ofNat n, ?_, ?_, ?_⟩
  · show (seconds.natBelow? UInt64.size).map UInt64.ofNat = _
    rw [hseconds.natBelow? hm, Option.map_some]
  · show (nanos.natBelow? UInt32.size).map UInt32.ofNat = _
    rw [hnanos.natBelow? hn, Option.map_some]
  · rw [Duration.ofParts?, UInt64.toNat_ofNat_of_lt' hm, UInt32.toNat_ofNat_of_lt' hn, hspan,
      ofNanos?_inNanos]

/-- A duration is read of fields that are its parts. -/
theorem HasParts.of_fields {d : Duration} {fields : Fields} {seconds nanos : Tree}
    (hfields : fields.Perm [("secs", seconds), ("nanos", nanos)])
    (h : d.HasParts seconds nanos) :
    ((fields.need "secs").bind fun s => (fields.need "nanos").bind fun n =>
      Duration.ofParts? s n) = some d := by
  rcases h.ofParts? with ⟨s, n, hseconds, hnanos, hspan⟩
  have hnodup : (fields.map (·.1)).Nodup := by
    rw [(hfields.map (·.1)).nodup_iff]
    simp
  have hfound : ∀ field ∈ [("secs", seconds), ("nanos", nanos)],
      fields.get? field.1 = some field.2 := fun field hfield =>
    (mem_iff_lookup hnodup).mp (hfields.mem_iff.mpr hfield)
  rw [Fields.need, hfound ("secs", seconds) (by simp), Option.bind_some, hseconds, Option.bind_some,
    Fields.need, hfound ("nanos", nanos) (by simp), Option.bind_some, hnanos, Option.bind_some,
    hspan]

theorem ofTree?_of_isSaid (d : Duration) (tree : Tree) (h : d.IsSaid tree) :
    ofTree? tree = some d := by
  cases h with
  | @members members seconds nanos hmembers hparts =>
    have hfields : (Tree.ofMembers members).exactFields? ["secs", "nanos"] = some members :=
      exactFields?_ofMembers (hmembers.map (·.1))
    show ((Tree.ofMembers members).exactFields? ["secs", "nanos"]).bind _ = _
    rw [hfields, Option.bind_some]
    exact hparts.of_fields hmembers
  | @items seconds nanos hparts =>
    have hfields : (Tree.array [seconds, nanos]).exactFields? ["secs", "nanos"] =
        some [("secs", seconds), ("nanos", nanos)] := rfl
    show ((Tree.array [seconds, nanos]).exactFields? ["secs", "nanos"]).bind _ = _
    rw [hfields, Option.bind_some]
    exact hparts.of_fields (.refl _)

end Duration

/-- How long a worker waits at most is said by a duration, and by nothing if there is no limit. -/
inductive LimitIsSaid : Option Duration → Tree → Prop where
  | none : LimitIsSaid none .null
  | some {d : Duration} {tree : Tree} : d.IsSaid tree → LimitIsSaid (some d) tree

theorem ofTree?_of_limitIsSaid (limit : Option Duration) (tree : Tree)
    (h : LimitIsSaid limit tree) : ofTree? tree = some limit := by
  cases h with
  | none => rfl
  | @some d tree hd =>
    have hread := d.ofTree?_of_isSaid tree hd
    show Tree.option? ofTree? tree = some (some d)
    cases hd <;> rw [Tree.option?, hread] <;> first | rfl | nofun

/-! ## The settings of a table -/

namespace TableSettings

/-- Some of the settings of a table. -/
structure Given where
  basePath : Option String := none
  name : Option String := none
  format : Option BaseFormat := none
  markerFile : Option String := none
  metadataDir : Option String := none

/-- What is given, and defaults for the rest. -/
def Given.fill (given : Given) : TableSettings :=
  let default : TableSettings := {}
  { basePath := given.basePath.getD default.basePath
    name := given.name.getD default.name
    format := given.format.getD default.format
    markerFile := given.markerFile.getD default.markerFile
    metadataDir := given.metadataDir.getD default.metadataDir }

/-- The names of the settings of a table. -/
def memberNames : List String :=
  ["base_path", "table_name", "base_file_format", "partition_metadata_file", "metadata_dir"]

/-- What some members give of the settings of a table, none of them twice. -/
structure Given.AreSaid (given : Given) (members : Fields) : Prop where
  once : members.AreOnce memberNames
  basePath : Gives SaysText "base_path" members given.basePath
  name : Gives SaysText "table_name" members given.name
  format : Gives BaseFormat.IsSaid "base_file_format" members given.format
  markerFile : Gives SaysText "partition_metadata_file" members given.markerFile
  metadataDir : Gives SaysText "metadata_dir" members given.metadataDir

/-- What is read of an object that gives some of the settings of a table. -/
theorem ofTree?_members {given : Given} {members : Fields} (h : given.AreSaid members) :
    ofTree? (Tree.ofMembers members) = some given.fill := by
  show ((Tree.ofMembers members).fields? memberNames).bind _ = _
  rw [fields?_ofMembers h.once, Option.bind_some,
    Fields.get_among h.once ofTree?_of_saysText (by decide) h.basePath,
    Fields.get_among h.once ofTree?_of_saysText (by decide) h.name,
    Fields.get_among h.once BaseFormat.ofTree?_of_isSaid (by decide) h.format,
    Fields.get_among h.once ofTree?_of_saysText (by decide) h.markerFile,
    Fields.get_among h.once ofTree?_of_saysText (by decide) h.metadataDir]
  rfl

/-- Some of the settings of a table are said by an object whose members give them. -/
def Given.IsSaid (given : Given) (tree : Tree) : Prop :=
  ∃ members : Fields, tree = .ofMembers members ∧ given.AreSaid members

theorem Given.ofTree?_of_isSaid (given : Given) (tree : Tree) (h : given.IsSaid tree) :
    ofTree? tree = some given.fill := by
  rcases h with ⟨members, rfl, hsaid⟩
  exact ofTree?_members hsaid

/-- Nothing is read of an object that gives a setting of a table twice. -/
theorem ofTree?_of_repeated {members : List (Text × Tree)} {name : String}
    (hname : name ∈ memberNames) (h : 2 ≤ (members.map (·.1)).count (some name)) :
    (ofTree? (Tree.object members) : Option TableSettings) = none := by
  show ((Tree.object members).fields? memberNames).bind _ = _
  rw [fields?_of_repeated hname h, Option.bind_none]

end TableSettings

/-! ## The settings of a worker -/

namespace Settings

/-- Some of the settings of a worker.  If there is something on the table, it is some of the
settings of the table. -/
structure Given where
  partitions : Option String := none
  rendezvous : Option String := none
  pollInterval : Option Duration := none
  timeout : Option (Option Duration) := none
  table : Option TableSettings.Given := none

/-- What is given, and defaults for the rest. -/
def Given.fill (given : Given) : Settings :=
  let default : Settings := {}
  { partitions := given.partitions.getD default.partitions
    rendezvous := given.rendezvous.getD default.rendezvous
    pollInterval := given.pollInterval.getD default.pollInterval
    timeout := given.timeout.getD default.timeout
    table := (given.table.map TableSettings.Given.fill).getD default.table }

/-- The names of the settings of a worker. -/
def memberNames : List String :=
  ["partition_regex", "barrier_name", "barrier_poll_interval", "barrier_timeout", "table"]

/-- What some members give of the settings of a worker, none of them twice. -/
structure Given.AreSaid (given : Given) (members : Fields) : Prop where
  once : members.AreOnce memberNames
  partitions : Gives SaysText "partition_regex" members given.partitions
  rendezvous : Gives SaysText "barrier_name" members given.rendezvous
  pollInterval : Gives Duration.IsSaid "barrier_poll_interval" members given.pollInterval
  timeout : Gives LimitIsSaid "barrier_timeout" members given.timeout
  table : Gives TableSettings.Given.IsSaid "table" members given.table

/-- What is read of an object that gives some of the settings of a worker. -/
theorem ofTree?_members {given : Given} {members : Fields} (h : given.AreSaid members) :
    ofTree? (Tree.ofMembers members) = some given.fill := by
  show ((Tree.ofMembers members).fields? memberNames).bind _ = _
  rw [fields?_ofMembers h.once, Option.bind_some,
    Fields.get_among h.once ofTree?_of_saysText (by decide) h.partitions,
    Fields.get_among h.once ofTree?_of_saysText (by decide) h.rendezvous,
    Fields.get_among h.once Duration.ofTree?_of_isSaid (by decide) h.pollInterval,
    Fields.get_among h.once ofTree?_of_limitIsSaid (by decide) h.timeout,
    Fields.get_among h.once (fun _ _ hread => hread) (by decide)
      (h.table.map TableSettings.Given.ofTree?_of_isSaid)]
  rfl

/-- Nothing is read of an object that gives a setting of a worker twice. -/
theorem ofTree?_of_repeated {members : List (Text × Tree)} {name : String}
    (hname : name ∈ memberNames) (h : 2 ≤ (members.map (·.1)).count (some name)) :
    (ofTree? (Tree.object members) : Option Settings) = none := by
  show ((Tree.object members).fields? memberNames).bind _ = _
  rw [fields?_of_repeated hname h, Option.bind_none]

/-- Nothing is read of an object with a table of which nothing is read. -/
theorem ofTree?_of_table {members : List (Text × Tree)} {tree : Tree}
    (hmem : (some "table", tree) ∈ members)
    (h : (ofTree? tree : Option TableSettings) = none) :
    (ofTree? (Tree.object members) : Option Settings) = none := by
  show ((Tree.object members).fields? memberNames).bind _ = _
  cases hfields : (Tree.object members).fields? memberNames with
  | none => rfl
  | some fields =>
    have htable : fields.get "table" ({} : Settings).table = none := by
      rw [Fields.get, get?_of_fields? hfields (by decide) hmem]
      exact h
    simp only [Option.bind_some, Option.bind_eq_bind, htable, Option.bind_none,
      Option.bind_fun_none]

/-! ## Texts -/

/-- What is read of a text of a tree. -/
theorem read?_of_isText {tree : Tree} {text : String} (h : tree.IsText text) :
    read? Settings text = ofTree? tree := by
  rw [read?, Tree.parse?_of_isText h, Option.bind_some]

variable {engine : Regex.Engine} {complaint : String → String}

theorem ofText_of_none {text : String} (h : read? Settings text = none) :
    Settings.ofText engine complaint text =
      .error (.settings ("Failed to parse config: " ++ complaint text)) := by
  rw [Settings.ofText, h]

/-- Settings that are read are checked. -/
theorem ofText_of_some {text : String} {settings : Settings}
    (h : read? Settings text = some settings) :
    Settings.ofText engine complaint text = (settings.check engine).map fun _ => settings := by
  rw [Settings.ofText, h]

/-- What is read of a text that gives some settings, whatever the engine takes and whatever the
reader of JSON says.

What it gives is read as it is said, and the rest has its defaults, in the table as elsewhere;
these settings are the outcome if they pass their check, and otherwise the check's failure is.  A
text that gives a setting twice, of the worker or of the table, is refused. -/
theorem ofText_of_given (engine : Regex.Engine) (complaint : String → String) :
    (∀ (given : Given) (members : Fields) (text : String), given.AreSaid members →
      (Tree.ofMembers members).IsText text →
        read? Settings text = some given.fill ∧
          (∀ settings, Settings.ofText engine complaint text = .ok settings ↔
            settings = given.fill ∧ given.fill.check engine = .ok ()) ∧
          ∀ failure, Settings.ofText engine complaint text = .error failure ↔
            given.fill.check engine = .error failure) ∧
      (∀ (members : List (Text × Tree)) (name text : String), name ∈ memberNames →
        2 ≤ (members.map (·.1)).count (some name) → (Tree.object members).IsText text →
          Settings.ofText engine complaint text =
            .error (.settings ("Failed to parse config: " ++ complaint text))) ∧
      ∀ (members inner : List (Text × Tree)) (name text : String),
        name ∈ TableSettings.memberNames → (some "table", .object inner) ∈ members →
          2 ≤ (inner.map (·.1)).count (some name) → (Tree.object members).IsText text →
            Settings.ofText engine complaint text =
              .error (.settings ("Failed to parse config: " ++ complaint text)) := by
  refine ⟨?_, ?_, ?_⟩
  · intro given members text hsaid htext
    have hread : read? Settings text = some given.fill := by
      rw [read?_of_isText htext, ofTree?_members hsaid]
    rw [ofText_of_some hread]
    refine ⟨hread, ?_, ?_⟩
    · intro settings
      cases given.fill.check engine with
      | error failure => simp [Except.map]
      | ok _ => simp [Except.map, eq_comm]
    · intro failure
      cases given.fill.check engine with
      | error _ => simp [Except.map]
      | ok _ => simp [Except.map]
  · intro members name text hname h htext
    exact ofText_of_none (by rw [read?_of_isText htext, ofTree?_of_repeated hname h])
  · intro members inner name text hname hmem h htext
    have htable := TableSettings.ofTree?_of_repeated hname h
    exact ofText_of_none (by rw [read?_of_isText htext, ofTree?_of_table hmem htable])

/-- What is said of the table below, after something that is none of its settings. -/
def scatteredTable : Fields :=
  [("x", .array [.number ⟨false, ['1'], [], none⟩, .object []]), ("table_name", .string (some "t"))]

/-- Some settings, in another order than that in which they are declared. -/
def scattered : Fields :=
  [("table", .ofMembers scatteredTable), ("barrier_name", .string (some "b")),
    ("partition_regex", .string (some ""))]

theorem areSaid_scattered :
    ({ partitions := some "", rendezvous := some "b", table := some { name := some "t" } } :
      Given).AreSaid scattered where
  once := by decide
  partitions := .present (by simp [scattered]) rfl
  rendezvous := .present (by simp [scattered]) rfl
  pollInterval := .absent (by decide)
  timeout := .absent (by decide)
  table := .present (by simp [scattered]) ⟨scatteredTable, rfl, {
    once := by decide
    basePath := .absent (by decide)
    name := .present (by simp [scatteredTable]) rfl
    format := .absent (by decide)
    markerFile := .absent (by decide)
    metadataDir := .absent (by decide) }⟩

/-- A text of these settings with white space and with an escaped character. -/
def scatteredText : String :=
  r#"{ "table":{"x":[1, {}],"table_name":"\u0074"},
"barrier_name":"b","partition_regex":""}"#

theorem isText_scattered : (Tree.ofMembers scattered).IsText scatteredText := by
  have hescaped : (Token.string (some "t")).IsText "\"\\u0074\"".toList := by
    have hunit : (Unit16.char 't').IsText "\\u0074".toList :=
      @Unit16.IsText.code '0' '0' '7' '4' 0x74 rfl
    exact @Token.IsText.string [.char 't'] (some "t") _ (.cons hunit .nil) (Names.char 't' .nil)
  show Lays _ _
  refine .token (.mark rfl) (.blank rfl ?_)
  refine .token (isText_string "table") (.token (.mark rfl) (.token (.mark rfl) ?_))
  refine .token (isText_string "x") (.token (.mark rfl) (.token (.mark rfl) ?_))
  refine .token (.number (.intro false (isWhole_toDigits 1) .none .none)) ?_
  refine .token (.mark rfl) (.blank rfl (.token (.mark rfl) (.token (.mark rfl) ?_)))
  refine .token (.mark rfl) (.token (.mark rfl) ?_)
  refine .token (isText_string "table_name") (.token (.mark rfl) (.token hescaped ?_))
  refine .token (.mark rfl) (.token (.mark rfl) (.blank rfl ?_))
  refine .token (isText_string "barrier_name") (.token (.mark rfl) ?_)
  refine .token (isText_string "b") (.token (.mark rfl) ?_)
  refine .token (isText_string "partition_regex") (.token (.mark rfl) ?_)
  exact .token (isText_string "") (.token (.mark rfl) .nil)

/-- A text that gives the table twice. -/
def twoTables : String := r#"{"table":{},"table":{}}"#

/-- A text that gives the name of the table twice. -/
def twoNames : String := r#"{"table":{"table_name":"t","table_name":"u"}}"#

/-- What a reader of JSON says of these two texts. -/
def repetition (text : String) : String :=
  if text = twoTables then "duplicate field `table` at line 1 column 19"
  else "duplicate field `table_name` at line 1 column 39"

/-- The text of scattered settings, and the two that give something twice. -/
theorem ofText_scattered :
    Settings.ofText .builtin repetition scatteredText =
        .ok { partitions := "", rendezvous := "b", table := { name := "t" } } ∧
      Settings.ofText .builtin repetition twoTables = .error
        (.settings "Failed to parse config: duplicate field `table` at line 1 column 19") ∧
      Settings.ofText .builtin repetition twoNames = .error
        (.settings "Failed to parse config: duplicate field `table_name` at line 1 column 39") := by
  refine ⟨?_, ?_, ?_⟩
  · have hread := (ofText_of_given .builtin repetition).1 _ _ _ areSaid_scattered isText_scattered
    have hfilter : ({ partitions := "", rendezvous := "b", table := { name := "t" } } :
        Settings).filter .builtin = .ok .emptyText := filter_unpartitioned
    have hcheck : ({ partitions := "", rendezvous := "b", table := { name := "t" } } :
        Settings).check .builtin = .ok () := by
      rw [check_eq_filter (by decide) (by decide) (by decide) (by decide), hfilter]
      rfl
    exact (hread.2.1 _).mpr ⟨rfl, hcheck⟩
  · refine (ofText_of_given .builtin repetition).2.1
      [(some "table", .object []), (some "table", .object [])] "table" twoTables (by decide)
      (by decide) ?_
    refine .token (.mark rfl) (.token (isText_string "table") (.token (.mark rfl) ?_))
    refine .token (.mark rfl) (.token (.mark rfl) (.token (.mark rfl) ?_))
    refine .token (isText_string "table") (.token (.mark rfl) (.token (.mark rfl) ?_))
    exact .token (.mark rfl) (.token (.mark rfl) .nil)
  · refine (ofText_of_given .builtin repetition).2.2 [(some "table", .object
      [(some "table_name", .string (some "t")), (some "table_name", .string (some "u"))])] _
      "table_name" twoNames (by decide) List.mem_cons_self (by decide) ?_
    refine .token (.mark rfl) (.token (isText_string "table") (.token (.mark rfl) ?_))
    refine .token (.mark rfl) (.token (isText_string "table_name") (.token (.mark rfl) ?_))
    refine .token (isText_string "t") (.token (.mark rfl) ?_)
    refine .token (isText_string "table_name") (.token (.mark rfl) ?_)
    exact .token (isText_string "u") (.token (.mark rfl) (.token (.mark rfl) .nil))

end Settings

end KeyIndex
