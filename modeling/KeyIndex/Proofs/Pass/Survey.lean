import KeyIndex.Proofs.Pass.Course
import KeyIndex.Proofs.Table.Keys

/-!
# Surveys of a table

What a worker does in its load depends on nothing but what it is told.  A survey is the
answers to all that a worker may ask in one load, where a question that is asked twice may
well have two answers.  A survey settles the way of a worker, stop by stop: at each stop
the worker makes some inquiries, and then it sends some entries.

Whatever the answers are, a load goes such a way; and where a question is not answered, it
goes no further.

Main results:

- Definitions `Reading.Obeys`, `Pass.Obeys`: what a reading or a pass does is as a
  specification says, and every failure ends it at once.
- Theorems `Reading.Obeys.bind`, `Pass.Obeys.read`: how this is shown of what is built of
  parts.
- Definition `Survey.stops`: the way of a worker.
- Theorem `Pass.obeys_load`: every load goes the way of some survey.
-/

namespace KeyIndex

/-! ## Inquiries, stops, tasks -/

/-- A question, the answer to it, and how a failure to answer it would be reported. -/
structure Inquiry where
  query : Query
  answer : query.Answer
  report : Failure → Failure

/-- A stop on the way of a worker: first it makes some inquiries, and then it sends some
entries. -/
structure Stop where
  inquiries : List Inquiry
  entries : List IndexEntry

/-- One thing that a worker does on its way. -/
inductive Task where
  | inquire (inquiry : Inquiry)
  | send (entry : IndexEntry)

/-- The inquiry of a task, if it is one. -/
def Task.inquiry? : Task → Option Inquiry
  | inquire inquiry => some inquiry
  | send _ => none

/-- What a worker does at a stop. -/
def Stop.tasks (stop : Stop) : List Task :=
  stop.inquiries.map .inquire ++ stop.entries.map .send

/-- What a worker does at some stops, one after another. -/
def Stop.allTasks (stops : List Stop) : List Task := stops.flatMap tasks

/-- The entries that a worker sends at some stops, one after another. -/
def Stop.allEntries (stops : List Stop) : List IndexEntry := stops.flatMap (·.entries)

/-- The inquiries that a worker makes at some stops, one after another. -/
def Stop.allInquiries (stops : List Stop) : List Inquiry := stops.flatMap (·.inquiries)

/-- A stop at which a single question is asked, whose failure is reported as it is. -/
def Stop.ask (query : Query) (answer : query.Answer) : Stop := ⟨[⟨query, answer, id⟩], []⟩

@[simp] theorem Stop.tasks_ask (query : Query) (answer : query.Answer) :
    (Stop.ask query answer).tasks = [.inquire ⟨query, answer, id⟩] := rfl

@[simp] theorem Stop.allInquiries_cons (stop : Stop) (stops : List Stop) :
    allInquiries (stop :: stops) = stop.inquiries ++ allInquiries stops :=
  List.flatMap_cons

@[simp] theorem Stop.allInquiries_append (stops more : List Stop) :
    allInquiries (stops ++ more) = allInquiries stops ++ allInquiries more :=
  List.flatMap_append

/-- The inquiries among the tasks at some stops. -/
@[simp] theorem Stop.inquiries_allTasks (stops : List Stop) :
    (allTasks stops).filterMap Task.inquiry? = allInquiries stops := by
  induction stops with
  | nil => rfl
  | cons stop stops ih =>
    have hstop : stop.tasks.filterMap Task.inquiry? = stop.inquiries := by
      simp [tasks, List.filterMap_map, Function.comp_def, Task.inquiry?]
    rw [allTasks, List.flatMap_cons, List.filterMap_append, hstop, allInquiries_cons, ← ih,
      allTasks]

/-- Every question can be answered. -/
instance (query : Query) : Inhabited query.Answer :=
  match query with
  | .latestInstant => ⟨(none : Option Instant)⟩
  | .schema => ⟨(default : Schema)⟩
  | .partitions => ⟨([] : List String)⟩
  | .slices .. => ⟨([] : List FileSlice)⟩
  | .baseKeys _ => ⟨([] : List RecordKey)⟩
  | .logBlocks .. => ⟨([] : List LogBlock)⟩

/-! ## Readings that obey a specification -/

namespace Reading

variable {α β : Type}

/-- Whatever the answers are, the inquiries of the reading and its result are as `spec`
says.  A question that is not answered is the last one, and its failure, as it is
reported, is the failure of the reading. -/
def Obeys : Reading α → (List Inquiry → α → Prop) → Prop
  | done (.ok a), spec => spec [] a
  | done (.error _), _ => False
  | ask query next, spec =>
    ∃ report : Failure → Failure,
      (∀ cause, next (.error cause) = done (.error (report cause))) ∧
        ∀ answer, (next (.ok answer)).Obeys fun inquiries a =>
          spec (⟨query, answer, report⟩ :: inquiries) a

theorem Obeys.pure {spec : List Inquiry → α → Prop} {a : α} (h : spec [] a) :
    Obeys (pure a : Reading α) spec := h

/-- A single question. -/
theorem Obeys.query {query : Query} {wrap : Failure → Failure}
    {spec : List Inquiry → query.Answer → Prop}
    (h : ∀ answer, spec [⟨query, answer, wrap⟩] answer) :
    Obeys (Reading.query query wrap) spec :=
  ⟨wrap, fun _ => rfl, h⟩

/-- One reading after another. -/
theorem Obeys.bind {reading : Reading α} {next : α → Reading β}
    {spec : List Inquiry → β → Prop}
    (h : reading.Obeys fun inquiries a =>
      (next a).Obeys fun more b => spec (inquiries ++ more) b) :
    (reading.bind next).Obeys spec := by
  induction reading generalizing spec with
  | done result =>
    cases result with
    | ok a => exact h
    | error cause => exact h.elim
  | ask query rest ih =>
    rcases h with ⟨report, hfails, hnext⟩
    refine ⟨report, fun cause => ?_, fun answer => ih _ (hnext answer)⟩
    show (rest (.error cause)).bind next = _
    rw [hfails cause]
    rfl

end Reading

/-! ## Passes that obey a specification -/

namespace Pass

/-- Whatever the answers are, a pass whose output takes every entry has such tasks as
`spec` says, one after another.  A question that is not answered is the last one, and its
failure, as it is reported, is the failure of the pass. -/
def Obeys : Pass → (List Task → Prop) → Prop
  | done, spec => spec []
  | failed _, _ => False
  | ask query next, spec =>
    ∃ report : Failure → Failure, (∀ cause, next (.error cause) = failed (report cause)) ∧
      ∀ answer, (next (.ok answer)).Obeys fun tasks =>
        spec (.inquire ⟨query, answer, report⟩ :: tasks)
  | emit entry next, spec => next.Obeys fun tasks => spec (.send entry :: tasks)
  | count _ next, spec => next.Obeys spec

/-- A reading, and what follows from its result. -/
theorem Obeys.read {α : Type} {reading : Reading α} {next : α → Pass} {spec : List Task → Prop}
    (h : reading.Obeys fun inquiries a =>
      (next a).Obeys fun tasks => spec (inquiries.map .inquire ++ tasks)) :
    (read reading next).Obeys spec := by
  induction reading generalizing spec with
  | done result =>
    cases result with
    | ok a => exact h
    | error cause => exact h.elim
  | ask query rest ih =>
    rcases h with ⟨report, hfails, hnext⟩
    refine ⟨report, fun cause => ?_, fun answer => ih _ (hnext answer)⟩
    show Pass.read (rest (.error cause)) next = _
    rw [hfails cause]
    rfl

/-- Some entries, and what follows them. -/
theorem Obeys.emitAll {entries : List IndexEntry} {next : Pass} {spec : List Task → Prop}
    (h : next.Obeys fun tasks => spec (entries.map .send ++ tasks)) :
    (emitAll entries next).Obeys spec := by
  induction entries generalizing spec with
  | nil => exact h
  | cons entry entries ih => exact ih h

/-- With some answers a pass that obeys a specification comes to its end. -/
theorem Obeys.exists_leads {pass : Pass} {spec : List Task → Prop} (h : pass.Obeys spec) :
    ∃ tasks events, spec tasks ∧ Leads pass events .done := by
  induction pass generalizing spec with
  | done => exact ⟨[], [], h, .refl _⟩
  | failed cause => exact h.elim
  | ask query next ih =>
    rcases h with ⟨report, -, hnext⟩
    rcases ih _ (hnext default) with ⟨tasks, events, htasks, hleads⟩
    exact ⟨_, _, htasks, .ask _ hleads⟩
  | emit entry next ih =>
    rcases ih h with ⟨tasks, events, htasks, hleads⟩
    exact ⟨_, _, htasks, .emit hleads⟩
  | count counter next ih =>
    rcases ih h with ⟨tasks, events, htasks, hleads⟩
    exact ⟨tasks, _, htasks, .count hleads⟩

end Pass

/-! ## Surveys -/

/-- What a worker is told of a slice: the slice, the keys of its base file, and the blocks of
each of its log files, by their place among those that are live. -/
structure SliceSurvey where
  slice : FileSlice
  base : List RecordKey := []
  blocks : Nat → List LogBlock := fun _ => []

/-- What a worker is told of a partition: its path, and its slices. -/
structure PartitionSurvey where
  path : String
  slices : List SliceSurvey

/-- What a worker is told in a load: the latest commit, and if there is one, the schema and
the partitions. -/
structure Survey where
  latest : Option Instant
  schema : Schema := default
  partitions : List PartitionSurvey := []

namespace FileSlice

variable (live : FileSlice)

/-- The inquiry for the base file of a live slice, if it has one. -/
def baseInquiry (base : List RecordKey) : List Inquiry :=
  live.baseFile.toList.map fun file => ⟨.baseKeys file.path, base, .baseFile file.path⟩

/-- The inquiries for the log files of a live slice, in their order.  A failure names all of
them. -/
def logInquiries (schema : Schema) (blocks : Nat → List LogBlock) : List Inquiry :=
  live.logFiles.mapIdx fun place file =>
    ⟨.logBlocks file.path schema, blocks place, .logFiles (live.logFiles.map (·.path))⟩

/-- The inquiries for the files of a live slice ask for its base file and its log files. -/
theorem map_query_inquiries (schema : Schema) (base : List RecordKey)
    (blocks : Nat → List LogBlock) :
    (live.baseInquiry base ++ live.logInquiries schema blocks).map (·.query) =
      (live.baseFile.toList.map fun file => .baseKeys file.path) ++
        live.logFiles.map fun file => .logBlocks file.path schema := by
  have hlogs : (live.logInquiries schema blocks).map (·.query) =
      live.logFiles.map fun file => .logBlocks file.path schema := by
    apply List.ext_getElem
    · simp [logInquiries]
    · simp [logInquiries]
  rw [List.map_append, hlogs, baseInquiry, List.map_map]
  rfl

/-- The keys of the base file of a live slice; none if it has no base file. -/
def toldBase (base : List RecordKey) : List RecordKey :=
  if live.baseFile.isSome then base else []

/-- The blocks of the log files of a live slice, one file after another. -/
def toldBlocks (blocks : Nat → List LogBlock) : List LogBlock :=
  (live.logFiles.mapIdx fun place _ => blocks place).flatten

/-- The keys that are alive in a live slice, by what its files hold. -/
def toldKeys (asOf : Instant) (base : List RecordKey) (blocks : Nat → List LogBlock) :
    List RecordKey :=
  aliveKeys (live.toldBase base) (.ofBlocks asOf (live.toldBlocks blocks)) live.partition

end FileSlice

namespace SliceSurvey

/-- The stop of a worker at a live slice of its own: its files are read, and an entry is sent
for each key that is alive. -/
def stop (told : SliceSurvey) (live : FileSlice) (schema : Schema) (asOf : Instant) : Stop where
  inquiries := live.baseInquiry told.base ++ live.logInquiries schema told.blocks
  entries := (live.toldKeys asOf told.base told.blocks).map (.of · live)

/-- The stops of a worker at a slice: one if the slice is live and the worker's own. -/
def stops (told : SliceSurvey) (layout : Layout) (schema : Schema) (asOf : Instant) :
    List Stop :=
  (told.slice.live?.filter fun live => layout.owns live.fileGroup).toList.map fun live =>
    told.stop live schema asOf

end SliceSurvey

/-- The stops of a worker at a partition: its slices are listed, and those of the worker are
loaded. -/
def PartitionSurvey.stops (told : PartitionSurvey) (layout : Layout) (schema : Schema)
    (asOf : Instant) : List Stop :=
  .ask (.slices told.path asOf) (told.slices.map (·.slice)) ::
    told.slices.flatMap (·.stops layout schema asOf)

/-- The way of a worker through a table. -/
def Survey.stops (told : Survey) (layout : Layout) (filter : Regex) : List Stop :=
  .ask .latestInstant told.latest ::
    match told.latest with
    | none => []
    | some asOf =>
      .ask .schema told.schema :: .ask .partitions (told.partitions.map (·.path)) ::
        (told.partitions.filter fun partition => filter.occurs partition.path).flatMap
          (·.stops layout told.schema asOf)

/-! ## The way of a load -/

/-- The base file of a live slice is read, if it has one. -/
theorem obeys_baseKeys {live : FileSlice} (hlive : live.completeBase? = live.baseFile)
    {spec : List Inquiry → List RecordKey → Prop}
    (h : ∀ base, spec (live.baseInquiry base) (live.toldBase base)) :
    live.baseKeys.Obeys spec := by
  unfold FileSlice.baseKeys
  rw [hlive]
  simp only [FileSlice.baseInquiry, FileSlice.toldBase] at h
  cases hfile : live.baseFile with
  | none =>
    simp only [hfile] at h
    exact .pure (h [])
  | some file =>
    simp only [hfile] at h
    exact .query h

/-- Log files are read one after another. -/
theorem obeys_readLogs {all : List String} {schema : Schema} {files : List LogFile}
    {spec : List Inquiry → List LogBlock → Prop}
    (h : ∀ blocks : Nat → List LogBlock,
      spec (files.mapIdx fun place file =>
          ⟨.logBlocks file.path schema, blocks place, .logFiles all⟩)
        (files.mapIdx fun place _ => blocks place).flatten) :
    (readLogs all schema (files.map (·.path))).Obeys spec := by
  induction files generalizing spec with
  | nil => exact .pure (h fun _ => [])
  | cons file files ih =>
    refine .bind (.query fun (first : List LogBlock) => .bind (ih fun later => .pure ?_))
    have hspec := h fun place => if place = 0 then first else later (place - 1)
    simpa [List.mapIdx_cons] using hspec

/-- All files of a slice without empty files are read, and its keys are found by what they
hold. -/
theorem obeys_keys_of_complete {live : FileSlice} (hbase : live.completeBase? = live.baseFile)
    (hlogs : live.completeLogs = live.logFiles) {schema : Schema} {asOf : Instant}
    {spec : List Inquiry → List RecordKey → Prop}
    (h : ∀ base blocks, spec (live.baseInquiry base ++ live.logInquiries schema blocks)
      (live.toldKeys asOf base blocks)) :
    (live.keys schema asOf).Obeys spec := by
  rw [FileSlice.keys_eq, hlogs]
  refine .bind (obeys_baseKeys hbase fun base => .bind (obeys_readLogs fun blocks => .pure ?_))
  rw [List.append_nil]
  exact h base blocks

/-- So are all files of a live slice. -/
theorem obeys_keys {slice live : FileSlice} (hlive : slice.live? = some live) {schema : Schema}
    {asOf : Instant} {spec : List Inquiry → List RecordKey → Prop}
    (h : ∀ base blocks, spec (live.baseInquiry base ++ live.logInquiries schema blocks)
      (live.toldKeys asOf base blocks)) :
    (live.keys schema asOf).Obeys spec := by
  have hpruned : live = slice.pruned := FileSlice.eq_pruned_of_live hlive
  have hbase : live.completeBase? = live.baseFile := by
    rw [hpruned, FileSlice.completeBase?_pruned]
    rfl
  have hlogs : live.completeLogs = live.logFiles := by
    rw [hpruned, FileSlice.completeLogs_pruned]
  exact obeys_keys_of_complete hbase hlogs h

namespace Pass

variable {layout : Layout} {filter : Regex} {schema : Schema} {asOf : Instant}

/-- Slices are passed one after another, and at each of those that are live and the worker's
own there is a stop. -/
theorem obeys_loadSlices {slices : List FileSlice} {next : Pass} {spec : List Task → Prop}
    (h : ∀ told : List SliceSurvey, told.map (·.slice) = slices →
      next.Obeys fun tasks =>
        spec (Stop.allTasks (told.flatMap (·.stops layout schema asOf)) ++ tasks)) :
    (loadSlices layout schema asOf (slices.filterMap (·.live?)) next).Obeys spec := by
  induction slices generalizing spec with
  | nil => exact h [] rfl
  | cons slice slices ih =>
    -- A slice without a stop is told without files.
    have hskip : (slice.live?.filter fun live => layout.owns live.fileGroup) = none →
        (loadSlices layout schema asOf (slices.filterMap (·.live?)) next).Obeys spec := by
      intro hnone
      refine ih fun told htold => ?_
      have hspec := h ({ slice } :: told) (by simp [htold])
      simpa [SliceSurvey.stops, Stop.allTasks, hnone] using hspec
    cases hlive : slice.live? with
    | none =>
      rw [List.filterMap_cons_none hlive]
      exact hskip (by simp [hlive])
    | some live =>
      rw [List.filterMap_cons_some hlive, loadSlices]
      by_cases howns : layout.owns live.fileGroup
      · simp only [howns, if_true, loadSlice]
        refine .read (obeys_keys hlive fun base blocks => ?_)
        refine .emitAll (ih fun told htold => ?_)
        have hspec := h (⟨slice, base, blocks⟩ :: told) (by simp [htold])
        simpa [SliceSurvey.stops, hlive, Option.filter_some, howns, SliceSurvey.stop, Stop.allTasks,
          Stop.tasks]
          using hspec
      · simp only [howns, Bool.false_eq_true, if_false]
        exact hskip (by simp [hlive, howns])

/-- Partitions are passed one after another, and at each of those that the filter lets
through the worker stops. -/
theorem obeys_loadPartitions {partitions : List String} {next : Pass} {spec : List Task → Prop}
    (h : ∀ told : List PartitionSurvey, told.map (·.path) = partitions →
      next.Obeys fun tasks =>
        spec (Stop.allTasks ((told.filter fun partition => filter.occurs partition.path).flatMap
          (·.stops layout schema asOf)) ++ tasks)) :
    (loadPartitions layout filter schema asOf partitions next).Obeys spec := by
  induction partitions generalizing spec with
  | nil => exact h [] rfl
  | cons partition partitions ih =>
    rw [loadPartitions]
    by_cases hoccurs : filter.occurs partition
    · simp only [hoccurs, if_true]
      refine .read (.bind (.query fun slices => .pure ?_))
      refine obeys_loadSlices fun first hfirst => ih fun told htold => ?_
      have hspec := h (⟨partition, first⟩ :: told) (by simp [htold])
      simpa [hoccurs, PartitionSurvey.stops, Stop.allTasks, hfirst] using hspec
    · simp only [hoccurs, Bool.false_eq_true, if_false]
      refine ih fun told htold => ?_
      have hspec := h (⟨partition, []⟩ :: told) (by simp [htold])
      simpa [hoccurs] using hspec

/-- Whatever it is told, a worker goes the way that a survey settles. -/
theorem obeys_load (layout : Layout) (filter : Regex) :
    (load layout filter).Obeys fun tasks =>
      ∃ told : Survey, tasks = Stop.allTasks (told.stops layout filter) := by
  refine .read (.query fun (latest : Option Instant) => ?_)
  cases latest with
  | none => exact ⟨⟨none, default, []⟩, rfl⟩
  | some asOf =>
    refine .read (.query fun schema => .read (.query fun partitions => ?_))
    refine obeys_loadPartitions fun told htold => ?_
    refine ⟨⟨some asOf, schema, told⟩, ?_⟩
    rw [List.append_nil, ← htold]
    rfl

end Pass

end KeyIndex
