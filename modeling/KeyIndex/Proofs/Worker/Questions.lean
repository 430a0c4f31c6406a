import KeyIndex.Proofs.Worker.Life
import KeyIndex.Proofs.Worker.Output

/-!
# The questions of a worker

All that a worker asks in its life it asks in one pass, in an order that is settled by the
answers: the latest commit; if there is one, the schema and the partitions; and then, for
each partition that the filter lets through, its slices as of that commit, and the files
that hold something of each live slice of its own, the log files in the order of their
versions.  Where a question is not answered, it is the last one.

Main results:

- Definition `Survey.queries`: the questions that a worker asks, by what it is told.
- Theorem `Survey.query_inquiries`: these are the questions on its way.
- Theorem `Worker.Stands.exists_follows`: what a worker has asked so far.
- Theorem `Worker.questions_of_make`: the questions of a worker in any life.
-/

namespace KeyIndex

/-! ## The questions on a way -/

/-- Whether something of a slice is live. -/
def FileSlice.isLive (slice : FileSlice) : Bool := slice.live?.isSome

/-- The questions for the files of a slice that hold something: its base file, and its log
files in the order of their versions. -/
def FileSlice.fileQueries (slice : FileSlice) (schema : Schema) : List Query :=
  (slice.completeBase?.toList.map fun file => .baseKeys file.path) ++
    (slice.completeLogs.mergeSort fun a b => a.version ≤ b.version).map fun file =>
      .logBlocks file.path schema

/-- The questions for a partition: its slices, and then the files of each of them that is live
and the worker's own. -/
def PartitionSurvey.queries (told : PartitionSurvey) (layout : Layout) (schema : Schema)
    (asOf : Instant) : List Query :=
  .slices told.path asOf ::
    ((told.slices.map (·.slice)).filter fun slice =>
      slice.isLive && layout.owns slice.fileGroup).flatMap (·.fileQueries schema)

/-- The questions that a worker asks in a load, by what it is told. -/
def Survey.queries (told : Survey) (layout : Layout) (filter : Regex) : List Query :=
  .latestInstant ::
    match told.latest with
    | none => []
    | some asOf =>
      .schema :: .partitions ::
        (told.partitions.filter fun partition => filter.occurs partition.path).flatMap
          (·.queries layout told.schema asOf)

/-- The inquiries for the files of the live part of a slice ask for the files of the slice. -/
theorem FileSlice.query_inquiries {slice live : FileSlice} (hlive : slice.live? = some live)
    (schema : Schema) (base : List RecordKey) (blocks : Nat → List LogBlock) :
    (live.baseInquiry base ++ live.logInquiries schema blocks).map (·.query) =
      slice.fileQueries schema := by
  have hpruned : live = slice.pruned := eq_pruned_of_live hlive
  rw [map_query_inquiries, hpruned]
  rfl

/-- The inquiries at the stops at a slice, if there are any, ask for its files. -/
theorem SliceSurvey.query_inquiries (told : SliceSurvey) (layout : Layout) (schema : Schema)
    (asOf : Instant) :
    (Stop.allInquiries (told.stops layout schema asOf)).map (·.query) =
      if told.slice.isLive && layout.owns told.slice.fileGroup then
        told.slice.fileQueries schema
      else [] := by
  cases hlive : told.slice.live? with
  | none => simp [stops, FileSlice.isLive, hlive, Stop.allInquiries]
  | some live =>
    have hgroup : live.fileGroup = told.slice.fileGroup := by
      rw [FileSlice.eq_pruned_of_live hlive]
      rfl
    have hqueries := FileSlice.query_inquiries hlive schema told.base told.blocks
    by_cases howns : layout.owns told.slice.fileGroup
    · simpa [stops, FileSlice.isLive, hlive, Stop.allInquiries, Option.filter_some, hgroup, howns,
        stop] using hqueries
    · simp [stops, FileSlice.isLive, hlive, Stop.allInquiries, Option.filter_some, hgroup, howns]

/-- The inquiries at the stops at a partition ask for its slices and their files. -/
theorem PartitionSurvey.query_inquiries (told : PartitionSurvey) (layout : Layout)
    (schema : Schema) (asOf : Instant) :
    (Stop.allInquiries (told.stops layout schema asOf)).map (·.query) =
      told.queries layout schema asOf := by
  rw [stops, queries, Stop.allInquiries_cons, List.map_append]
  refine congrArg ([Query.slices told.path asOf] ++ ·) ?_
  induction told.slices with
  | nil => rfl
  | cons slice slices ih =>
    rw [List.flatMap_cons, Stop.allInquiries_append, List.map_append, ih,
      slice.query_inquiries layout schema asOf]
    by_cases hloads : slice.slice.isLive && layout.owns slice.slice.fileGroup <;> simp [hloads]

/-- The inquiries on the way of a worker are for the questions that it asks. -/
theorem Survey.query_inquiries (told : Survey) (layout : Layout) (filter : Regex) :
    (Stop.allInquiries (told.stops layout filter)).map (·.query) = told.queries layout filter := by
  rw [stops, queries]
  cases told.latest with
  | none => rfl
  | some asOf =>
    have hrest : ∀ partitions : List PartitionSurvey,
        (Stop.allInquiries (partitions.flatMap (·.stops layout told.schema asOf))).map (·.query) =
          partitions.flatMap (·.queries layout told.schema asOf) := by
      intro partitions
      induction partitions with
      | nil => rfl
      | cons partition partitions ih =>
        rw [List.flatMap_cons, Stop.allInquiries_append, List.map_append, ih,
          partition.query_inquiries layout told.schema asOf, List.flatMap_cons]
    simp only [Stop.allInquiries_cons, List.map_append, hrest]
    rfl

namespace Worker

open Exchange

variable {α : Type}

/-! ## What a worker has asked -/

/-- The exchanges with the table are inquiries, one after another, as far as they go; the last
one may be without an answer. -/
inductive Follows : List (Exchange α) → List Inquiry → Prop where
  | nil (inquiries : List Inquiry) : Follows [] inquiries
  | unanswered (inquiry : Inquiry) (inquiries : List Inquiry) (cause : Failure) :
      Follows [ask inquiry.query (.error cause)] (inquiry :: inquiries)
  | answered {inquiry : Inquiry} {inquiries : List Inquiry} {exchanges : List (Exchange α)} :
      Follows exchanges inquiries → Follows (ofInquiry inquiry :: exchanges) (inquiry :: inquiries)

/-- The questions in such exchanges are the first ones of the inquiries. -/
theorem Follows.queries_isPrefix {exchanges : List (Exchange α)} {inquiries : List Inquiry}
    (h : Follows exchanges inquiries) :
    queries exchanges <+: inquiries.map (·.query) := by
  induction h with
  | nil inquiries => exact List.nil_prefix
  | unanswered inquiry inquiries cause =>
    exact List.cons_prefix_cons.mpr ⟨rfl, List.nil_prefix⟩
  | answered _ ih => exact List.cons_prefix_cons.mpr ⟨rfl, ih⟩

/-- The first ones of some inquiries may all be answered. -/
theorem follows_append (answered rest : List Inquiry) :
    Follows (answered.map ofInquiry : List (Exchange α)) (answered ++ rest) := by
  induction answered with
  | nil => exact .nil rest
  | cons inquiry answered ih => exact .answered ih

/-- After the first ones have been answered, the next one may not be. -/
theorem follows_unanswered (answered rest : List Inquiry) (inquiry : Inquiry) (cause : Failure) :
    Follows (answered.map ofInquiry ++ [ask inquiry.query (.error cause)] : List (Exchange α))
      (answered ++ inquiry :: rest) := by
  induction answered with
  | nil => exact .unanswered inquiry rest cause
  | cons inquiry answered ih => exact .answered ih

/-- The exchanges with the table among tasks that are done are inquiries that are answered. -/
theorem asks_map_ofTask (tasks : List Task) :
    asks (tasks.map ofTask : List (Exchange α)) =
      (tasks.filterMap Task.inquiry?).map ofInquiry := by
  induction tasks with
  | nil => rfl
  | cons task tasks ih =>
    cases task with
    | inquire inquiry => exact congrArg (ofInquiry inquiry :: ·) ih
    | send entry => exact ih

/-- The questions of inquiries that are answered. -/
theorem queries_map_ofInquiry (inquiries : List Inquiry) :
    queries (inquiries.map ofInquiry : List (Exchange α)) = inquiries.map (·.query) := by
  simp [queries, List.filterMap_map, Function.comp_def, ofInquiry, query?, ask]

/-- What a worker has asked so far follows the inquiries on its way. -/
theorem Stands.exists_follows {layout : Layout} {filter : Regex} {worker : Worker α}
    {history : List (Exchange α)} (h : Stands (.load layout filter) worker history) :
    ∃ told : Survey, Follows (asks history) (Stop.allInquiries (told.stops layout filter)) ∧
      (worker.phase = .meeting ∨ worker.phase = .complete ∨ visits history ≠ [] →
        asks history = (Stop.allInquiries (told.stops layout filter)).map ofInquiry) := by
  rcases h.exists_leads with ⟨events, rest, hleads, hasks, hdone⟩
  rw [hasks]
  rcases (Pass.obeys_load layout filter).of_leads (α := α) hleads with
    ⟨front, hfront, hrest⟩ | ⟨front, inquiry, back, cause, ⟨told, htold⟩, hfront, hrest⟩
  · by_cases hmet : worker.phase = .meeting ∨ worker.phase = .complete ∨ visits history ≠ []
    · -- The whole pass has been made, so that nothing is left to be asked.
      rw [hdone hmet] at hrest
      rcases hrest with ⟨told, htold⟩
      have hinquiries := congrArg (List.filterMap Task.inquiry?) htold
      rw [List.append_nil, Stop.inquiries_allTasks] at hinquiries
      refine ⟨told, ?_, fun _ => ?_⟩
      · have hall := follows_append (α := α) (Stop.allInquiries (told.stops layout filter)) []
        rw [List.append_nil] at hall
        rw [hfront, asks_map_ofTask, hinquiries]
        exact hall
      · rw [hfront, asks_map_ofTask, hinquiries]
    · rcases hrest.exists_leads with ⟨back, -, ⟨told, htold⟩, -⟩
      have hinquiries := congrArg (List.filterMap Task.inquiry?) htold
      rw [List.filterMap_append, Stop.inquiries_allTasks] at hinquiries
      refine ⟨told, ?_, fun hnow => absurd hnow hmet⟩
      rw [hfront, asks_map_ofTask, ← hinquiries]
      exact follows_append _ _
  · have hinquiries := congrArg (List.filterMap Task.inquiry?) htold
    rw [List.filterMap_append, List.filterMap_cons, Stop.inquiries_allTasks] at hinquiries
    refine ⟨told, ?_, fun hmet => ?_⟩
    · rw [hfront, asks_append, asks_map_ofTask, ← hinquiries]
      exact follows_unanswered _ _ _ _
    · rw [hdone hmet] at hrest
      cases hrest

/-- All that a worker has asked in its life, if it could be made: by what it was told, it is the
first part of the questions of one load, and the whole of them if the worker has come to
the meeting; and each answer is what it was told. -/
theorem questions_of_make {engine : Regex.Engine} {layout : Layout} {settings : Settings}
    {worker last : Worker α} {deeds : List (Deed α)}
    (hmake : make engine layout settings = .ok worker)
    (hlives : worker.Lives deeds last) :
    ∃ told : Survey,
      queries (Deed.exchanges deeds) <+: told.queries layout worker.filter ∧
        Follows (asks (Deed.exchanges deeds))
          (Stop.allInquiries (told.stops layout worker.filter)) ∧
        (last.phase = .meeting ∨ last.phase = .complete ∨ visits (Deed.exchanges deeds) ≠ [] →
          queries (Deed.exchanges deeds) = told.queries layout worker.filter) := by
  rcases fresh_of_make hmake with ⟨hphase, hcall, rfl⟩
  have hstands := hlives.stands (stands_fresh hphase hcall)
  rw [List.nil_append] at hstands
  rcases hstands.exists_follows with ⟨told, hfollows, hdone⟩
  refine ⟨told, ?_, hfollows, fun hmet => ?_⟩
  · rw [← queries_asks, ← told.query_inquiries]
    exact hfollows.queries_isPrefix
  · rw [← queries_asks, hdone hmet, queries_map_ofInquiry, told.query_inquiries]

/-- A worker that has loaded the table with one entry has asked for its only file at last. -/
theorem questions_of_lone :
    make .builtin ⟨0, 1, 1⟩ .unpartitioned = .ok lone ∧
      ∃ (deeds : List (Deed Nat)) (last : Worker Nat) (told : Survey),
        lone.Lives deeds last ∧ last.phase = .meeting ∧
          told.queries ⟨0, 1, 1⟩ lone.filter = queries (Deed.exchanges deeds) ∧
          queries (Deed.exchanges deeds) = [.latestInstant, .schema, .partitions,
            .slices "" ⟨"20240101"⟩, .baseKeys "a"] := by
  have hmake : make .builtin ⟨0, 1, 1⟩ .unpartitioned = .ok lone := make_unpartitioned Nat ⟨0, 1, 1⟩
  have hresult : (Pass.load ⟨0, 1, 1⟩ .emptyText).result Contents.single.table = .ok () := by cbv
  have hasked : (Pass.load ⟨0, 1, 1⟩ .emptyText).asked Contents.single.table =
      [.latestInstant, .schema, .partitions, .slices "" ⟨"20240101"⟩, .baseKeys "a"] := by cbv
  obtain ⟨deeds, last, hlives, -, hphase, hqueries, -⟩ :=
    @exists_lives_of_load Nat lone _ rfl rfl hresult 7
  rcases questions_of_make hmake hlives with ⟨told, -, -, hdone⟩
  exact ⟨hmake, deeds, last, told, hlives, hphase, (hdone (.inl hphase)).symm,
    hqueries.trans hasked⟩

end Worker

end KeyIndex
