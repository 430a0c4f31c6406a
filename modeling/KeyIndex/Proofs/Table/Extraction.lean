import KeyIndex.Proofs.Pass.Survey
import KeyIndex.Proofs.Table.Alive

/-!
# How the keys of a slice are extracted

The files of a slice that hold something are read one after another, the base file first and
then the log files in their order, and the first file that cannot be read ends the extraction.
Whoever answers, there is a result: the keys by all that was read, or the failure, which names
the base file, or all log files, whichever of them was in the way.

Empty files are not read, so that it makes no difference whether they have been left out of the
slice before.

Main definitions:

- `FileSlice.Extraction`: what is asked and answered in an extraction, and what comes of it.

Main results:

- Theorem `FileSlice.course_keys_of_live`: the keys of a slice and of its live part.
- Theorem `Reading.Obeys.of_ends`: how a reading ends that obeys a specification.
- Theorem `FileSlice.extraction_of_respondent`: the keys of a slice, whoever answers.
-/

namespace KeyIndex

open LogBlock

/-! ## Slices and their live parts -/

namespace FileSlice

/-- If the log files of a slice are in the order of their versions, its keys and those of its
live part are extracted in the same way, whoever answers: the same is asked, and the same comes
of it, be it keys or a failure.  If the slice has no live part, nothing is asked, and there are
no keys. -/
theorem course_keys_of_live (slice : FileSlice) (schema : Schema) (asOf : Instant)
    (h : slice.logFiles.Pairwise (·.version ≤ ·.version)) :
    (∀ live, slice.live? = some live → ∀ respondent past,
      (live.keys schema asOf).course respondent past =
        (slice.keys schema asOf).course respondent past) ∧
      (slice.live? = none → ∀ respondent past,
        (slice.keys schema asOf).course respondent past = ([], .ok [])) := by
  constructor
  · intro live hlive respondent past
    rw [eq_pruned_of_live hlive, pruned_eq_complete h, keys_complete]
  · intro hnone respondent past
    rcases eq_nothing_of_live?_eq_none hnone with ⟨hbase, hlogs⟩
    rw [keys_of_nothing hbase hlogs]
    rfl

/-- A slice with an empty base file and an empty log file among its log files, two of which have
one version; and a slice with empty files only. -/
theorem course_keys_of_live_crashed :
    let slice : FileSlice := ⟨"p1", ⟨"fg-1"⟩, ⟨"001"⟩, some ⟨"b", 0⟩,
      [⟨"l1", 10, 1⟩, ⟨"l2", 0, 2⟩, ⟨"l3", 10, 2⟩]⟩
    let crashed : FileSlice := ⟨"p1", ⟨"fg-2"⟩, ⟨"001"⟩, some ⟨"c", 0⟩, [⟨"m", 0, 1⟩]⟩
    let live : FileSlice :=
      { slice with baseFile := none, logFiles := [⟨"l1", 10, 1⟩, ⟨"l3", 10, 2⟩] }
    (slice.logFiles.Pairwise (·.version ≤ ·.version) ∧ slice.live? = some live ∧
      ∀ respondent past, (live.keys .plain ⟨"003"⟩).course respondent past =
        (slice.keys .plain ⟨"003"⟩).course respondent past) ∧
    crashed.logFiles.Pairwise (·.version ≤ ·.version) ∧ crashed.live? = none ∧
      ∀ respondent past, (crashed.keys .plain ⟨"003"⟩).course respondent past = ([], .ok []) := by
  intro slice crashed live
  have hsorted : slice.logFiles.Pairwise (·.version ≤ ·.version) := by decide
  have hlive : slice.live? = some live := by
    rw [live?, pruned_eq_complete hsorted]
    rfl
  have hsorted' : crashed.logFiles.Pairwise (·.version ≤ ·.version) := by decide
  have hnone : crashed.live? = none := by
    rw [live?, pruned_eq_complete hsorted']
    rfl
  exact ⟨⟨hsorted, hlive, (slice.course_keys_of_live .plain ⟨"003"⟩ hsorted).1 live hlive⟩,
    hsorted', hnone, (crashed.course_keys_of_live .plain ⟨"003"⟩ hsorted').2 hnone⟩

end FileSlice

/-! ## How a reading ends -/

/-- An inquiry that is answered. -/
def Inquiry.response (inquiry : Inquiry) : Response := ⟨inquiry.query, .ok inquiry.answer⟩

namespace Reading

variable {α : Type} {reading : Reading α} {spec : List Inquiry → α → Prop}

/-- A reading that obeys a specification can be answered. -/
theorem Obeys.exists_spec (h : reading.Obeys spec) : ∃ inquiries a, spec inquiries a := by
  induction reading generalizing spec with
  | done result =>
    cases result with
    | ok a => exact ⟨[], a, h⟩
    | error cause => exact h.elim
  | ask query next ih =>
    rcases h with ⟨report, -, hnext⟩
    rcases ih _ (hnext default) with ⟨inquiries, a, hspec⟩
    exact ⟨_, a, hspec⟩

/-- A reading that obeys a specification ends when all its inquiries are answered, or at the
first one that is not, as the inquiry reports it. -/
theorem Obeys.of_ends {responses : List Response} {result : Except Failure α}
    (h : reading.Obeys spec) (hends : reading.Ends responses result) :
    (∃ inquiries a, spec inquiries a ∧ responses = inquiries.map (·.response) ∧
        result = .ok a) ∨
      ∃ answered inquiry rest a cause, spec (answered ++ inquiry :: rest) a ∧
        responses = answered.map (·.response) ++ [⟨inquiry.query, .error cause⟩] ∧
        result = .error (inquiry.report cause) := by
  induction hends generalizing spec with
  | done result =>
    cases result with
    | ok a => exact .inl ⟨[], a, h, rfl, rfl⟩
    | error cause => exact h.elim
  | @ask query next responses result answer hends ih =>
    rcases h with ⟨report, hfails, hnext⟩
    cases answer with
    | ok answer =>
      rcases ih (hnext answer) with ⟨inquiries, a, hspec, rfl, rfl⟩ |
        ⟨answered, inquiry, rest, a, cause, hspec, rfl, rfl⟩
      · exact .inl ⟨⟨query, answer, report⟩ :: inquiries, a, hspec, rfl, rfl⟩
      · exact .inr ⟨⟨query, answer, report⟩ :: answered, inquiry, rest, a, cause, hspec, rfl, rfl⟩
    | error cause =>
      rw [hfails cause] at hends
      cases hends
      -- What would have been asked next is made up: any answers do.
      rcases (hnext default).exists_spec with ⟨rest, a, hspec⟩
      exact .inr ⟨[], ⟨query, default, report⟩, rest, a, cause, hspec, rfl, rfl⟩

end Reading

/-! ## What is read -/

/-- The keys in a base file that was read. -/
def Response.rows : Response → List RecordKey
  | ⟨.baseKeys _, .ok rows⟩ => rows
  | _ => []

/-- The blocks in a log file that was read. -/
def Response.blocks : Response → List LogBlock
  | ⟨.logBlocks _ _, .ok blocks⟩ => blocks
  | _ => []

namespace FileSlice

variable (slice : FileSlice) (schema : Schema) (asOf : Instant)

/-- The questions for the files of a slice that hold something: its base file, and its log
files in their order. -/
def heldQueries : List Query :=
  (slice.completeBase?.toList.map fun file => .baseKeys file.path) ++
    slice.completeLogs.map fun file => .logBlocks file.path schema

/-- How the keys of a slice are extracted.  The files that hold something are asked for one
after another, and nothing else is asked.  All but the last one are answered; and if the last
one is not, the extraction fails.  The failure of a base file is reported with its path, and that
of a log file with the paths of all log files that hold something.  Otherwise all files have been
read, and the keys are those that are alive by what was in them. -/
structure Extraction (responses : List Response) (result : Except Failure (List RecordKey)) :
    Prop where
  in_order : responses.map (·.query) <+: slice.heldQueries schema
  stops : ∀ response ∈ responses.dropLast, response.answer.isOk
  fails_iff : (∃ failure, result = .error failure) ↔
    ∃ response ∈ responses, ∃ cause, response.answer = .error cause
  base_failure : ∀ path cause, ⟨.baseKeys path, .error cause⟩ ∈ responses →
    result = .error (.baseFile path cause)
  log_failure : ∀ path cause, ⟨.logBlocks path schema, .error cause⟩ ∈ responses →
    result = .error (.logFiles (slice.completeLogs.map (·.path)) cause)
  whole : ∀ keys, result = .ok keys →
    responses.map (·.query) = slice.heldQueries schema ∧
      Alive (responses.flatMap (·.rows)) (standing asOf (responses.flatMap (·.blocks)))
        slice.partition keys

variable {slice schema asOf} {base : List RecordKey} {blocks : Nat → List LogBlock}

/-! ## The inquiries for the files of a slice -/

/-- A failure to read a file is reported with its path if it is the base file, and with the
paths of all log files if it is one of these. -/
theorem report_of_mem {inquiry : Inquiry}
    (h : inquiry ∈ slice.baseInquiry base ++ slice.logInquiries schema blocks) :
    (∃ path, inquiry.query = .baseKeys path ∧ inquiry.report = .baseFile path) ∨
      ∃ path, inquiry.query = .logBlocks path schema ∧
        inquiry.report = .logFiles (slice.logFiles.map (·.path)) := by
  rcases List.mem_append.mp h with hbase | hlog
  · rcases List.mem_map.mp hbase with ⟨file, -, rfl⟩
    exact .inl ⟨file.path, rfl, rfl⟩
  · rcases List.mem_mapIdx.mp hlog with ⟨place, hplace, rfl⟩
    exact .inr ⟨_, rfl, rfl⟩

/-- The keys that were read are those in the base file. -/
theorem rows_of_inquiries :
    ((slice.baseInquiry base ++ slice.logInquiries schema blocks).map (·.response)).flatMap
      (·.rows) = slice.toldBase base := by
  have hlogs : ((slice.logInquiries schema blocks).map (·.response)).flatMap (·.rows) = [] := by
    rw [List.flatMap_map, List.flatMap_eq_nil_iff]
    intro inquiry hinquiry
    rcases List.mem_mapIdx.mp hinquiry with ⟨place, hplace, rfl⟩
    rfl
  rw [List.map_append, List.flatMap_append, hlogs, List.append_nil, baseInquiry, toldBase]
  cases slice.baseFile with
  | none => rfl
  | some file => exact List.append_nil base

/-- The blocks that were read are those in the log files, one file after another. -/
theorem blocks_of_inquiries :
    ((slice.baseInquiry base ++ slice.logInquiries schema blocks).map (·.response)).flatMap
      (·.blocks) = slice.toldBlocks blocks := by
  have hbase : ((slice.baseInquiry base).map (·.response)).flatMap (·.blocks) = [] := by
    rw [List.flatMap_map, List.flatMap_eq_nil_iff]
    intro inquiry hinquiry
    rcases List.mem_map.mp hinquiry with ⟨file, -, rfl⟩
    rfl
  have hlogs : ((slice.logInquiries schema blocks).map (·.response)).map (·.blocks) =
      slice.logFiles.mapIdx fun place _ => blocks place := by
    apply List.ext_getElem
    · simp [logInquiries]
    · intro place _ _
      simp only [logInquiries, List.getElem_map, List.getElem_mapIdx]
      rfl
  rw [List.map_append, List.flatMap_append, hbase, List.nil_append, toldBlocks, List.flatMap_def,
    hlogs]

/-- The inquiries for the files of a slice without its empty files ask for those that hold
something. -/
theorem queries_of_inquiries :
    (slice.complete.baseInquiry base ++ slice.complete.logInquiries schema blocks).map
      (·.query) = slice.heldQueries schema :=
  slice.complete.map_query_inquiries schema base blocks

/-! ## Extractions -/

/-- The questions of inquiries that are answered. -/
theorem map_query_response (inquiries : List Inquiry) :
    (inquiries.map (·.response)).map (·.query) = inquiries.map (·.query) :=
  List.map_map

/-- Inquiries that are answered are not in the way. -/
theorem isOk_of_mem_response {inquiries : List Inquiry} {response : Response}
    (h : response ∈ inquiries.map (·.response)) : response.answer.isOk := by
  rcases List.mem_map.mp h with ⟨inquiry, -, rfl⟩
  rfl

theorem ne_error_of_mem_response {inquiries : List Inquiry} {response : Response}
    (h : response ∈ inquiries.map (·.response)) (cause : Failure) :
    response.answer ≠ .error cause := by
  intro herror
  have hok := isOk_of_mem_response h
  rw [herror] at hok
  cases hok

/-- After inquiries that are answered, what is not answered is the last response. -/
theorem eq_last_of_error {answered : List Inquiry} {last response : Response} {cause : Failure}
    (h : response ∈ answered.map (·.response) ++ [last]) (herror : response.answer = .error cause) :
    response = last := by
  rcases List.mem_append.mp h with hanswered | hlast
  · exact absurd herror (ne_error_of_mem_response hanswered cause)
  · exact List.mem_singleton.mp hlast

/-- If all inquiries are answered, the keys are those that are alive. -/
theorem extraction_of_answered :
    slice.Extraction schema asOf
      ((slice.complete.baseInquiry base ++
        slice.complete.logInquiries schema blocks).map (·.response))
      (.ok (slice.complete.toldKeys asOf base blocks)) := by
  have hqueries : ((slice.complete.baseInquiry base ++
      slice.complete.logInquiries schema blocks).map (·.response)).map (·.query) =
        slice.heldQueries schema := by
    rw [map_query_response, queries_of_inquiries]
  refine ⟨hqueries ▸ List.prefix_rfl, ?_, ?_, ?_, ?_, ?_⟩
  · intro response hresponse
    exact isOk_of_mem_response (List.mem_of_mem_dropLast hresponse)
  · exact iff_of_false nofun fun ⟨_, hresponse, cause, herror⟩ =>
      ne_error_of_mem_response hresponse cause herror
  · exact fun path cause hresponse => absurd rfl (ne_error_of_mem_response hresponse cause)
  · exact fun path cause hresponse => absurd rfl (ne_error_of_mem_response hresponse cause)
  · rintro keys ⟨⟩
    rw [rows_of_inquiries, blocks_of_inquiries]
    exact ⟨hqueries, (LogView.tells_ofBlocks asOf _).alive _ _⟩

/-- If the next inquiry is not answered, the extraction fails as the inquiry reports it. -/
theorem extraction_of_unanswered {answered rest : List Inquiry} {inquiry : Inquiry}
    (h : answered ++ inquiry :: rest =
      slice.complete.baseInquiry base ++ slice.complete.logInquiries schema blocks)
    (cause : Failure) :
    slice.Extraction schema asOf
      (answered.map (·.response) ++ [⟨inquiry.query, .error cause⟩])
      (.error (inquiry.report cause)) := by
  have hreport : inquiry ∈
      slice.complete.baseInquiry base ++ slice.complete.logInquiries schema blocks := by
    rw [← h]
    exact List.mem_append_right _ List.mem_cons_self
  refine ⟨?_, ?_, ?_, ?_, ?_, nofun⟩
  · rw [← queries_of_inquiries, ← h, List.map_append, map_query_response, List.map_append]
    exact (List.prefix_append_right_inj _).mpr (List.cons_prefix_cons.mpr ⟨rfl, List.nil_prefix⟩)
  · rw [List.dropLast_concat]
    intro response hresponse
    exact isOk_of_mem_response hresponse
  · exact iff_of_true ⟨_, rfl⟩ ⟨_, List.mem_append_right _ List.mem_cons_self, _, rfl⟩
  · intro path failure hmem
    rcases inquiry with ⟨query, answer, report⟩
    cases eq_last_of_error hmem rfl
    rcases report_of_mem hreport with ⟨other, hquery, hreported⟩ | ⟨other, hquery, hreported⟩
    · cases hquery
      rw [hreported]
    · cases hquery
  · intro path failure hmem
    rcases inquiry with ⟨query, answer, report⟩
    cases eq_last_of_error hmem rfl
    rcases report_of_mem hreport with ⟨other, hquery, hreported⟩ | ⟨other, hquery, hreported⟩
    · cases hquery
    · rw [hreported]
      rfl

/-- Whoever answers, and whatever was answered before, the keys of a slice are extracted to an
end. -/
theorem extraction_of_respondent (slice : FileSlice) (schema : Schema) (asOf : Instant)
    (respondent : Respondent) (past : List Response) :
    slice.Extraction schema asOf ((slice.keys schema asOf).course respondent past).1
      ((slice.keys schema asOf).course respondent past).2 := by
  have hobeys : (slice.keys schema asOf).Obeys fun inquiries keys => ∃ base blocks,
      inquiries = slice.complete.baseInquiry base ++ slice.complete.logInquiries schema blocks ∧
        keys = slice.complete.toldKeys asOf base blocks := by
    rw [← keys_complete]
    exact obeys_keys_of_complete slice.completeBase?_complete slice.completeLogs_complete
      fun base blocks => ⟨base, blocks, rfl, rfl⟩
  rcases hobeys.of_ends ((slice.keys schema asOf).ends_course respondent past) with
    ⟨inquiries, keys, ⟨base, blocks, rfl, rfl⟩, hresponses, hresult⟩ |
    ⟨answered, inquiry, rest, keys, cause, ⟨base, blocks, hall, -⟩, hresponses, hresult⟩
  · rw [hresponses, hresult]
    exact extraction_of_answered
  · rw [hresponses, hresult]
    exact extraction_of_unanswered hall cause

/-- Where the first of two log files cannot be read, the second one is not asked for, and the
failure names both. -/
example :
    let slice : FileSlice := ⟨"p1", ⟨"fg-1"⟩, ⟨"001"⟩, some ⟨"b", 0⟩,
      [⟨"l1", 10, 1⟩, ⟨"l2", 0, 2⟩, ⟨"l3", 10, 3⟩]⟩
    (slice.keys .plain ⟨"003"⟩).course (fun _ _ => .error (.decode "corrupt")) [] =
      ([⟨.logBlocks "l1" .plain, .error (.decode "corrupt")⟩],
        .error (.logFiles ["l1", "l3"] (.decode "corrupt"))) := rfl

end FileSlice

end KeyIndex
