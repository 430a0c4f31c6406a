import KeyIndex.Proofs.Pass.Course
import KeyIndex.Proofs.Table.Keys
import KeyIndex.Proofs.Table.Reading

/-!
# What concerns a worker

A file concerns a worker if a slice that the worker owns refers to it.  The other files of
a table may hold anything, or may not be readable at all: in its load a worker asks for
none of them, so that two tables with the same answers to all that concerns it are one
table for the worker.

Main results:

- Definitions `Table.Concerns`, `Table.SameFor`: what concerns a worker, and tables that
  are the same for it.
- Theorem `Table.SameFor.symm`: what is the same for a worker is so the other way round.
- Theorem `Pass.concerns_of_mem_asked`: a load asks for nothing else.
-/

namespace KeyIndex

/-- Whether a question is one for what is in a file. -/
def Query.isFile : Query → Bool
  | baseKeys _ => true
  | logBlocks .. => true
  | _ => false

/-- A slice refers to the file that a question is for. -/
def FileSlice.Refers (slice : FileSlice) : Query → Prop
  | .baseKeys path => ∃ file ∈ slice.baseFile, file.path = path
  | .logBlocks path _ => ∃ file ∈ slice.logFiles, file.path = path
  | _ => False

namespace Table

/-- A table holds a slice: it stands in an answer to a question for the slices of some
partition. -/
def Holds (table : Table) (slice : FileSlice) : Prop :=
  ∃ partition asOf, ∃ slices : List FileSlice,
    table.answer (.slices partition asOf) = .ok slices ∧ slice ∈ slices

/-- A question concerns a worker.  One for what is in a file does so only if the table holds a
slice of the worker that refers to the file; all others do. -/
def Concerns (table : Table) (layout : Layout) (query : Query) : Prop :=
  query.isFile →
    ∃ slice, table.Holds slice ∧ layout.owns slice.fileGroup ∧ slice.Refers query

/-- Two tables are the same for a worker: they give the same answers to all questions that
concern it. -/
def SameFor (table other : Table) (layout : Layout) : Prop :=
  ∀ query, table.Concerns layout query → other.answer query = table.answer query

variable {table other : Table} {layout : Layout}

/-- Tables that are the same for a worker hold the same slices. -/
theorem SameFor.holds_iff (h : table.SameFor other layout) (slice : FileSlice) :
    other.Holds slice ↔ table.Holds slice := by
  have hanswer : ∀ partition asOf,
      other.answer (.slices partition asOf) = table.answer (.slices partition asOf) :=
    fun partition asOf => h _ fun hfile => by cases hfile
  simp only [Holds, hanswer]

/-- What is the same for a worker is so the other way round. -/
theorem SameFor.symm (h : table.SameFor other layout) : other.SameFor table layout := by
  intro query hconcerns
  refine (h query fun hfile => ?_).symm
  rcases hconcerns hfile with ⟨slice, hholds, howns, hrefers⟩
  exact ⟨slice, (h.holds_iff slice).mp hholds, howns, hrefers⟩

end Table

/-! ## What is asked for a slice -/

/-- For some log files the blocks of each of them are asked for, and nothing else. -/
theorem exists_of_mem_readLogs {table : Table} {all paths : List String} {schema : Schema}
    {query : Query} (h : query ∈ ((readLogs all schema paths).run table).2) :
    ∃ path ∈ paths, query = .logBlocks path schema := by
  induction paths with
  | nil => exact absurd h Reading.not_mem_run_pure
  | cons path paths ih =>
    rcases Reading.mem_run_bind h with hfirst | ⟨first, -, hrest⟩
    · exact ⟨path, List.mem_cons_self, Reading.eq_of_mem_run_query hfirst⟩
    · rcases Reading.mem_run_bind hrest with hlater | ⟨later, -, hdone⟩
      · rcases ih hlater with ⟨other, hmem, hquery⟩
        exact ⟨other, List.mem_cons_of_mem _ hmem, hquery⟩
      · exact absurd hdone Reading.not_mem_run_pure

namespace FileSlice

/-- For the base file of a slice nothing is asked but what is in it. -/
theorem refers_of_mem_baseKeys {table : Table} {slice : FileSlice} {query : Query}
    (h : query ∈ (slice.baseKeys.run table).2) : slice.Refers query := by
  unfold baseKeys at h
  split at h
  · exact absurd h Reading.not_mem_run_pure
  · rename_i file hfile
    rw [Reading.eq_of_mem_run_query h]
    exact ⟨file, (Option.filter_eq_some_iff.mp hfile).1, rfl⟩

/-- For the keys of a slice nothing is asked but what is in its files. -/
theorem refers_of_mem_keys {table : Table} {slice : FileSlice} {schema : Schema} {asOf : Instant}
    {query : Query} (h : query ∈ ((slice.keys schema asOf).run table).2) : slice.Refers query := by
  rw [keys_eq] at h
  rcases Reading.mem_run_bind h with hbase | ⟨base, -, hrest⟩
  · exact refers_of_mem_baseKeys hbase
  · rcases Reading.mem_run_bind hrest with hlogs | ⟨blocks, -, hdone⟩
    · rcases exists_of_mem_readLogs hlogs with ⟨path, hmem, rfl⟩
      rcases List.mem_map.mp hmem with ⟨file, hfile, rfl⟩
      exact ⟨file, (List.mem_filter.mp hfile).1, rfl⟩
    · exact absurd hdone Reading.not_mem_run_pure

/-- The live part of a slice has no other files than the slice. -/
theorem Refers.of_live {slice live : FileSlice} {query : Query} (hlive : slice.live? = some live)
    (h : live.Refers query) : slice.Refers query := by
  rw [eq_pruned_of_live hlive] at h
  cases query with
  | baseKeys path =>
    rcases h with ⟨file, hfile, rfl⟩
    exact ⟨file, (Option.filter_eq_some_iff.mp hfile).1, rfl⟩
  | logBlocks path schema =>
    rcases h with ⟨file, hfile, rfl⟩
    exact ⟨file, (List.mem_filter.mp (List.mem_mergeSort.mp hfile)).1, rfl⟩
  | _ => exact h

end FileSlice

/-! ## What is asked in a load -/

namespace Pass

variable {table other : Table} {layout : Layout} {filter : Regex} {schema : Schema}
  {asOf : Instant} {query : Query}

/-- What is asked in a reading and what follows from it. -/
theorem mem_asked_read {α : Type} {reading : Reading α} {next : α → Pass}
    (h : query ∈ (read reading next).asked table) :
    query ∈ (reading.run table).2 ∨
      ∃ a, (reading.run table).1 = .ok a ∧ query ∈ (next a).asked table := by
  rw [asked, events_read, Event.queries_append, Event.queries_map_ofQuery] at h
  rcases List.mem_append.mp h with hreading | hnext
  · exact .inl hreading
  · cases hrun : (reading.run table).1 with
    | ok a =>
      rw [hrun] at hnext
      exact .inr ⟨a, rfl, hnext⟩
    | error cause =>
      rw [hrun] at hnext
      cases hnext

/-- For some slices nothing is asked but what is in files of those of the worker. -/
theorem exists_of_mem_loadSlices {slices : List FileSlice} {next : Pass}
    (h : query ∈ (loadSlices layout schema asOf slices next).asked table) :
    (∃ slice ∈ slices, layout.owns slice.fileGroup ∧ slice.Refers query) ∨
      query ∈ next.asked table := by
  induction slices with
  | nil => exact .inr h
  | cons slice slices ih =>
    rw [loadSlices] at h
    have hlater : query ∈ (loadSlices layout schema asOf slices next).asked table →
        (∃ other ∈ slice :: slices, layout.owns other.fileGroup ∧ other.Refers query) ∨
          query ∈ next.asked table := by
      intro hrest
      rcases ih hrest with ⟨other, hmem, howns, hrefers⟩ | hnext
      · exact .inl ⟨other, List.mem_cons_of_mem _ hmem, howns, hrefers⟩
      · exact .inr hnext
    by_cases howns : layout.owns slice.fileGroup
    · simp only [howns, if_true, loadSlice] at h
      rcases mem_asked_read h with hkeys | ⟨keys, -, hrest⟩
      · exact .inl ⟨slice, List.mem_cons_self, howns, FileSlice.refers_of_mem_keys hkeys⟩
      · rw [asked_emitAll, asked_count] at hrest
        exact hlater hrest
    · simp only [howns, Bool.false_eq_true, if_false, asked_count] at h
      exact hlater h

/-- For the live slices of a partition its slices are asked for. -/
theorem eq_of_mem_liveSlices {partition : String}
    (h : query ∈ ((liveSlices partition asOf).run table).2) : query = .slices partition asOf := by
  rcases Reading.mem_run_bind h with hslices | ⟨slices, -, hdone⟩
  · exact Reading.eq_of_mem_run_query hslices
  · exact absurd hdone Reading.not_mem_run_pure

/-- The live slices of a partition are live parts of slices that the table holds. -/
theorem exists_holds_of_liveSlices {partition : String} {lives : List FileSlice}
    (h : ((liveSlices partition asOf).run table).1 = .ok lives) {live : FileSlice}
    (hmem : live ∈ lives) : ∃ slice, table.Holds slice ∧ slice.live? = some live := by
  rcases Reading.run_bind_ok_iff.mp h with ⟨slices, hslices, hlives⟩
  cases hlives
  rcases List.mem_filterMap.mp hmem with ⟨slice, hslice, hlive⟩
  exact ⟨slice, ⟨partition, asOf, slices, Reading.run_query_ok_iff.mp hslices, hslice⟩, hlive⟩

/-- For some partitions nothing is asked but what concerns the worker. -/
theorem concerns_of_mem_loadPartitions {partitions : List String} {next : Pass}
    (h : query ∈ (loadPartitions layout filter schema asOf partitions next).asked table) :
    table.Concerns layout query ∨ query ∈ next.asked table := by
  induction partitions with
  | nil => exact .inr h
  | cons partition partitions ih =>
    rw [loadPartitions] at h
    by_cases hoccurs : filter.occurs partition
    · simp only [hoccurs, if_true] at h
      rcases mem_asked_read h with hslices | ⟨lives, hrun, hrest⟩
      · rw [eq_of_mem_liveSlices hslices]
        exact .inl fun hfile => by cases hfile
      · rcases exists_of_mem_loadSlices hrest with ⟨live, hmem, howns, hrefers⟩ | hnext
        · rcases exists_holds_of_liveSlices hrun hmem with ⟨slice, hholds, hlive⟩
          have hgroup : live.fileGroup = slice.fileGroup := by
            rw [FileSlice.eq_pruned_of_live hlive]
            rfl
          exact .inl fun _ => ⟨slice, hholds, hgroup ▸ howns, hrefers.of_live hlive⟩
        · exact ih hnext
    · simp only [hoccurs, Bool.false_eq_true, if_false, asked_count] at h
      exact ih h

/-- In its load a worker asks for nothing but what concerns it. -/
theorem concerns_of_mem_asked (h : query ∈ (load layout filter).asked table) :
    table.Concerns layout query := by
  rcases mem_asked_read h with hlatest | ⟨latest, -, hrest⟩
  · rw [Reading.eq_of_mem_run_query hlatest]
    exact fun hfile => by cases hfile
  cases latest with
  | none => cases hrest
  | some asOf =>
    rcases mem_asked_read hrest with hschema | ⟨schema, -, hlisting⟩
    · rw [Reading.eq_of_mem_run_query hschema]
      exact fun hfile => by cases hfile
    rcases mem_asked_read hlisting with hpartitions | ⟨partitions, -, hslices⟩
    · rw [Reading.eq_of_mem_run_query hpartitions]
      exact fun hfile => by cases hfile
    rcases concerns_of_mem_loadPartitions hslices with hconcerns | hdone
    · exact hconcerns
    · cases hdone

end Pass

end KeyIndex
