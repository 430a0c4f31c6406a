import KeyIndex.Proofs.Pass.Faults
import KeyIndex.Proofs.Table.Reading
import KeyIndex.Worker.Basic
import Mathlib.Data.List.Basic

/-!
# The share of a worker

What a table holds in its live slices, as of the latest commit, is split by the file
groups that the slices belong to.  The share of those who own some file groups is one
entry for each key that is alive in a slice of theirs: partition by partition in the
order of the listing, slice by slice in the order of the partition, key by key as they
are found.  A load that comes to its end has sent the share of the worker, and has
counted every partition and every slice once.

Main results:

- Definitions `Table.live`, `Table.share`: the live slices, and a share.
- Theorem `Pass.load_of_ok`: what a load sends is the share of its worker.
- Theorems `Pass.tally_load`, `Pass.tally_load_sum`: what a load has counted at its end.
-/

namespace KeyIndex

/-! ## What a table holds -/

namespace Table

/-- The latest commit, if the table names one. -/
def latest (table : Table) : Option Instant :=
  match table.answer .latestInstant with
  | .ok (some asOf) => some asOf
  | _ => none

/-- The schema that the table gives. -/
def schemaNow (table : Table) : Schema := (table.answer .schema).toOption.getD ⟨.null, []⟩

/-- The partitions that are listed, none if there is no commit. -/
def listed (table : Table) : List String :=
  if table.latest.isNone then [] else (table.answer .partitions).toOption.getD []

/-- The live slices of a partition as of an instant. -/
def liveIn (table : Table) (asOf : Instant) (partition : String) : List FileSlice :=
  ((liveSlices partition asOf).run table).1.toOption.getD []

/-- The keys that are found in a slice as of an instant. -/
def keysIn (table : Table) (schema : Schema) (asOf : Instant) (slice : FileSlice) :
    List RecordKey :=
  ((slice.keys schema asOf).run table).1.toOption.getD []

/-- One entry for each key that is found in a slice: the key as it is found, and where
its record lives. -/
def entriesIn (table : Table) (schema : Schema) (asOf : Instant) (slice : FileSlice) :
    List IndexEntry :=
  (table.keysIn schema asOf slice).map fun key =>
    ⟨key, ⟨key.partition, slice.baseInstant, slice.fileGroup⟩⟩

/-- The live slices, as of the latest commit, of the partitions that a filter lets
through. -/
def live (table : Table) (filter : Regex) : List FileSlice :=
  match table.latest with
  | none => []
  | some asOf => (table.listed.filter filter.occurs).flatMap (table.liveIn asOf)

/-- The entries of a slice as of the latest commit. -/
def entriesOf (table : Table) (slice : FileSlice) : List IndexEntry :=
  match table.latest with
  | none => []
  | some asOf => table.entriesIn table.schemaNow asOf slice

/-- The entries of the live slices of some file groups. -/
def share (table : Table) (filter : Regex) (owned : FileGroup → Bool) : List IndexEntry :=
  ((table.live filter).filter fun slice => owned slice.fileGroup).flatMap table.entriesOf

end Table

namespace Pass

variable {table : Table} {layout : Layout} {filter : Regex} {schema : Schema} {asOf : Instant}

/-! ## Slices -/

/-- What a worker counts for a slice. -/
def sliceCounter (layout : Layout) (slice : FileSlice) : Counter :=
  if layout.owns slice.fileGroup then .sliceLoaded else .sliceNotOwned

/-- A slice that has been loaded: its entries were sent, and it was counted. -/
theorem loadSlice_of_ok {slice : FileSlice} {next : Pass}
    (h : (loadSlice schema asOf slice next).result table = .ok ()) :
    next.result table = .ok () ∧
      (loadSlice schema asOf slice next).entries table =
        table.entriesIn schema asOf slice ++ next.entries table ∧
      (loadSlice schema asOf slice next).counters table =
        .sliceLoaded :: next.counters table := by
  rcases exists_of_read_ok h with ⟨keys, hkeys, hnext, hentries, hcounters⟩
  have hfound : table.keysIn schema asOf slice = keys := by
    simp [Table.keysIn, hkeys, Except.toOption]
  refine ⟨by simpa using hnext, ?_, ?_⟩
  · rw [loadSlice, hentries]
    simp [Table.entriesIn, hfound, IndexEntry.of]
  · rw [loadSlice, hcounters]
    simp

/-- Slices that have been loaded: of those of the worker the entries were sent, and each
slice was counted. -/
theorem loadSlices_of_ok {slices : List FileSlice} {next : Pass}
    (h : (loadSlices layout schema asOf slices next).result table = .ok ()) :
    next.result table = .ok () ∧
      (loadSlices layout schema asOf slices next).entries table =
        (slices.filter fun slice => layout.owns slice.fileGroup).flatMap
          (table.entriesIn schema asOf) ++ next.entries table ∧
      (loadSlices layout schema asOf slices next).counters table =
        slices.map (sliceCounter layout) ++ next.counters table := by
  induction slices with
  | nil => exact ⟨h, rfl, rfl⟩
  | cons slice slices ih =>
    by_cases howns : layout.owns slice.fileGroup
    · simp only [loadSlices, howns, if_true] at h ⊢
      rcases loadSlice_of_ok h with ⟨hrest, hentries, hcounters⟩
      rcases ih hrest with ⟨hnext, ihentries, ihcounters⟩
      refine ⟨hnext, ?_, ?_⟩
      · rw [hentries, ihentries]
        simp [howns]
      · rw [hcounters, ihcounters]
        simp [sliceCounter, howns]
    · simp only [loadSlices, howns, Bool.false_eq_true, if_false] at h ⊢
      rcases ih h with ⟨hnext, ihentries, ihcounters⟩
      refine ⟨hnext, ?_, ?_⟩
      · simpa [howns] using ihentries
      · simpa [sliceCounter, howns] using ihcounters

/-! ## Partitions -/

/-- What a worker counts for a partition and its slices. -/
def partitionCounters (table : Table) (layout : Layout) (filter : Regex) (asOf : Instant)
    (partition : String) : List Counter :=
  if filter.occurs partition then
    (table.liveIn asOf partition).map (sliceCounter layout) ++ [.partitionLoaded]
  else [.partitionSkipped]

/-- Partitions that have been loaded: of those that the filter lets through the slices
were loaded, and each partition was counted. -/
theorem loadPartitions_of_ok {partitions : List String} {next : Pass}
    (h : (loadPartitions layout filter schema asOf partitions next).result table = .ok ()) :
    next.result table = .ok () ∧
      (loadPartitions layout filter schema asOf partitions next).entries table =
        (((partitions.filter filter.occurs).flatMap (table.liveIn asOf)).filter
          fun slice => layout.owns slice.fileGroup).flatMap (table.entriesIn schema asOf) ++
            next.entries table ∧
      (loadPartitions layout filter schema asOf partitions next).counters table =
        partitions.flatMap (partitionCounters table layout filter asOf) ++
          next.counters table := by
  induction partitions with
  | nil => exact ⟨h, rfl, rfl⟩
  | cons partition partitions ih =>
    by_cases hoccurs : filter.occurs partition
    · simp only [loadPartitions, hoccurs, if_true] at h ⊢
      rcases exists_of_read_ok h with ⟨slices, hslices, hload, hread⟩
      have hlive : table.liveIn asOf partition = slices := by
        simp [Table.liveIn, hslices, Except.toOption]
      rcases loadSlices_of_ok hload with ⟨hrest, hentries, hcounters⟩
      rcases ih hrest with ⟨hnext, ihentries, ihcounters⟩
      refine ⟨hnext, ?_, ?_⟩
      · rw [hread.1, hentries, entries_count, ihentries]
        simp [hoccurs, hlive]
      · rw [hread.2, hcounters, counters_count, ihcounters]
        simp [partitionCounters, hoccurs, hlive]
    · simp only [loadPartitions, hoccurs, Bool.false_eq_true, if_false] at h ⊢
      rcases ih h with ⟨hnext, ihentries, ihcounters⟩
      refine ⟨hnext, ?_, ?_⟩
      · simpa [hoccurs] using ihentries
      · simpa [partitionCounters, hoccurs] using ihcounters

/-! ## The whole load -/

/-- What a load over a table counts, if it comes to its end. -/
def loadCounters (table : Table) (layout : Layout) (filter : Regex) : List Counter :=
  match table.latest with
  | none => []
  | some asOf => table.listed.flatMap (partitionCounters table layout filter asOf)

/-- A load that comes to its end has sent the share of its worker, and has counted each
partition and each slice. -/
theorem load_of_ok (h : (load layout filter).result table = .ok ()) :
    (load layout filter).entries table = table.share filter layout.owns ∧
      (load layout filter).counters table = loadCounters table layout filter := by
  rcases exists_of_read_ok h with ⟨latest, hlatest, hload, hentries, hcounters⟩
  have hanswer := Reading.run_query_ok_iff.mp hlatest
  cases latest with
  | none =>
    have hnone : table.latest = none := by simp [Table.latest, hanswer]
    rw [load, hentries, hcounters]
    simp [Table.share, Table.live, loadCounters, hnone, entries, counters, events]
  | some asOf =>
    have hsome : table.latest = some asOf := by simp [Table.latest, hanswer]
    rcases exists_of_read_ok hload with ⟨schema, hschema, hlisting, hreadSchema⟩
    rcases exists_of_read_ok hlisting with ⟨partitions, hpartitions, hrest, hreadListing⟩
    have hnow : table.schemaNow = schema := by
      rw [Table.schemaNow, Reading.run_query_ok_iff.mp hschema]
      rfl
    have hlisted : table.listed = partitions := by
      rw [Table.listed, hsome, Reading.run_query_ok_iff.mp hpartitions]
      rfl
    rcases loadPartitions_of_ok hrest with ⟨-, hsent, hcounted⟩
    have hof : table.entriesOf = table.entriesIn schema asOf := by
      funext slice
      simp [Table.entriesOf, hsome, hnow]
    refine ⟨?_, ?_⟩
    · rw [load, hentries, hreadSchema.1, hreadListing.1, hsent]
      simp [Table.share, Table.live, hsome, hlisted, hof, entries, events]
    · rw [load, hcounters, hreadSchema.2, hreadListing.2, hcounted]
      simp [loadCounters, hsome, hlisted, counters, events]

end Pass

/-! ## What is counted how often -/

/-- The tally after some things have been counted. -/
def Tally.countAll (tally : Tally) (counters : List Counter) : Tally :=
  counters.foldl Tally.count tally

/-- Some counters are counted after others. -/
theorem Tally.countAll_append (tally : Tally) (counters more : List Counter) :
    tally.countAll (counters ++ more) = (tally.countAll counters).countAll more :=
  List.foldl_append

/-- Each thing is counted as often as it stands there. -/
theorem Tally.countAll_eq (tally : Tally) (counters : List Counter) :
    tally.countAll counters =
      { tally with
        partitionsLoaded := tally.partitionsLoaded + counters.count .partitionLoaded
        partitionsSkipped := tally.partitionsSkipped + counters.count .partitionSkipped
        slicesLoaded := tally.slicesLoaded + counters.count .sliceLoaded
        slicesNotOwned := tally.slicesNotOwned + counters.count .sliceNotOwned } := by
  induction counters generalizing tally with
  | nil => rfl
  | cons counter counters ih =>
    show (tally.count counter).countAll counters = _
    rw [ih]
    cases counter <;> simp [Tally.count, Nat.add_comm, Nat.add_left_comm]

namespace Pass

variable {table : Table} {layout : Layout} {filter : Regex}

theorem count_sliceLoaded (slices : List FileSlice) :
    (slices.map (sliceCounter layout)).count .sliceLoaded =
      (slices.filter fun slice => layout.owns slice.fileGroup).length := by
  induction slices with
  | nil => rfl
  | cons slice slices ih =>
    by_cases howns : layout.owns slice.fileGroup <;> simp [sliceCounter, howns, ih]

theorem count_sliceNotOwned (slices : List FileSlice) :
    (slices.map (sliceCounter layout)).count .sliceNotOwned =
      (slices.filter fun slice => !layout.owns slice.fileGroup).length := by
  induction slices with
  | nil => rfl
  | cons slice slices ih =>
    by_cases howns : layout.owns slice.fileGroup <;> simp [sliceCounter, howns, ih]

/-- For a slice no partition is counted. -/
theorem count_partition_slices {counter : Counter} (hloaded : counter ≠ .sliceLoaded)
    (hnot : counter ≠ .sliceNotOwned) (slices : List FileSlice) :
    (slices.map (sliceCounter layout)).count counter = 0 := by
  rw [List.count_eq_zero, List.mem_map]
  rintro ⟨slice, -, rfl⟩
  by_cases howns : layout.owns slice.fileGroup
  · exact hloaded (if_pos howns)
  · exact hnot (if_neg howns)

/-- The partitions that are counted as loaded are those that the filter lets through. -/
theorem count_partitionLoaded_load :
    (loadCounters table layout filter).count .partitionLoaded =
      (table.listed.filter filter.occurs).length := by
  unfold loadCounters
  cases hlatest : table.latest with
  | none => simp [Table.listed, hlatest]
  | some asOf =>
    dsimp only
    induction table.listed with
    | nil => rfl
    | cons partition partitions ih =>
      have hslices : ∀ slices : List FileSlice,
          (slices.map (sliceCounter layout)).count .partitionLoaded = 0 :=
        count_partition_slices (by decide) (by decide)
      by_cases hoccurs : filter.occurs partition <;>
        simp [partitionCounters, hoccurs, hslices, ih, Nat.add_comm]

/-- The partitions that are counted as skipped are the others. -/
theorem count_partitionSkipped_load :
    (loadCounters table layout filter).count .partitionSkipped =
      (table.listed.filter fun partition => !filter.occurs partition).length := by
  unfold loadCounters
  cases hlatest : table.latest with
  | none => simp [Table.listed, hlatest]
  | some asOf =>
    dsimp only
    induction table.listed with
    | nil => rfl
    | cons partition partitions ih =>
      have hslices : ∀ slices : List FileSlice,
          (slices.map (sliceCounter layout)).count .partitionSkipped = 0 :=
        count_partition_slices (by decide) (by decide)
      by_cases hoccurs : filter.occurs partition <;>
        simp [partitionCounters, hoccurs, hslices, ih, Nat.add_comm]

/-- The slices that are counted as loaded are the live ones of the worker. -/
theorem count_sliceLoaded_load :
    (loadCounters table layout filter).count .sliceLoaded =
      ((table.live filter).filter fun slice => layout.owns slice.fileGroup).length := by
  unfold loadCounters Table.live
  cases hlatest : table.latest with
  | none => rfl
  | some asOf =>
    dsimp only
    induction table.listed with
    | nil => rfl
    | cons partition partitions ih =>
      by_cases hoccurs : filter.occurs partition <;>
        simp [partitionCounters, hoccurs, count_sliceLoaded, ih]

/-- The slices that are counted as those of other workers are the other live ones. -/
theorem count_sliceNotOwned_load :
    (loadCounters table layout filter).count .sliceNotOwned =
      ((table.live filter).filter fun slice => !layout.owns slice.fileGroup).length := by
  unfold loadCounters Table.live
  cases hlatest : table.latest with
  | none => rfl
  | some asOf =>
    dsimp only
    induction table.listed with
    | nil => rfl
    | cons partition partitions ih =>
      by_cases hoccurs : filter.occurs partition <;>
        simp [partitionCounters, hoccurs, count_sliceNotOwned, ih]

/-- The tally of a pass over a table, with nothing counted before. -/
def tally (table : Table) (pass : Pass) : Tally := Tally.countAll {} (pass.counters table)

/-- A load that comes to its end has counted the partitions that the filter lets
through, the other ones, the live slices of the worker, and the other ones. -/
theorem tally_load (h : (load layout filter).result table = .ok ()) :
    (load layout filter).tally table =
      { partitionsLoaded := (table.listed.filter filter.occurs).length
        partitionsSkipped := (table.listed.filter fun partition => !filter.occurs partition).length
        slicesLoaded :=
          ((table.live filter).filter fun slice => layout.owns slice.fileGroup).length
        slicesNotOwned :=
          ((table.live filter).filter fun slice => !layout.owns slice.fileGroup).length } := by
  rw [tally, Tally.countAll_eq, (load_of_ok h).2, count_partitionLoaded_load,
    count_partitionSkipped_load, count_sliceLoaded_load, count_sliceNotOwned_load]
  simp

/-- A load that comes to its end has counted each listed partition once, and each live
slice once. -/
theorem tally_load_sum (h : (load layout filter).result table = .ok ()) :
    ((load layout filter).tally table).partitionsLoaded +
        ((load layout filter).tally table).partitionsSkipped = table.listed.length ∧
      ((load layout filter).tally table).slicesLoaded +
        ((load layout filter).tally table).slicesNotOwned = (table.live filter).length := by
  rw [tally_load h]
  constructor
  · show (table.listed.filter filter.occurs).length +
      (table.listed.filter fun partition => !filter.occurs partition).length = _
    rw [← List.length_eq_length_filter_add filter.occurs]
  · show ((table.live filter).filter fun slice => layout.owns slice.fileGroup).length +
      ((table.live filter).filter fun slice => !layout.owns slice.fileGroup).length = _
    rw [← List.length_eq_length_filter_add fun slice : FileSlice => layout.owns slice.fileGroup]

end Pass

end KeyIndex
