import KeyIndex.Proofs.Pass.Share
import KeyIndex.Proofs.Table.Later
import KeyIndex.Proofs.Worker.Make
import KeyIndex.Table.Contents
import Mathlib

/-!
# Loads over a table that grows

While a worker loads its share as of the latest commit, writers may put later blocks into
log files and add log files to slices.  Nothing of that is in what the worker sends: its
load over the table that has grown comes to its end as well, and sends the same entries in
the same order.  Only a slice that was not live may be live now, without a key that is
alive.

Main results:

- Definition `Pass.Repeats`: a pass over one table sends what another sends over another
  table.
- Theorem `Pass.repeats_loadSlices`: so it is with the slices of a partition.
- Theorem `Pass.load_of_grows`: so it is with a load.
-/

namespace KeyIndex

/-! ## Live parts of slices -/

namespace FileSlice

/-- In a slice without files that hold something no key is alive. -/
theorem keys_of_isEmpty_pruned {slice : FileSlice} (h : slice.pruned.isEmpty) (table : Table)
    (schema : Schema) (asOf : Instant) :
    ((slice.pruned.keys schema asOf).run table).1 = .ok [] := by
  rcases slice.pruned.isEmpty_iff.mp h with ⟨hbase, hlogs⟩
  rw [keys_of_nothing (slice.completeBase?_pruned.trans hbase)
    (slice.completeLogs_pruned.trans hlogs), Reading.run_done]

/-- A slice that has grown has a file that holds something if it had one. -/
theorem Grows.isEmpty_pruned {added : String → Prop} {slice more : FileSlice}
    (h : slice.Grows added more) (hempty : more.pruned.isEmpty) : slice.pruned.isEmpty := by
  rw [isEmpty_iff] at hempty ⊢
  have hfiles := h.logFiles_pruned
  rw [hempty.2] at hfiles
  refine ⟨?_, ?_⟩
  · rw [← hempty.1, pruned, pruned, completeBase?, completeBase?, h.baseFile]
  · generalize slice.pruned.logFiles = files at hfiles
    cases hfiles
    rfl

/-- A key has the same entry in a slice that has grown. -/
theorem Grows.entry_pruned {added : String → Prop} {slice more : FileSlice}
    (h : slice.Grows added more) (key : RecordKey) :
    IndexEntry.of key more.pruned = IndexEntry.of key slice.pruned := by
  have hinstant : more.pruned.baseInstant = slice.pruned.baseInstant := h.baseInstant
  have hgroup : more.pruned.fileGroup = slice.pruned.fileGroup := h.fileGroup
  rw [IndexEntry.of, IndexEntry.of, hinstant, hgroup]

end FileSlice

/-! ## Passes that repeat others -/

namespace Pass

/-- If a pass over a table comes to its end, so does another one over another table, and it
sends the same entries. -/
def Repeats (table grown : Table) (pass again : Pass) : Prop :=
  pass.result table = .ok () →
    again.result grown = .ok () ∧ again.entries grown = pass.entries table

variable {table grown : Table} {pass again : Pass} {α β : Type}

/-- What comes after a reading is repeated. -/
theorem Repeats.read_left {reading : Reading α} {next : α → Pass}
    (h : ∀ a, (reading.run table).1 = .ok a → Repeats table grown (next a) again) :
    Repeats table grown (read reading next) again := by
  intro hok
  rcases exists_of_read_ok hok with ⟨a, hrun, hnext, hentries, -⟩
  rw [hentries]
  exact h a hrun hnext

/-- A reading with a result repeats what comes after it repeats. -/
theorem Repeats.read_right {reading : Reading α} {next : α → Pass} {a : α}
    (hrun : (reading.run grown).1 = .ok a) (h : Repeats table grown pass (next a)) :
    Repeats table grown pass (read reading next) := by
  intro hok
  rcases h hok with ⟨hresult, hentries⟩
  refine ⟨read_ok_iff.mpr ⟨a, hrun, hresult⟩, ?_⟩
  rw [entries, events_read, hrun]
  simpa [entries] using hentries

/-- The same entries are sent in both. -/
theorem Repeats.emitAll (h : Repeats table grown pass again) (sending : List IndexEntry) :
    Repeats table grown (emitAll sending pass) (emitAll sending again) := by
  intro hok
  rw [result_emitAll] at hok ⊢
  rw [entries_emitAll, entries_emitAll]
  rcases h hok with ⟨hresult, hentries⟩
  exact ⟨hresult, by rw [hentries]⟩

/-- To count something is to send nothing. -/
theorem Repeats.count_left (h : Repeats table grown pass again) (counter : Counter) :
    Repeats table grown (count counter pass) again := h

/-- What repeats a pass may count something besides. -/
theorem Repeats.count_right (h : Repeats table grown pass again) (counter : Counter) :
    Repeats table grown pass (count counter again) := h

/-! ## Loads -/

variable {layout : Layout} {filter : Regex} {schema : Schema} {asOf : Instant}
  {added : String → Prop}

/-- A slice of the worker's own that has grown is loaded with the same entries. -/
theorem repeats_loadSlice (hgrown : table.Grows asOf added grown) {slice more : FileSlice}
    (hslice : slice.Grows added more) (h : Repeats table grown pass again) :
    Repeats table grown (loadSlice schema asOf slice.pruned pass)
      (loadSlice schema asOf more.pruned again) := by
  refine .read_left fun keys hkeys => .read_right (hgrown.keys_pruned hslice hkeys) ?_
  simp only [hslice.entry_pruned]
  exact ((h.count_left _).count_right _).emitAll _

/-- Slices that have grown are loaded with the same entries. -/
theorem repeats_loadSlices (hgrown : table.Grows asOf added grown) {slices mores : List FileSlice}
    (hslices : List.Forall₂ (FileSlice.Grows added) slices mores)
    (h : Repeats table grown pass again) :
    Repeats table grown (loadSlices layout schema asOf (slices.filterMap (·.live?)) pass)
      (loadSlices layout schema asOf (mores.filterMap (·.live?)) again) := by
  induction hslices with
  | nil => exact h
  | @cons slice more slices mores hslice _ ih =>
    have hgroup : more.pruned.fileGroup = slice.pruned.fileGroup := hslice.fileGroup
    by_cases hempty : slice.pruned.isEmpty
    · have hnone : slice.live? = none := if_pos hempty
      rw [List.filterMap_cons_none hnone]
      by_cases hmore : more.pruned.isEmpty
      · have hnone' : more.live? = none := if_pos hmore
        rw [List.filterMap_cons_none hnone']
        exact ih
      · -- The slice has become live, but there is no key alive in it.
        have hsome : more.live? = some more.pruned := if_neg hmore
        rw [List.filterMap_cons_some hsome, loadSlices]
        by_cases howns : layout.owns more.pruned.fileGroup
        · have hkeys := hgrown.keys_pruned hslice
            (FileSlice.keys_of_isEmpty_pruned hempty table schema asOf)
          simp only [howns, if_true]
          exact .read_right hkeys (ih.count_right _)
        · simp only [howns, Bool.false_eq_true, if_false]
          exact ih.count_right _
    · have hmore : ¬ more.pruned.isEmpty := fun hmore => hempty (hslice.isEmpty_pruned hmore)
      have hsome : slice.live? = some slice.pruned := if_neg hempty
      have hsome' : more.live? = some more.pruned := if_neg hmore
      rw [List.filterMap_cons_some hsome, List.filterMap_cons_some hsome', loadSlices, loadSlices,
        hgroup]
      by_cases howns : layout.owns slice.pruned.fileGroup
      · simp only [howns, if_true]
        exact repeats_loadSlice hgrown hslice ih
      · simp only [howns, Bool.false_eq_true, if_false]
        exact (ih.count_left _).count_right _

/-- Partitions of a table that has grown are loaded with the same entries. -/
theorem repeats_loadPartitions (hgrown : table.Grows asOf added grown) (partitions : List String)
    (h : Repeats table grown pass again) :
    Repeats table grown (loadPartitions layout filter schema asOf partitions pass)
      (loadPartitions layout filter schema asOf partitions again) := by
  induction partitions with
  | nil => exact h
  | cons partition partitions ih =>
    rw [loadPartitions, loadPartitions]
    by_cases hoccurs : filter.occurs partition
    · simp only [hoccurs, if_true]
      refine .read_left fun lives hlives => ?_
      rcases Reading.run_bind_ok_iff.mp hlives with ⟨slices, hslices, hdone⟩
      cases hdone
      rcases hgrown.slices _ _ (Reading.run_query_ok_iff.mp hslices) with
        ⟨mores, hmores, hrelated⟩
      refine .read_right (Reading.run_bind_ok_iff.mpr
        ⟨mores, Reading.run_query_ok_iff.mpr hmores, rfl⟩) ?_
      exact repeats_loadSlices hgrown hrelated ((ih.count_left _).count_right _)
    · simp only [hoccurs, Bool.false_eq_true, if_false]
      exact (ih.count_left _).count_right _

/-- What was written after the latest commit is not in what a load sends: where the load of a
worker over a table comes to its end, so it does over the table that has grown since, and
it sends the same entries in the same order. -/
theorem load_of_grows (hlatest : table.latest = some asOf)
    (hgrown : table.Grows asOf added grown)
    (h : (load layout filter).result table = .ok ()) :
    (load layout filter).result grown = .ok () ∧
      (load layout filter).entries grown = (load layout filter).entries table := by
  have hrepeats : Repeats table grown (load layout filter) (load layout filter) := by
    refine .read_left fun latest hrun => ?_
    have hanswer := Reading.run_query_ok_iff.mp hrun
    refine .read_right (Reading.run_query_ok_iff.mpr (hgrown.latest.trans hanswer)) ?_
    cases latest with
    | none => simp [Table.latest, hanswer] at hlatest
    | some now =>
      obtain rfl : now = asOf := by simpa [Table.latest, hanswer] using hlatest
      refine .read_left fun schema hschema => ?_
      have hschema' := hgrown.schema.trans (Reading.run_query_ok_iff.mp hschema)
      refine .read_right (Reading.run_query_ok_iff.mpr hschema') ?_
      refine .read_left fun partitions hpartitions => ?_
      have hpartitions' := hgrown.partitions.trans (Reading.run_query_ok_iff.mp hpartitions)
      refine .read_right (Reading.run_query_ok_iff.mpr hpartitions') ?_
      exact repeats_loadPartitions hgrown partitions fun _ => ⟨rfl, rfl⟩
  exact hrepeats h

end Pass

/-! ## A table and later writes -/

/-- A slice with a base file, a slice whose only file holds nothing, and a slice with a log
file. -/
def Contents.earlySlices : List FileSlice :=
  [(FileSlice.empty "" ⟨"fg-1"⟩ ⟨"20240101"⟩).setBaseFile ⟨"a", 1⟩,
    (FileSlice.empty "" ⟨"fg-2"⟩ ⟨"20240101"⟩).setBaseFile ⟨"b", 0⟩,
    (FileSlice.empty "" ⟨"fg-3"⟩ ⟨"20240101"⟩).addLogFile ⟨"c", 1, 1⟩]

/-- The slices with one more log file each, in the last one before the other. -/
def Contents.lateSlices : List FileSlice :=
  [((FileSlice.empty "" ⟨"fg-1"⟩ ⟨"20240101"⟩).setBaseFile ⟨"a", 1⟩).addLogFile ⟨"d", 1, 1⟩,
    ((FileSlice.empty "" ⟨"fg-2"⟩ ⟨"20240101"⟩).setBaseFile ⟨"b", 0⟩).addLogFile ⟨"d", 1, 1⟩,
    ((FileSlice.empty "" ⟨"fg-3"⟩ ⟨"20240101"⟩).addLogFile ⟨"d", 1, 0⟩).addLogFile ⟨"c", 1, 1⟩]

/-- A table without partitions, as of its latest commit. -/
def Contents.early : Contents where
  latest := .ok (some ⟨"20240101"⟩)
  partitions := .ok [""]
  slices := [("", .ok earlySlices)]
  baseFiles := [("a", .ok [⟨"x", ""⟩])]
  logFiles := [("c", .ok [⟨⟨"20240101"⟩, .data ["y"]⟩])]

/-- The table after later writes: all keys are deleted in a log file that is added to each of the
slices, and the block that was there is rolled back. -/
def Contents.late : Contents where
  latest := early.latest
  partitions := early.partitions
  slices := [("", .ok lateSlices)]
  baseFiles := early.baseFiles
  logFiles := [
    ("c", .ok [⟨⟨"20240101"⟩, .data ["y"]⟩, ⟨⟨"20240102"⟩, .rollback ⟨"20240101"⟩⟩]),
    ("d", .ok [⟨⟨"20240102"⟩, .delete ["x", "y"]⟩])]

/-- The slices have grown. -/
theorem Contents.grows_lateSlices :
    List.Forall₂ (FileSlice.Grows (· = "d")) earlySlices lateSlices := by
  have hadded : ∀ version : UInt32, (LogFile.mk "d" 1 version).isComplete ∧
      (LogFile.mk "d" 1 version).path = "d" := fun version => ⟨rfl, rfl⟩
  have hnone : ∀ file ∈ ([] : List LogFile), ¬ file.path = "d" := by simp
  refine .cons ⟨rfl, rfl, rfl, rfl, .insert (hadded 1) .nil, hnone⟩ ?_
  refine .cons ⟨rfl, rfl, rfl, rfl, .insert (hadded 1) .nil, hnone⟩ ?_
  refine .cons ⟨rfl, rfl, rfl, rfl, .insert (hadded 0) (.keep _ .nil), ?_⟩ .nil
  intro file hfile
  cases List.mem_singleton.mp hfile
  decide

/-- The table has grown. -/
theorem Contents.grows_late : early.table.Grows ⟨"20240101"⟩ (· = "d") late.table where
  latest := rfl
  schema := rfl
  partitions := rfl
  baseKeys _ := rfl
  slices partition slices hslices := by
    by_cases hpartition : partition = ""
    · subst hpartition
      cases hslices
      exact ⟨_, rfl, grows_lateSlices⟩
    · have hne : (partition == "") = false := beq_false_of_ne hpartition
      simp only [table, early, List.lookup_cons, hne] at hslices
      cases hslices
      refine ⟨[], ?_, .nil⟩
      simp only [table, late, List.lookup_cons, hne]
      rfl
  logBlocks path schema blocks _ hblocks := by
    by_cases hpath : path = "c"
    · subst hpath
      cases hblocks
      exact ⟨_, rfl, .keep _ (.insert (by decide) .nil)⟩
    · have hne : (path == "c") = false := beq_false_of_ne hpath
      simp only [table, early, List.lookup_cons, hne] at hblocks
      cases hblocks
  addedBlocks := by
    rintro _ schema rfl
    exact ⟨_, rfl, by decide⟩

namespace Pass

/-- The keys of the table are sent, although all of them have been deleted since. -/
theorem load_of_grows_late :
    Contents.early.table.latest = some ⟨"20240101"⟩ ∧
      Contents.early.table.Grows ⟨"20240101"⟩ (· = "d") Contents.late.table ∧
      (load ⟨0, 1, 1⟩ .emptyText).result Contents.early.table = .ok () ∧
      (load ⟨0, 1, 1⟩ .emptyText).result Contents.late.table = .ok () ∧
      ((load ⟨0, 1, 1⟩ .emptyText).entries Contents.late.table).map (·.key.key) = ["x", "y"] := by
  have hlatest : Contents.early.table.latest = some ⟨"20240101"⟩ := rfl
  have hload : (load ⟨0, 1, 1⟩ .emptyText).result Contents.early.table = .ok () := by cbv
  have hkeys : ((load ⟨0, 1, 1⟩ .emptyText).entries Contents.early.table).map (·.key.key) =
      ["x", "y"] := by cbv
  rcases load_of_grows hlatest Contents.grows_late hload with ⟨hresult, hentries⟩
  exact ⟨hlatest, Contents.grows_late, hload, hresult, by rw [hentries, hkeys]⟩

end Pass

end KeyIndex
