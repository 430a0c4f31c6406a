import KeyIndex.Table.Live

/-!
# Files of live slices

To prune a slice twice is to prune it once: what is left of its files is complete.

Main results:

- Theorems `FileSlice.completeBase?_pruned`, `FileSlice.completeLogs_pruned`: the files of
  a pruned slice.
- Theorem `FileSlice.eq_pruned_of_live`: the live part of a slice is the pruned slice.
- Theorems `FileSlice.version_le_trans`, `FileSlice.version_le_total`: log files are sorted by
  an order.
- Definition `FileSlice.complete`: a slice without its empty files.
- Theorem `FileSlice.pruned_eq_complete`: what pruning does if the log files are sorted.
-/

namespace KeyIndex

namespace FileSlice

/-- The base file of a pruned slice holds something. -/
@[simp] theorem completeBase?_pruned (slice : FileSlice) :
    slice.pruned.completeBase? = slice.completeBase? := by
  simp only [completeBase?, pruned, Option.filter_filter, Bool.and_self]

/-- The log files of a pruned slice are complete. -/
theorem isComplete_of_mem_pruned {slice : FileSlice} {file : LogFile}
    (h : file ∈ slice.pruned.logFiles) : file.isComplete := by
  have hmem : file ∈ slice.completeLogs := List.mem_mergeSort.mp h
  exact (List.mem_filter.mp hmem).2

@[simp] theorem completeLogs_pruned (slice : FileSlice) :
    slice.pruned.completeLogs = slice.pruned.logFiles :=
  List.filter_eq_self.mpr fun _ => isComplete_of_mem_pruned

/-- A slice without files has neither a base file nor a log file. -/
theorem isEmpty_iff (slice : FileSlice) :
    slice.isEmpty ↔ slice.baseFile = none ∧ slice.logFiles = [] := by
  rw [isEmpty, Bool.and_eq_true, Option.isNone_iff_eq_none, List.isEmpty_iff]

/-- What is live of a slice is the pruned slice. -/
theorem eq_pruned_of_live {slice live : FileSlice} (h : slice.live? = some live) :
    live = slice.pruned := by
  unfold live? at h
  split at h
  · cases h
  · exact (Option.some.inj h).symm

/-! ## The order of the versions -/

theorem version_le_trans (a b c : LogFile) (hab : decide (a.version ≤ b.version))
    (hbc : decide (b.version ≤ c.version)) : decide (a.version ≤ c.version) := by
  simp only [decide_eq_true_eq] at hab hbc ⊢
  exact UInt32.le_trans hab hbc

theorem version_le_total (a b : LogFile) :
    decide (a.version ≤ b.version) || decide (b.version ≤ a.version) := by
  simp only [Bool.or_eq_true, decide_eq_true_eq]
  exact UInt32.le_total a.version b.version

/-! ## Slices without empty files -/

/-- The slice without its empty files. -/
def complete (slice : FileSlice) : FileSlice :=
  { slice with
    baseFile := slice.completeBase?
    logFiles := slice.completeLogs }

@[simp] theorem completeBase?_complete (slice : FileSlice) :
    slice.complete.completeBase? = slice.complete.baseFile := by
  simp only [completeBase?, complete, Option.filter_filter, Bool.and_self]

@[simp] theorem completeLogs_complete (slice : FileSlice) :
    slice.complete.completeLogs = slice.complete.logFiles := by
  simp only [completeLogs, complete, List.filter_filter, Bool.and_self]

/-- If the log files of a slice are in the order of their versions, to prune it leaves out its
empty files and does no more. -/
theorem pruned_eq_complete {slice : FileSlice}
    (h : slice.logFiles.Pairwise (·.version ≤ ·.version)) :
    slice.pruned = slice.complete := by
  have hsorted : slice.completeLogs.Pairwise fun a b => decide (a.version ≤ b.version) :=
    (h.sublist List.filter_sublist).imp decide_eq_true
  rw [pruned, complete, List.mergeSort_of_pairwise hsorted]

/-- Of a slice that is not live no file holds anything. -/
theorem eq_nothing_of_live?_eq_none {slice : FileSlice} (h : slice.live? = none) :
    slice.completeBase? = none ∧ slice.completeLogs = [] := by
  have hempty : slice.pruned.isEmpty := by
    unfold live? at h
    split at h
    · assumption
    · cases h
  rcases slice.pruned.isEmpty_iff.mp hempty with ⟨hbase, hnone⟩
  have hlogs : slice.completeLogs.Perm slice.pruned.logFiles := (List.mergeSort_perm _ _).symm
  rw [hnone] at hlogs
  exact ⟨hbase, hlogs.eq_nil⟩

end FileSlice

end KeyIndex
