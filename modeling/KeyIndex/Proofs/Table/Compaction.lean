import KeyIndex.Proofs.Table.Alive

/-!
# Compaction keeps the keys of a slice

The keys that a slice has at some time may be written to a new base file.  The log files up
to then are not read any more, and those that come later are read after the new base file.
The keys are the same as if all log files had been read: of the operations on a key the last
one counts, wherever it stands, and what a later file does not touch is in the new base file
if it was alive.  This needs that no later command rolls back what has gone into the base
file, and that the rows of the old base file were in the partition of the slice.

Main results:

- Definition `LogBlock.Confined`: later commands roll back later blocks only.
- Theorems `LogBlock.surviving_append`, `LogBlock.standing_append`: which of two lists of
  blocks survive, one after the other.
- Theorem `LogBlock.lastOperation?_append`: of the operations on a key the later one counts.
- Theorem `Alive.perm_compacted`: keys that are alive are merged once or in two steps.
- Theorem `FileSlice.keys_perm_compacted`: the keys of a slice before and after compaction.
-/

namespace KeyIndex

/-! ## Blocks in two parts -/

namespace LogBlock

variable {asOf : Instant} {blocks more : List LogBlock}

/-- Of the commands that are not later than a snapshot, none that stands among some more
blocks rolls back an instant of the blocks before them. -/
def Confined (asOf : Instant) (blocks more : List LogBlock) : Prop :=
  ∀ command ∈ more, command.isVisible asOf → ∀ block ∈ blocks,
    command.content ≠ .rollback block.instant

instance (asOf : Instant) (blocks more : List LogBlock) : Decidable (Confined asOf blocks more) :=
  inferInstanceAs (Decidable (∀ command ∈ more, command.isVisible asOf → ∀ block ∈ blocks,
    command.content ≠ .rollback block.instant))

/-- A block is rolled back by one of the blocks after it, in whichever part it stands. -/
theorem isUndone_append (block : LogBlock) (blocks more : List LogBlock) :
    block.isUndone (blocks ++ more) = (block.isUndone blocks || block.isUndone more) := by
  simp [isUndone]

/-- Of two lists of blocks, one after the other, those of the first survive that survive in it
and that no block of the second rolls back. -/
theorem surviving_append (blocks more : List LogBlock) :
    surviving (blocks ++ more) =
      (surviving blocks).filter (fun block => !block.isUndone more) ++ surviving more := by
  induction blocks with
  | nil => simp [surviving]
  | cons block blocks ih =>
    rw [List.cons_append, surviving, surviving, ih, isUndone_append]
    by_cases hkept : block.operation?.isSome && !block.isUndone blocks
    · by_cases hundone : block.isUndone more <;> simp_all
    · rw [if_neg hkept, if_neg]
      simp_all

/-- What survives was there. -/
theorem surviving_sublist (blocks : List LogBlock) : (surviving blocks).Sublist blocks := by
  induction blocks with
  | nil => exact .slnil
  | cons block blocks ih =>
    rw [surviving]
    split
    · exact ih.cons_cons block
    · exact ih.cons block

/-- If later commands are confined, each of the two parts keeps what survives in it. -/
theorem standing_append (h : Confined asOf blocks more) :
    standing asOf (blocks ++ more) = standing asOf blocks ++ standing asOf more := by
  have hkept : ∀ block ∈ standing asOf blocks,
      (!block.isUndone (more.filter (·.isVisible asOf))) = true := by
    intro block hblock
    have hmem : block ∈ blocks :=
      List.mem_of_mem_filter ((surviving_sublist _).subset hblock)
    simp only [isUndone, Bool.not_eq_true', List.any_eq_false, decide_eq_true_eq]
    intro command hcommand
    rcases List.mem_filter.mp hcommand with ⟨hmore, hvisible⟩
    exact h command hmore hvisible block hmem
  rw [standing, List.filter_append, surviving_append]
  exact congrArg (· ++ _) (List.filter_eq_self.mpr hkept)

/-- The last block with a key is the last one of the second part, if one is there. -/
theorem lastTouch?_append (blocks more : List LogBlock) (key : String) :
    lastTouch? (blocks ++ more) key = (lastTouch? more key).or (lastTouch? blocks key) := by
  rw [lastTouch?, List.filter_append, List.getLast?_append]
  rfl

/-- The last operation on a key is the last one of the second part, if one is there. -/
theorem lastOperation?_append (blocks more : List LogBlock) (key : String) :
    lastOperation? (blocks ++ more) key =
      (lastOperation? more key).or (lastOperation? blocks key) := by
  rw [lastOperation?, lastTouch?_append, lastOperation?]
  cases htouch : lastTouch? more key with
  | none => rfl
  | some block =>
    have hmem : block ∈ more.filter (key ∈ ·.keys) := List.mem_of_getLast? htouch
    have hkey : key ∈ block.keys := by simpa using (List.mem_filter.mp hmem).2
    rcases operation?_of_mem_keys hkey with ⟨op, hop⟩
    simp [hop]

end LogBlock

open LogBlock

/-! ## Keys that are merged in two steps -/

section Alive

variable {base merged whole again : List RecordKey} {first later : List LogBlock}
  {partition : String}

/-- If the rows of a base file are in one partition, so are the keys that are alive. -/
theorem Alive.partition_eq (h : Alive base first partition merged)
    (hbase : ∀ row ∈ base, row.partition = partition) :
    ∀ key ∈ merged, key.partition = partition := by
  intro key hkey
  rcases (h.mem_iff key).mp hkey with ⟨hrow, -⟩ | ⟨hown, -⟩
  · exact hbase key hrow
  · exact hown

/-- A key is alive by all blocks if it is alive by the later ones, where those that the first
ones leave alive are the rows. -/
theorem Alive.mem_compacted_iff (hmerged : Alive base first partition merged)
    (hwhole : Alive base (first ++ later) partition whole)
    (hagain : Alive merged later partition again)
    (hbase : ∀ row ∈ base, row.partition = partition) (key : RecordKey) :
    key ∈ whole ↔ key ∈ again := by
  have hown := hmerged.partition_eq hbase
  rw [hwhole.mem_iff, hagain.mem_iff, lastOperation?_append]
  cases hlast : lastOperation? later key.key with
  | none =>
    -- The later blocks say nothing of the key.
    simpa using (hmerged.mem_iff key).symm
  | some op =>
    cases op with
    | upsert =>
      constructor
      · rintro (⟨hrow, -⟩ | ⟨hpartition, -⟩)
        · exact .inr ⟨hbase key hrow, rfl⟩
        · exact .inr ⟨hpartition, rfl⟩
      · rintro (⟨hkey, -⟩ | ⟨hpartition, -⟩)
        · exact .inr ⟨hown key hkey, rfl⟩
        · exact .inr ⟨hpartition, rfl⟩
    | delete => simp

/-- Keys that are merged with all blocks at once are those that are merged first with some of
them and then with the others. -/
theorem Alive.perm_compacted (hmerged : Alive base first partition merged)
    (hwhole : Alive base (first ++ later) partition whole)
    (hagain : Alive merged later partition again)
    (hbase : ∀ row ∈ base, row.partition = partition) : whole.Perm again :=
  (List.perm_ext_iff_of_nodup hwhole.nodup hagain.nodup).mpr
    (hmerged.mem_compacted_iff hwhole hagain hbase)

end Alive

/-! ## Slices that are compacted -/

namespace FileSlice

variable (slice : FileSlice) (instant : Instant) (file : BaseFile) (late : List LogFile)
  (blocks : Nat → List LogBlock)

/-- The slice with more log files, after those it had. -/
def addLogFiles : FileSlice := late.foldl addLogFile slice

/-- What is left of a slice when the keys that it had are in a new base file: that file, and
the log files that were written later. -/
def compacted : FileSlice :=
  ((empty slice.partition slice.fileGroup instant).setBaseFile file).addLogFiles late

/-- The blocks of the log files that come after those of a slice, each by its place among the
later ones. -/
def laterBlocks (place : Nat) : List LogBlock := blocks (place + slice.completeLogs.length)

theorem addLogFiles_eq :
    slice.addLogFiles late = { slice with logFiles := slice.logFiles ++ late } := by
  induction late generalizing slice with
  | nil => simp [addLogFiles]
  | cons file late ih =>
    have hfirst : slice.addLogFiles (file :: late) = (slice.addLogFile file).addLogFiles late := rfl
    rw [hfirst, ih]
    simp [addLogFile]

theorem completeLogs_addLogFiles :
    (slice.addLogFiles late).completeLogs =
      slice.completeLogs ++ late.filter (·.isComplete) := by
  rw [addLogFiles_eq, completeLogs, completeLogs, List.filter_append]

theorem completeLogs_compacted :
    (slice.compacted instant file late).completeLogs = late.filter (·.isComplete) := by
  rw [compacted, completeLogs_addLogFiles]
  rfl

/-- The blocks of a slice with more log files are those that it had, and the later ones. -/
theorem heldBlocks_addLogFiles :
    (slice.addLogFiles late).heldBlocks blocks =
      slice.heldBlocks blocks ++
        (slice.compacted instant file late).heldBlocks (slice.laterBlocks blocks) := by
  have hplaces : (late.filter (·.isComplete)).zipIdx slice.completeLogs.length =
      (late.filter (·.isComplete)).zipIdx.map
        (Prod.map id (· + slice.completeLogs.length)) := by
    rw [List.map_snd_add_zipIdx_eq_zipIdx, Nat.add_zero]
  rw [heldBlocks, heldLogs, completeLogs_addLogFiles, List.zipIdx_append, List.map_append,
    List.flatMap_append, Nat.zero_add, hplaces, List.map_map, heldBlocks, heldBlocks, heldLogs,
    heldLogs, completeLogs_compacted]
  rfl

/-- More log files do not change what the base file holds. -/
theorem heldRows_addLogFiles (rows : List RecordKey) :
    (slice.addLogFiles late).heldRows rows = slice.heldRows rows := by
  rw [addLogFiles_eq]
  rfl

/-- The new base file holds its rows. -/
theorem heldRows_compacted (hfile : file.isComplete) (rows : List RecordKey) :
    (slice.compacted instant file late).heldRows rows = rows := by
  have hbase : (slice.compacted instant file late).completeBase? = some file := by
    rw [compacted, addLogFiles_eq]
    simp [completeBase?, setBaseFile, Option.filter, hfile]
  simp [heldRows, hbase]

/-- A slice is read, its keys go into a new base file, and what is left of it is read with the
log files that come later; the slice with all its log files is read as well.  All three
readings have a result, and the last two have the same keys, if the rows of the slice are in
its partition and if no later command as of the instant rolls back what the slice has had. -/
theorem keys_perm_compacted (schema : Schema) (asOf : Instant) (rows : List RecordKey)
    (hfile : file.isComplete) (hrows : ∀ row ∈ slice.heldRows rows, row.partition = slice.partition)
    (hconfined : Confined asOf (slice.heldBlocks blocks)
      ((slice.compacted instant file late).heldBlocks (slice.laterBlocks blocks))) :
    ∃ merged whole again : List RecordKey,
      (∀ result, (slice.keys schema asOf).Ends (slice.reads schema rows blocks) result ↔
        result = .ok merged) ∧
      (∀ result, ((slice.addLogFiles late).keys schema asOf).Ends
          ((slice.addLogFiles late).reads schema rows blocks) result ↔ result = .ok whole) ∧
      (∀ result, ((slice.compacted instant file late).keys schema asOf).Ends
          ((slice.compacted instant file late).reads schema merged (slice.laterBlocks blocks))
          result ↔ result = .ok again) ∧
      whole.Perm again := by
  rcases slice.alive_of_reads schema asOf rows blocks with ⟨merged, hmerged, hends⟩
  rcases (slice.addLogFiles late).alive_of_reads schema asOf rows blocks with
    ⟨whole, hwhole, hwholeEnds⟩
  rcases (slice.compacted instant file late).alive_of_reads schema asOf merged
    (slice.laterBlocks blocks) with ⟨again, hagain, hagainEnds⟩
  have hsame : (slice.addLogFiles late).partition = slice.partition := by rw [addLogFiles_eq]
  have hleft : (slice.compacted instant file late).partition = slice.partition := by
    rw [compacted, addLogFiles_eq]
    rfl
  rw [heldRows_addLogFiles, slice.heldBlocks_addLogFiles instant file, standing_append hconfined,
    hsame] at hwhole
  rw [heldRows_compacted _ _ _ _ hfile, hleft] at hagain
  exact ⟨merged, whole, again, hends, hwholeEnds, hagainEnds,
    hmerged.perm_compacted hwhole hagain hrows⟩

/-- A row is deleted before a compaction and put again after it, and another one is deleted
after it; what the later file takes back is its own. -/
theorem keys_perm_compacted_updated :
    let slice := updated
    let file : BaseFile := ⟨"c", 10⟩
    let late : List LogFile := [⟨"m", 10, 2⟩, ⟨"n", 0, 3⟩]
    let rows : List RecordKey := [⟨"k", "p1"⟩, ⟨"j", "p1"⟩]
    let blocks : Nat → List LogBlock := fun place =>
      if place = 0 then [⟨⟨"002"⟩, .delete ["k"]⟩, ⟨⟨"002"⟩, .data ["i"]⟩]
      else [⟨⟨"003"⟩, .delete ["i"]⟩, ⟨⟨"004"⟩, .rollback ⟨"003"⟩⟩, ⟨⟨"005"⟩, .data ["k"]⟩,
        ⟨⟨"005"⟩, .delete ["j"]⟩, ⟨⟨"007"⟩, .rollback ⟨"002"⟩⟩]
    (file.isComplete ∧ (∀ row ∈ slice.heldRows rows, row.partition = slice.partition) ∧
      Confined ⟨"006"⟩ (slice.heldBlocks blocks)
        ((slice.compacted ⟨"003"⟩ file late).heldBlocks (slice.laterBlocks blocks))) ∧
    ∃ merged whole again : List RecordKey,
      (∀ result, (slice.keys .plain ⟨"006"⟩).Ends (slice.reads .plain rows blocks) result ↔
        result = .ok merged) ∧
      (∀ result, ((slice.addLogFiles late).keys .plain ⟨"006"⟩).Ends
          ((slice.addLogFiles late).reads .plain rows blocks) result ↔ result = .ok whole) ∧
      (∀ result, ((slice.compacted ⟨"003"⟩ file late).keys .plain ⟨"006"⟩).Ends
          ((slice.compacted ⟨"003"⟩ file late).reads .plain merged (slice.laterBlocks blocks))
          result ↔ result = .ok again) ∧
      whole.Perm again := by
  intro slice file late rows blocks
  have hfile : file.isComplete := by decide
  have hrows : ∀ row ∈ slice.heldRows rows, row.partition = slice.partition := by decide
  have hconfined : Confined ⟨"006"⟩ (slice.heldBlocks blocks)
      ((slice.compacted ⟨"003"⟩ file late).heldBlocks (slice.laterBlocks blocks)) := by decide
  exact ⟨⟨hfile, hrows, hconfined⟩,
    slice.keys_perm_compacted ⟨"003"⟩ file late blocks .plain ⟨"006"⟩ rows hfile hrows hconfined⟩

end FileSlice

end KeyIndex
