import KeyIndex.Proofs.Table.Keys
import KeyIndex.Proofs.Table.Replay
import Mathlib.Data.List.Forall2

/-!
# Writes after a snapshot

Writers go on while a table is read as of a snapshot.  They put blocks into log files that
the reader knows of, and they add log files to slices, and all these blocks are later than
the snapshot.  The keys of a slice as of the snapshot stay what they were: a replay passes
over all that is later, commands that roll back among it, and a log file that is added
takes its place among the others without a change to their order.

Main results:

- Definition `Inserted`: a list with some elements put in.
- Definitions `FileSlice.Grows`, `Table.Grows`: slices and tables after such writes.
- Theorem `filter_mergeSort`: to sort some elements of a list is to sort them among the
  others.
- Theorem `LogView.keys_ofBlocks_of_inserted`: a replay does not see later blocks.
- Theorem `Table.Grows.keys_pruned`: the keys of a slice after such writes.
-/

namespace KeyIndex

/-! ## Lists with elements put in -/

/-- A list with some elements put in, at any places, that are all of some kind. -/
inductive Inserted {α : Type} (extra : α → Prop) : List α → List α → Prop where
  | nil : Inserted extra [] []
  | keep (a : α) {old new : List α} :
      Inserted extra old new → Inserted extra (a :: old) (a :: new)
  | insert {a : α} {old new : List α} :
      extra a → Inserted extra old new → Inserted extra old (a :: new)

section Inserted

variable {α : Type} {extra other : α → Prop} {old new : List α}

/-- Elements of a kind are of every kind that the first is part of. -/
theorem Inserted.imp (h : Inserted extra old new) (himp : ∀ a, extra a → other a) :
    Inserted other old new := by
  induction h with
  | nil => exact .nil
  | keep a _ ih => exact .keep a ih
  | insert hextra _ ih => exact .insert (himp _ hextra) ih

/-- Two lists with elements put in, one after the other. -/
theorem Inserted.append {first later : List α} (hfirst : Inserted extra old new)
    (hlater : Inserted extra first later) : Inserted extra (old ++ first) (new ++ later) := by
  induction hfirst with
  | nil => exact hlater
  | keep a _ ih => exact .keep a ih
  | insert hextra _ ih => exact .insert hextra ih

/-- Some of the elements, with what has been put in among them. -/
theorem Inserted.filter (h : Inserted extra old new) (kept : α → Bool) :
    Inserted extra (old.filter kept) (new.filter kept) := by
  induction h with
  | nil => exact .nil
  | @keep a _ _ _ ih => by_cases ha : kept a <;> simp [ha, ih, Inserted.keep]
  | @insert a _ _ hextra _ ih => by_cases ha : kept a <;> simp [ha, ih, Inserted.insert, hextra]

/-- Without the elements of the kind the two lists are the same. -/
theorem Inserted.filter_eq (h : Inserted extra old new) {kept : α → Bool}
    (hextra : ∀ a, extra a → kept a = false) : new.filter kept = old.filter kept := by
  induction h with
  | nil => rfl
  | @keep a _ _ _ ih => by_cases ha : kept a <;> simp [ha, ih]
  | @insert a _ _ ha _ ih => rw [List.filter_cons_of_neg (by simp [hextra a ha]), ih]

/-- A list of elements of the kind has been put into nothing. -/
theorem inserted_of_forall (h : ∀ a ∈ new, extra a) : Inserted extra [] new := by
  induction new with
  | nil => exact .nil
  | cons a new ih =>
    rcases List.forall_mem_cons.mp h with ⟨ha, hnew⟩
    exact .insert ha (ih hnew)

/-- A list is what a filter keeps of it, with the others put in. -/
theorem inserted_filter {kept : α → Bool} (h : ∀ a ∈ new, kept a = false → extra a) :
    Inserted extra (new.filter kept) new := by
  induction new with
  | nil => exact .nil
  | cons a new ih =>
    rcases List.forall_mem_cons.mp h with ⟨ha, hnew⟩
    by_cases hkept : kept a
    · rw [List.filter_cons_of_pos hkept]
      exact .keep a (ih hnew)
    · rw [List.filter_cons_of_neg hkept]
      exact .insert (ha (by simpa using hkept)) (ih hnew)

/-! ## Sorting among others -/

/-- There is one way to split a list into elements of which something is false and elements of
which it is true. -/
theorem split_unique {p : α → Bool} {front back front' back' : List α}
    (h : front ++ back = front' ++ back') (hfront : ∀ a ∈ front, p a = false)
    (hback : ∀ a ∈ back, p a = true) (hfront' : ∀ a ∈ front', p a = false)
    (hback' : ∀ a ∈ back', p a = true) : front = front' ∧ back = back' := by
  have hfilter : ∀ {first second : List α}, (∀ a ∈ first, p a = false) →
      (∀ a ∈ second, p a = true) → (first ++ second).filter p = second := by
    intro first second hfirst hsecond
    rw [List.filter_append, List.filter_eq_nil_iff.mpr (by simpa using hfirst),
      List.filter_eq_self.mpr hsecond, List.nil_append]
  have hsame : back = back' := by
    rw [← hfilter hfront hback, h, hfilter hfront' hback']
  subst hsame
  exact ⟨List.append_cancel_right h, rfl⟩

/-- To sort some elements of a list is to sort them among the others. -/
theorem filter_mergeSort {le : α → α → Bool} (htrans : ∀ a b c, le a b → le b c → le a c)
    (htotal : ∀ a b, le a b || le b a) (kept : α → Bool) (list : List α) :
    (list.mergeSort le).filter kept = (list.filter kept).mergeSort le := by
  induction list with
  | nil => simp
  | cons a list ih =>
    rcases List.mergeSort_cons htrans htotal a list with ⟨front, back, hsorted, hrest, hfront⟩
    rw [hrest, List.filter_append] at ih
    by_cases hkept : kept a
    · rcases List.mergeSort_cons htrans htotal a (list.filter kept) with
        ⟨front', back', hsorted', hrest', hfront'⟩
      have hback : ∀ b ∈ back, le a b = true := by
        have hpairs := List.pairwise_mergeSort htrans htotal (a :: list)
        rw [hsorted] at hpairs
        exact (List.pairwise_cons.mp (List.pairwise_append.mp hpairs).2.1).1
      have hback' : ∀ b ∈ back', le a b = true := by
        have hpairs := List.pairwise_mergeSort htrans htotal (a :: list.filter kept)
        rw [hsorted'] at hpairs
        exact (List.pairwise_cons.mp (List.pairwise_append.mp hpairs).2.1).1
      rw [hrest'] at ih
      -- The elements that go before `a` are those that are less, in either list.
      rcases split_unique ih
        (fun b hb => by simpa using hfront b (List.mem_filter.mp hb).1)
        (fun b hb => hback b (List.mem_filter.mp hb).1)
        (fun b hb => by simpa using hfront' b hb) hback' with ⟨rfl, rfl⟩
      rw [List.filter_cons_of_pos hkept, hsorted', hsorted, List.filter_append,
        List.filter_cons_of_pos hkept]
    · rw [List.filter_cons_of_neg hkept, hsorted, List.filter_append,
        List.filter_cons_of_neg hkept, ih]

end Inserted

/-! ## Later blocks -/

/-- A replay does not see later blocks. -/
theorem LogView.keys_ofBlocks_of_inserted {asOf : Instant} {blocks more : List LogBlock}
    (h : Inserted (asOf < ·.instant) blocks more) :
    (LogView.ofBlocks asOf more).keys = (LogView.ofBlocks asOf blocks).keys := by
  have hvisible : more.filter (·.isVisible asOf) = blocks.filter (·.isVisible asOf) :=
    h.filter_eq fun block hlater => by simp [LogBlock.isVisible, hlater]
  have hstanding : LogBlock.standing asOf more = LogBlock.standing asOf blocks := by
    rw [LogBlock.standing, LogBlock.standing, hvisible]
  rw [ofBlocks, ofBlocks, (Survivors.accounts_ofBlocks asOf more).blocks,
    (Survivors.accounts_ofBlocks asOf blocks).blocks, hstanding]

/-- The keys that are alive depend on the keys of a view alone. -/
theorem aliveKeys_congr {view other : LogView} (h : view.keys = other.keys)
    (base : List RecordKey) (partition : String) :
    aliveKeys base view partition = aliveKeys base other partition := by
  simp only [aliveKeys, LogView.deletes, LogView.op?, LogView.last?, LogView.upserted, h]

/-! ## Slices and tables that grow -/

/-- A slice to which log files have been added, at paths that are new, which hold something. -/
structure FileSlice.Grows (added : String → Prop) (slice more : FileSlice) : Prop where
  partition : more.partition = slice.partition
  fileGroup : more.fileGroup = slice.fileGroup
  baseInstant : more.baseInstant = slice.baseInstant
  baseFile : more.baseFile = slice.baseFile
  logFiles : Inserted (fun file => file.isComplete ∧ added file.path) slice.logFiles more.logFiles
  isNew : ∀ file ∈ slice.logFiles, ¬ added file.path

/-- A table in which all that was written since is later than a snapshot: blocks that were put
into log files, and log files at new paths that were added to slices. -/
structure Table.Grows (asOf : Instant) (added : String → Prop) (table grown : Table) : Prop where
  latest : grown.answer .latestInstant = table.answer .latestInstant
  schema : grown.answer .schema = table.answer .schema
  partitions : grown.answer .partitions = table.answer .partitions
  baseKeys : ∀ path, grown.answer (.baseKeys path) = table.answer (.baseKeys path)
  slices : ∀ (partition : String) (slices : List FileSlice),
    table.answer (.slices partition asOf) = .ok slices →
      ∃ more : List FileSlice, grown.answer (.slices partition asOf) = .ok more ∧
        List.Forall₂ (FileSlice.Grows added) slices more
  logBlocks : ∀ (path : String) (schema : Schema) (blocks : List LogBlock), ¬ added path →
    table.answer (.logBlocks path schema) = .ok blocks →
      ∃ more : List LogBlock, grown.answer (.logBlocks path schema) = .ok more ∧
        Inserted (asOf < ·.instant) blocks more
  addedBlocks : ∀ (path : String) (schema : Schema), added path →
    ∃ blocks : List LogBlock, grown.answer (.logBlocks path schema) = .ok blocks ∧
      ∀ block ∈ blocks, asOf < block.instant

/-! ## The keys of a slice that has grown -/

section Grows

variable {asOf : Instant} {added : String → Prop} {table grown : Table} {schema : Schema}
  {slice more : FileSlice}

/-- In the order of the versions the files that were added stand among the others. -/
theorem FileSlice.Grows.logFiles_pruned (h : slice.Grows added more) :
    Inserted (fun file => added file.path) slice.pruned.logFiles more.pruned.logFiles := by
  classical
  have hcomplete : Inserted (fun file => added file.path) slice.completeLogs more.completeLogs :=
    (h.logFiles.filter _).imp fun file hfile => hfile.2
  -- What has been there before is what is not at a new path.
  have hbefore : more.completeLogs.filter (fun file => !decide (added file.path)) =
      slice.completeLogs := by
    rw [hcomplete.filter_eq fun file hadded => by simp [hadded]]
    refine List.filter_eq_self.mpr fun file hfile => ?_
    simpa using h.isNew file (List.mem_filter.mp hfile).1
  have hsorted : more.pruned.logFiles.filter (fun file => !decide (added file.path)) =
      slice.pruned.logFiles := by
    rw [pruned, pruned, filter_mergeSort version_le_trans version_le_total, hbefore]
  rw [← hsorted]
  exact inserted_filter fun file _ hadded => by simpa using hadded

/-- The blocks of some log files, among which others have been added. -/
theorem Table.Grows.exists_readLogs (hgrown : table.Grows asOf added grown)
    {all others : List String} {old new : List LogFile} {blocks : List LogBlock}
    (hfiles : Inserted (fun file => added file.path) old new)
    (hold : ∀ file ∈ old, ¬ added file.path)
    (h : ((readLogs all schema (old.map (·.path))).run table).1 = .ok blocks) :
    ∃ more, ((readLogs others schema (new.map (·.path))).run grown).1 = .ok more ∧
      Inserted (asOf < ·.instant) blocks more := by
  induction hfiles generalizing blocks with
  | nil =>
    cases h
    exact ⟨[], rfl, .nil⟩
  | keep file _ ih =>
    rcases List.forall_mem_cons.mp hold with ⟨hfile, hrest⟩
    rcases Reading.run_bind_ok_iff.mp h with ⟨first, hfirst, hnext⟩
    rcases Reading.run_bind_ok_iff.mp hnext with ⟨later, hlater, hdone⟩
    cases hdone
    rcases hgrown.logBlocks _ _ _ hfile (Reading.run_query_ok_iff.mp hfirst) with
      ⟨firstMore, hfirstMore, hfirstInserted⟩
    rcases ih hrest hlater with ⟨laterMore, hlaterMore, hlaterInserted⟩
    refine ⟨firstMore ++ laterMore, ?_, hfirstInserted.append hlaterInserted⟩
    exact Reading.run_bind_ok_iff.mpr ⟨firstMore, Reading.run_query_ok_iff.mpr hfirstMore,
      Reading.run_bind_ok_iff.mpr ⟨laterMore, hlaterMore, rfl⟩⟩
  | insert hadded _ ih =>
    -- All that an added file holds has been put in.
    rcases hgrown.addedBlocks _ schema hadded with ⟨first, hfirst, hlate⟩
    rcases ih hold h with ⟨laterMore, hlaterMore, hlaterInserted⟩
    refine ⟨first ++ laterMore, ?_, (inserted_of_forall hlate).append hlaterInserted⟩
    exact Reading.run_bind_ok_iff.mpr ⟨first, Reading.run_query_ok_iff.mpr hfirst,
      Reading.run_bind_ok_iff.mpr ⟨laterMore, hlaterMore, rfl⟩⟩

/-- The keys of its base file are what they were. -/
theorem Table.Grows.run_baseKeys (hgrown : table.Grows asOf added grown)
    (hslice : slice.Grows added more) :
    (more.pruned.baseKeys.run grown).1 = (slice.pruned.baseKeys.run table).1 := by
  have hfile : more.pruned.completeBase? = slice.pruned.completeBase? := by
    rw [FileSlice.completeBase?_pruned, FileSlice.completeBase?_pruned, FileSlice.completeBase?,
      FileSlice.completeBase?, hslice.baseFile]
  rw [FileSlice.baseKeys, FileSlice.baseKeys, hfile]
  cases slice.pruned.completeBase? with
  | none => rfl
  | some file =>
    show (Except.mapError _ (grown.answer (.baseKeys file.path))) = _
    rw [hgrown.baseKeys]
    rfl

/-- The keys of a slice that has grown are those that it had. -/
theorem Table.Grows.keys_pruned (hgrown : table.Grows asOf added grown)
    (hslice : slice.Grows added more) {keys : List RecordKey}
    (h : ((slice.pruned.keys schema asOf).run table).1 = .ok keys) :
    ((more.pruned.keys schema asOf).run grown).1 = .ok keys := by
  have hisNew : ∀ file ∈ slice.pruned.logFiles, ¬ added file.path := by
    intro file hfile
    exact hslice.isNew file (List.mem_filter.mp (List.mem_mergeSort.mp hfile)).1
  rw [FileSlice.keys_eq, FileSlice.completeLogs_pruned] at h ⊢
  rcases Reading.run_bind_ok_iff.mp h with ⟨base, hfound, hnext⟩
  rcases Reading.run_bind_ok_iff.mp hnext with ⟨blocks, hblocks, hdone⟩
  cases hdone
  rcases hgrown.exists_readLogs hslice.logFiles_pruned hisNew hblocks with
    ⟨moreBlocks, hmoreBlocks, hinserted⟩
  have halive : aliveKeys base (.ofBlocks asOf moreBlocks) more.pruned.partition =
      aliveKeys base (.ofBlocks asOf blocks) slice.pruned.partition := by
    rw [aliveKeys_congr (LogView.keys_ofBlocks_of_inserted hinserted)]
    exact congrArg _ hslice.partition
  refine Reading.run_bind_ok_iff.mpr ⟨base, (hgrown.run_baseKeys hslice).trans hfound, ?_⟩
  refine Reading.run_bind_ok_iff.mpr ⟨moreBlocks, hmoreBlocks, ?_⟩
  exact congrArg Except.ok halive

end Grows

end KeyIndex
