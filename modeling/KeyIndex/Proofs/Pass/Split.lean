import KeyIndex.Proofs.Pass.Share
import KeyIndex.Proofs.Routing.Owner
import KeyIndex.Table.Contents
import Mathlib

/-!
# Loads split between workers

What a load needs of a table is that its partitions can be listed, and that the slices
of its worker can be read.  So where a single worker can load everything, each worker of
any job can load its share.  The shares of the workers of a job are parts of what the
single worker sends, in the same order, and together they are the whole of it: no entry
is lost, and none is sent by two workers.

Main results:

- Theorem `Pass.load_ok_iff`: what a load needs of a table.
- Theorem `Pass.load_ok_iff_peers`: the single worker can load everything just when each
  worker of a job can load its share.
- Theorem `Pass.split_load`: the loads of the workers of a job split that of the single
  worker, and so do those of any other job.
-/

namespace KeyIndex

/-! ## What a load needs -/

namespace Table

/-- The live slices of a partition can be listed as of an instant. -/
def Lists (table : Table) (asOf : Instant) (partition : String) : Prop :=
  ((liveSlices partition asOf).run table).1.isOk

/-- The keys of a slice can be found as of an instant. -/
def Reads (table : Table) (schema : Schema) (asOf : Instant) (slice : FileSlice) : Prop :=
  ((slice.keys schema asOf).run table).1.isOk

/-- The live slices of a table can be listed: its latest commit can be found, and if there
is one, so can its schema, its partitions, and the slices of those that the filter lets
through. -/
def IsListed (table : Table) (filter : Regex) : Prop :=
  (table.answer .latestInstant).isOk ∧
    ∀ asOf, table.latest = some asOf →
      (table.answer .schema).isOk ∧ (table.answer .partitions).isOk ∧
        ∀ partition ∈ table.listed.filter filter.occurs, table.Lists asOf partition

/-- The keys of a slice can be found as of the latest commit. -/
def ReadsNow (table : Table) (slice : FileSlice) : Prop :=
  ∀ asOf, table.latest = some asOf → table.Reads table.schemaNow asOf slice

end Table

namespace Pass

variable {table : Table} {layout : Layout} {filter : Regex} {schema : Schema} {asOf : Instant}

/-- Slices are loaded if those of the worker can be read. -/
theorem loadSlices_ok_iff {slices : List FileSlice} {next : Pass} :
    (loadSlices layout schema asOf slices next).result table = .ok () ↔
      (∀ slice ∈ slices, layout.owns slice.fileGroup → table.Reads schema asOf slice) ∧
        next.result table = .ok () := by
  induction slices with
  | nil => simp [loadSlices]
  | cons slice slices ih =>
    by_cases howns : layout.owns slice.fileGroup
    · have hslice : (loadSlice schema asOf slice (loadSlices layout schema asOf slices next)).result
            table = .ok () ↔ table.Reads schema asOf slice ∧
          (loadSlices layout schema asOf slices next).result table = .ok () := by
        simp [loadSlice, read_ok_iff, ← exists_and_right, Table.Reads, ← exists_ok_iff]
      simp only [loadSlices, howns, if_true, hslice, ih, List.forall_mem_cons, forall_const,
        and_assoc]
    · simpa [loadSlices, howns] using ih

/-- Partitions are loaded if the slices of those that the filter lets through can be
listed, and those of the worker can be read. -/
theorem loadPartitions_ok_iff {partitions : List String} {next : Pass} :
    (loadPartitions layout filter schema asOf partitions next).result table = .ok () ↔
      (∀ partition ∈ partitions.filter filter.occurs, table.Lists asOf partition) ∧
        (∀ slice ∈ (partitions.filter filter.occurs).flatMap (table.liveIn asOf),
          layout.owns slice.fileGroup → table.Reads schema asOf slice) ∧
        next.result table = .ok () := by
  induction partitions with
  | nil => simp [loadPartitions]
  | cons partition partitions ih =>
    by_cases hoccurs : filter.occurs partition
    · rw [loadPartitions]
      simp only [hoccurs, if_true, read_ok_iff, loadSlices_ok_iff, result_count, ih,
        List.filter_cons_of_pos, List.forall_mem_cons, List.flatMap_cons, List.forall_mem_append]
      constructor
      · rintro ⟨slices, hslices, hreads, hlists, hrest, hnext⟩
        have hlive : table.liveIn asOf partition = slices := by
          simp [Table.liveIn, hslices, Except.toOption]
        exact ⟨⟨by simp [Table.Lists, hslices], hlists⟩, ⟨hlive ▸ hreads, hrest⟩, hnext⟩
      · rintro ⟨⟨hlist, hlists⟩, ⟨hreads, hrest⟩, hnext⟩
        rcases exists_ok_iff.mpr hlist with ⟨slices, hslices⟩
        have hlive : table.liveIn asOf partition = slices := by
          simp [Table.liveIn, hslices, Except.toOption]
        exact ⟨slices, hslices, hlive ▸ hreads, hlists, hrest, hnext⟩
    · simpa [loadPartitions, hoccurs] using ih

/-- What follows a question that is answered goes on with the answer. -/
theorem result_read_query {query : Query} {answer : query.Answer} (next : query.Answer → Pass)
    (h : table.answer query = .ok answer) :
    (read (.query query id) next).result table = (next answer).result table := by
  simp [result_read, Reading.query_id, h]

/-- Nothing follows a question that is not answered. -/
theorem result_read_query_error {query : Query} {cause : Failure} (next : query.Answer → Pass)
    (h : table.answer query = .error cause) :
    (read (.query query id) next).result table = .error cause := by
  simp [result_read, Reading.query_id, h]

/-- The answer to a question for a value of some type is a value or a failure. -/
theorem answer_cases (α : Type) (answer : Except Failure α) :
    (∃ a, answer = .ok a) ∨ ∃ cause, answer = .error cause := by
  cases answer with
  | ok a => exact .inl ⟨a, rfl⟩
  | error cause => exact .inr ⟨cause, rfl⟩

/-- A question that has been answered is answered. -/
theorem isOk_of_answer {query : Query} {answer : query.Answer}
    (h : table.answer query = .ok answer) : (table.answer query).isOk = true := by
  rw [h, isOk_ok]

/-- A question that has failed is not answered. -/
theorem isOk_of_answer_error {query : Query} {cause : Failure}
    (h : table.answer query = .error cause) : (table.answer query).isOk = false := by
  rw [h, isOk_error]

/-- A load succeeds if the table can be listed, and the live slices of the worker can be
read. -/
theorem load_ok_iff :
    (load layout filter).result table = .ok () ↔
      table.IsListed filter ∧
        ∀ slice ∈ table.live filter, layout.owns slice.fileGroup → table.ReadsNow slice := by
  rw [load]
  rcases answer_cases (Option Instant) (table.answer .latestInstant) with
    ⟨latest, hlatest⟩ | ⟨cause, hlatest⟩
  · rw [result_read_query _ hlatest]
    have hfound := isOk_of_answer hlatest
    cases latest with
    | none =>
      have hnone : table.latest = none := by simp [Table.latest, hlatest]
      simp [Table.IsListed, Table.live, hnone, hfound, result]
    | some asOf =>
      have hsome : table.latest = some asOf := by simp [Table.latest, hlatest]
      dsimp only
      rcases answer_cases Schema (table.answer .schema) with ⟨schema, hschema⟩ | ⟨cause, hschema⟩
      · rw [result_read_query _ hschema]
        have hgiven := isOk_of_answer hschema
        have hnow : table.schemaNow = schema := by
          rw [Table.schemaNow, hschema]
          rfl
        rcases answer_cases (List String) (table.answer .partitions) with
          ⟨partitions, hpartitions⟩ | ⟨cause, hpartitions⟩
        · rw [result_read_query _ hpartitions, loadPartitions_ok_iff]
          have hknown := isOk_of_answer hpartitions
          have hlisted : table.listed = partitions := by
            rw [Table.listed, hsome, hpartitions]
            rfl
          simp [Table.IsListed, Table.live, Table.ReadsNow, hsome, hfound, hgiven, hknown, hnow,
            hlisted, result]
        · rw [result_read_query_error _ hpartitions]
          simp [Table.IsListed, hsome, isOk_of_answer_error hpartitions]
      · rw [result_read_query_error _ hschema]
        simp [Table.IsListed, hsome, isOk_of_answer_error hschema]
  · rw [result_read_query_error _ hlatest]
    simp [Table.IsListed, isOk_of_answer_error hlatest]

/-! ## A single worker -/

/-- The only worker of a job owns every file group. -/
theorem owns_single {groups : UInt32} {single : Layout}
    (hsingle : Layout.make 0 1 groups = .ok single) (fileGroup : FileGroup) :
    single.owns fileGroup := by
  rcases Layout.workers_groups_of_make hsingle with ⟨rfl, hworkers, hgroups, -⟩
  have hlt := Routing.workerOfKey_lt fileGroup.name hgroups hworkers
  have hzero : (Routing.workerOfKey fileGroup.name groups 1).toNat = 0 :=
    Nat.lt_one_iff.mp (UInt32.lt_iff_toNat_lt.mp hlt)
  simpa [Layout.owns, Routing.isRoutedTo] using UInt32.toNat_inj.mp hzero

/-- What the only worker of a job sends is the entries of all live slices. -/
theorem entries_single {groups : UInt32} {single : Layout}
    (hsingle : Layout.make 0 1 groups = .ok single)
    (h : (load single filter).result table = .ok ()) :
    (load single filter).entries table = (table.live filter).flatMap table.entriesOf := by
  rw [(load_of_ok h).1, Table.share]
  congr 1
  exact List.filter_eq_self.mpr fun slice _ => owns_single hsingle slice.fileGroup

/-! ## The workers of a job -/

variable {worker workers groups : UInt32}

/-- Every file group is owned by exactly one of the workers of a job. -/
theorem existsUnique_owner (hlayout : Layout.make worker workers groups = .ok layout)
    (fileGroup : FileGroup) : ∃! peer, peer ∈ layout.peers ∧ peer.owns fileGroup := by
  rcases Layout.workers_groups_of_make hlayout with ⟨rfl, hworkers, hgroups, -⟩
  have hmem : Layout.owner ⟨worker, workers, groups⟩ fileGroup ∈ Layout.peers _ :=
    Layout.owner_mem_peers hworkers hgroups fileGroup
  refine ⟨_, ⟨hmem, (Layout.owns_iff_owner hmem fileGroup).mpr rfl⟩, ?_⟩
  rintro peer ⟨hpeer, howns⟩
  exact ((Layout.owns_iff_owner hpeer fileGroup).mp howns).symm

/-- The live slices of all workers of a job, one worker after another, are all live
slices. -/
theorem perm_live (hlayout : Layout.make worker workers groups = .ok layout) :
    (layout.peers.flatMap fun peer =>
      (table.live filter).filter fun slice => peer.owns slice.fileGroup).Perm
        (table.live filter) := by
  rcases Layout.workers_groups_of_make hlayout with ⟨rfl, hworkers, hgroups, -⟩
  have howned : ∀ peer ∈ Layout.peers ⟨worker, workers, groups⟩,
      ((table.live filter).filter fun slice => peer.owns slice.fileGroup) =
        (table.live filter).filter fun slice =>
          decide (Layout.owner ⟨worker, workers, groups⟩ slice.fileGroup = peer) := by
    intro peer hpeer
    refine List.filter_congr fun slice _ => ?_
    rw [Bool.eq_iff_iff, Layout.owns_iff_owner hpeer, decide_eq_true_iff]
  rw [List.flatMap_congr howned]
  exact perm_flatMap_filter _ (Layout.nodup_peers _) fun slice _ =>
    Layout.owner_mem_peers hworkers hgroups slice.fileGroup

/-- The single worker can load everything just when each worker of a job can load its
share. -/
theorem load_ok_iff_peers {buckets : UInt32} {single : Layout}
    (hlayout : Layout.make worker workers groups = .ok layout)
    (hsingle : Layout.make 0 1 buckets = .ok single) :
    (load single filter).result table = .ok () ↔
      ∀ peer ∈ layout.peers, (load peer filter).result table = .ok () := by
  simp only [load_ok_iff]
  constructor
  · rintro ⟨hlisted, hreads⟩ peer -
    exact ⟨hlisted, fun slice hslice _ =>
      hreads slice hslice (owns_single hsingle slice.fileGroup)⟩
  · intro h
    rcases existsUnique_owner hlayout default with ⟨first, ⟨hfirst, -⟩, -⟩
    refine ⟨(h first hfirst).1, fun slice hslice _ => ?_⟩
    rcases existsUnique_owner hlayout slice.fileGroup with ⟨owner, ⟨howner, howns⟩, -⟩
    exact (h owner howner).2 slice hslice howns

/-- What the workers of a job send in their loads, one worker after another. -/
def jobEntries (table : Table) (filter : Regex) (layout : Layout) : List IndexEntry :=
  layout.peers.flatMap fun peer => (load peer filter).entries table

/-- The loads of the workers of a job split the load of a single worker. -/
structure Splits (table : Table) (filter : Regex) (layout single : Layout) : Prop where
  /-- Each worker comes to the end of its load. -/
  ok : ∀ peer ∈ layout.peers, (load peer filter).result table = .ok ()
  /-- Each worker sends a part of what the single worker sends, in the same order. -/
  sublist : ∀ peer ∈ layout.peers,
    ((load peer filter).entries table).Sublist ((load single filter).entries table)
  /-- Together they send what the single worker sends, up to its order. -/
  perm : (jobEntries table filter layout).Perm ((load single filter).entries table)
  /-- What a worker sends is the entries of the live slices that it owns. -/
  slices : ∀ peer ∈ layout.peers, (load peer filter).entries table =
    ((table.live filter).filter fun slice => peer.owns slice.fileGroup).flatMap table.entriesOf
  /-- Each slice is owned by one of them, and by no other. -/
  owner : ∀ slice ∈ table.live filter, ∃! peer, peer ∈ layout.peers ∧ peer.owns slice.fileGroup
  /-- Together they count each live slice once. -/
  slicesLoaded :
    (layout.peers.map fun peer => ((load peer filter).tally table).slicesLoaded).sum =
      (table.live filter).length

/-- Where the single worker can load everything, the workers of a job split its load. -/
theorem splits_of_ok {buckets : UInt32} {single : Layout}
    (hlayout : Layout.make worker workers groups = .ok layout)
    (hsingle : Layout.make 0 1 buckets = .ok single)
    (h : (load single filter).result table = .ok ()) : Splits table filter layout single := by
  have hok := (load_ok_iff_peers hlayout hsingle).mp h
  have hslices : ∀ peer ∈ layout.peers, (load peer filter).entries table =
      ((table.live filter).filter fun slice => peer.owns slice.fileGroup).flatMap
        table.entriesOf :=
    fun peer hpeer => (load_of_ok (hok peer hpeer)).1
  have hsent := entries_single hsingle h
  refine ⟨hok, ?_, ?_, hslices, fun slice _ => existsUnique_owner hlayout slice.fileGroup, ?_⟩
  · intro peer hpeer
    rw [hslices peer hpeer, hsent]
    exact List.filter_sublist.flatMap _
  · rw [jobEntries, hsent, List.flatMap_congr hslices, ← List.flatMap_assoc]
    exact (perm_live hlayout).flatMap_right _
  · have hcounted : ∀ peer ∈ layout.peers, ((load peer filter).tally table).slicesLoaded =
        ((table.live filter).filter fun slice => peer.owns slice.fileGroup).length := by
      intro peer hpeer
      rw [tally_load (hok peer hpeer)]
    rw [List.map_congr_left hcounted, ← (perm_live hlayout).length_eq, List.length_flatMap]

/-- Where the table answers all that a single worker asks, the layouts of a job, one for
each of its workers, split the load of the single worker, whatever the number of key
groups; and so does every other job, which therefore sends the same entries, up to their
order. -/
theorem split_load {buckets : UInt32} {single : Layout}
    (hlayout : Layout.make worker workers groups = .ok layout)
    (hsingle : Layout.make 0 1 buckets = .ok single)
    (hanswers : table.Answers ((load single filter).asked table)) :
    (∀ peer, peer ∈ layout.peers ↔ ∃ index, Layout.make index workers groups = .ok peer) ∧
      Splits table filter layout single ∧
      ∀ other others otherGroups otherLayout,
        Layout.make other others otherGroups = .ok otherLayout →
          (jobEntries table filter otherLayout).Perm (jobEntries table filter layout) := by
  have hload := load_of_answers hanswers
  have hsplits := splits_of_ok hlayout hsingle hload
  refine ⟨fun peer => Layout.mem_peers_iff_make hlayout, hsplits, ?_⟩
  intro other others otherGroups otherLayout hother
  have hothers := splits_of_ok hother hsingle hload
  exact hothers.perm.trans hsplits.perm.symm

end Pass

/-! ## Two slices and two workers -/

/-- A table with one partition, of which two slices are live, with one key each. -/
def Contents.pair : Contents where
  latest := .ok (some ⟨"20240101"⟩)
  partitions := .ok ["p"]
  slices := [("p", .ok [
    (FileSlice.empty "p" ⟨"fg-1"⟩ ⟨"20240101"⟩).setBaseFile ⟨"a", 1⟩,
    (FileSlice.empty "p" ⟨"fg-2"⟩ ⟨"20240101"⟩).setBaseFile ⟨"b", 1⟩])]
  baseFiles := [("a", .ok [⟨"x", "p"⟩]), ("b", .ok [⟨"y", "p"⟩])]

namespace Pass

/-- Two workers split the table with two live slices. -/
theorem split_load_pair :
    Layout.make 0 2 2 = .ok ⟨0, 2, 2⟩ ∧ Layout.make 0 1 1 = .ok ⟨0, 1, 1⟩ ∧
      Contents.pair.table.Answers ((load ⟨0, 1, 1⟩ .empty).asked Contents.pair.table) ∧
      Splits Contents.pair.table .empty ⟨0, 2, 2⟩ ⟨0, 1, 1⟩ ∧
      ((load ⟨0, 1, 1⟩ .empty).entries Contents.pair.table).length = 2 := by
  have hlayout : Layout.make 0 2 2 = .ok ⟨0, 2, 2⟩ := rfl
  have hsingle : Layout.make 0 1 1 = .ok ⟨0, 1, 1⟩ := rfl
  have hload : (load ⟨0, 1, 1⟩ .empty).result Contents.pair.table = .ok () := by cbv
  have hanswers := (fair_load ⟨0, 1, 1⟩ .empty Contents.pair.table).mp (by rw [hload, isOk_ok])
  exact ⟨hlayout, hsingle, hanswers, (split_load hlayout hsingle hanswers).2.1, by cbv⟩

end Pass

end KeyIndex
