import KeyIndex.Proofs.Table.Later
import KeyIndex.Proofs.Table.Reading

/-!
# What is resolved of the slices of a partition

The slices of a partition are listed by the table, with whatever a crashed writer has left.
Of each slice that holds something there is a live part: the slice without its empty files,
and with its log files by their versions.  This says all about it, since files of one version
stay in the order in which they were listed.  So a second resolution changes nothing; and if no
two log files that hold something have one version, the order in which they were listed is of
no account.

Main definitions:

- `FileSlice.HoldsSomething`, `FileSlice.IsLivePart`: which slices have a live part, and what
  it is.
- `FileSlice.Relisted`: a slice with its log files in another order.

Main results:

- Theorem `eq_of_filter_eq`: a list that is sorted by keys is known from its elements with each
  key.
- Theorem `FileSlice.isLivePart_iff`: a slice has one live part.
- Theorem `FileSlice.pruned_eq_of_relisted`: the order of listing is of no account.
- Theorem `liveSlices_of_listed`: what is resolved of slices that are listed.
-/

namespace KeyIndex

/-! ## Lists that are sorted by keys -/

section Keys

variable {α κ : Type} {key : α → κ} {list other : List α}

/-- Lists have the same elements if they have the same ones with each key. -/
theorem mem_iff_of_filter_eq [DecidableEq κ]
    (h : ∀ k, list.filter (key · = k) = other.filter (key · = k)) (a : α) :
    a ∈ list ↔ a ∈ other := by
  have hboth : a ∈ list.filter (key · = key a) ↔ a ∈ other.filter (key · = key a) := by
    rw [h]
  simpa using hboth

variable [LE κ] [Std.IsPartialOrder κ]

/-- The first element of a list that is sorted by keys has the least key. -/
theorem key_le_of_mem {a b : α} (hlist : (a :: list).Pairwise (key · ≤ key ·))
    (hb : b ∈ a :: list) : key a ≤ key b := by
  rcases List.mem_cons.mp hb with rfl | hin
  · exact Std.le_refl _
  · exact (List.pairwise_cons.mp hlist).1 b hin

/-- Lists that are sorted by keys are the same if they have the same elements with each key, in
the same order. -/
theorem eq_of_filter_eq [DecidableEq κ] (hlist : list.Pairwise (key · ≤ key ·))
    (hother : other.Pairwise (key · ≤ key ·))
    (h : ∀ k, list.filter (key · = k) = other.filter (key · = k)) : list = other := by
  induction list generalizing other with
  | nil =>
    have hnone : ∀ a, a ∉ other := fun a ha => by simpa using (mem_iff_of_filter_eq h a).mpr ha
    exact (List.eq_nil_iff_forall_not_mem.mpr hnone).symm
  | cons a list ih =>
    cases other with
    | nil => simpa using mem_iff_of_filter_eq h a
    | cons b other =>
      have hab : key a ≤ key b :=
        key_le_of_mem hlist ((mem_iff_of_filter_eq h b).mpr List.mem_cons_self)
      have hba : key b ≤ key a :=
        key_le_of_mem hother ((mem_iff_of_filter_eq h a).mp List.mem_cons_self)
      have hkey : key b = key a := Std.le_antisymm hba hab
      have hfirst := h (key a)
      rw [List.filter_cons_of_pos (by simp), List.filter_cons_of_pos (by simp [hkey])] at hfirst
      rcases List.cons.inj hfirst with ⟨rfl, -⟩
      refine congrArg (a :: ·) (ih hlist.of_cons hother.of_cons fun k => ?_)
      have hk := h k
      by_cases hsame : key a = k <;> simpa [hsame] using hk

end Keys

namespace FileSlice

variable {slice other live : FileSlice}

/-! ## Live parts -/

/-- Whether a slice holds something: a base file that is not empty, or such a log file. -/
def HoldsSomething (slice : FileSlice) : Prop :=
  (∃ file ∈ slice.baseFile, 0 < file.size) ∨ ∃ file ∈ slice.logFiles, 0 < file.size

instance (slice : FileSlice) : Decidable slice.HoldsSomething :=
  inferInstanceAs (Decidable (_ ∨ _))

/-- The live part of a slice that holds something: the slice without its empty files, its log
files by their versions, and those of one version in their order. -/
structure IsLivePart (slice live : FileSlice) : Prop where
  partition : live.partition = slice.partition
  fileGroup : live.fileGroup = slice.fileGroup
  baseInstant : live.baseInstant = slice.baseInstant
  baseFile : ∀ file, live.baseFile = some file ↔ slice.baseFile = some file ∧ 0 < file.size
  logFiles : live.logFiles.Perm (slice.logFiles.filter (0 < ·.size))
  ascending : live.logFiles.Pairwise (·.version ≤ ·.version)
  stable : ∀ version, live.logFiles.filter (·.version = version) =
    (slice.logFiles.filter (0 < ·.size)).filter (·.version = version)

/-- Two slices are the same if their parts are. -/
theorem eq_of_parts (hpartition : slice.partition = other.partition)
    (hgroup : slice.fileGroup = other.fileGroup) (hinstant : slice.baseInstant = other.baseInstant)
    (hbase : slice.baseFile = other.baseFile) (hlogs : slice.logFiles = other.logFiles) :
    slice = other := by
  cases slice
  cases other
  simp_all

/-- The log files of a pruned slice are in the order of their versions. -/
theorem pairwise_pruned (slice : FileSlice) :
    slice.pruned.logFiles.Pairwise (·.version ≤ ·.version) := by
  have hsorted : slice.pruned.logFiles.Pairwise fun a b => decide (a.version ≤ b.version) :=
    List.pairwise_mergeSort version_le_trans version_le_total _
  simpa using hsorted

/-- A pruned slice is the live part. -/
theorem isLivePart_pruned (slice : FileSlice) : slice.IsLivePart slice.pruned := by
  refine ⟨rfl, rfl, rfl, fun file => ?_, List.mergeSort_perm _ _, slice.pairwise_pruned,
    fun version => ?_⟩
  · simp [pruned, completeBase?, BaseFile.isComplete]
  · -- Files of one version are sorted among themselves, so that they keep their order.
    have hsame : (slice.completeLogs.filter (·.version = version)).Pairwise
        fun a b => decide (a.version ≤ b.version) := by
      refine List.pairwise_of_forall_mem_list fun a ha b hb => ?_
      simp only [List.mem_filter, decide_eq_true_eq] at ha hb
      simp [ha.2, hb.2]
    rw [pruned, filter_mergeSort version_le_trans version_le_total, List.mergeSort_of_pairwise hsame]
    rfl

/-- A slice has one live part, the pruned slice. -/
theorem isLivePart_iff : slice.IsLivePart live ↔ live = slice.pruned := by
  constructor
  · intro h
    have hpruned := slice.isLivePart_pruned
    refine eq_of_parts h.partition h.fileGroup h.baseInstant ?_ ?_
    · exact Option.ext fun file => (h.baseFile file).trans (hpruned.baseFile file).symm
    · exact eq_of_filter_eq h.ascending hpruned.ascending fun version =>
        (h.stable version).trans (hpruned.stable version).symm
  · rintro rfl
    exact slice.isLivePart_pruned

/-- A live part is its own live part. -/
theorem IsLivePart.again (h : slice.IsLivePart live) : live.IsLivePart live := by
  have hall : live.logFiles.filter (0 < ·.size) = live.logFiles := by
    refine List.filter_eq_self.mpr fun file hfile => ?_
    exact (List.mem_filter.mp (h.logFiles.mem_iff.mp hfile)).2
  refine ⟨rfl, rfl, rfl, fun file => ⟨fun hfile => ⟨hfile, ((h.baseFile file).mp hfile).2⟩, And.left⟩,
    ?_, h.ascending, fun version => ?_⟩
  · rw [hall]
  · rw [hall]

/-- To prune a slice twice is to prune it once. -/
theorem pruned_pruned (slice : FileSlice) : slice.pruned.pruned = slice.pruned :=
  (isLivePart_iff.mp slice.isLivePart_pruned.again).symm

/-- The log files of a pruned slice are those that are not empty. -/
theorem mem_pruned {file : LogFile} :
    file ∈ slice.pruned.logFiles ↔ file ∈ slice.logFiles ∧ 0 < file.size := by
  rw [slice.isLivePart_pruned.logFiles.mem_iff, List.mem_filter, decide_eq_true_eq]

/-- A pruned slice has no file just when the slice holds nothing. -/
theorem isEmpty_pruned (slice : FileSlice) :
    slice.pruned.isEmpty ↔ ¬ slice.HoldsSomething := by
  rw [isEmpty_iff, Option.eq_none_iff_forall_ne_some, List.eq_nil_iff_forall_not_mem]
  simp only [ne_eq, slice.isLivePart_pruned.baseFile, mem_pruned, HoldsSomething, not_or,
    not_exists, Option.mem_def]

/-- What is live of a slice. -/
theorem live?_eq (slice : FileSlice) :
    slice.live? = if slice.HoldsSomething then some slice.pruned else none := by
  by_cases h : slice.HoldsSomething
  · rw [live?, if_neg fun hempty => slice.isEmpty_pruned.mp hempty h, if_pos h]
  · rw [live?, if_pos (slice.isEmpty_pruned.mpr h), if_neg h]

/-- The live part of a slice is all live. -/
theorem live?_live (h : slice.live? = some live) : live.live? = some live := by
  rcases eq_pruned_of_live h with rfl
  rw [live?, pruned_pruned]
  exact h

/-! ## Log files in another order -/

/-- A slice with its log files listed in another order. -/
def Relisted (slice other : FileSlice) : Prop :=
  ∃ files : List LogFile, files.Perm slice.logFiles ∧ other = { slice with logFiles := files }

/-- If no two log files of a slice that hold something have one version, the order in which they
are listed is of no account. -/
theorem pruned_eq_of_relisted (h : slice.Relisted other)
    (hdistinct : ((slice.logFiles.filter (0 < ·.size)).map (·.version)).Nodup) :
    other.pruned = slice.pruned := by
  rcases h with ⟨files, hperm, rfl⟩
  have hpruned := slice.isLivePart_pruned
  have hother := isLivePart_pruned { slice with logFiles := files }
  have hfiles : (files.filter (0 < ·.size)).Perm (slice.logFiles.filter (0 < ·.size)) :=
    hperm.filter _
  refine eq_of_parts rfl rfl rfl rfl ?_
  refine List.Perm.eq_of_pairwise (fun a b ha hb hab hba => ?_) hother.ascending
    hpruned.ascending (hother.logFiles.trans (hfiles.trans hpruned.logFiles.symm))
  exact List.inj_on_of_nodup_map hdistinct (hfiles.mem_iff.mp (hother.logFiles.mem_iff.mp ha))
    (hpruned.logFiles.mem_iff.mp hb) (UInt32.le_antisymm hab hba)

/-- Nor does it matter for whether the slice holds something. -/
theorem Relisted.holdsSomething_iff (h : slice.Relisted other) :
    other.HoldsSomething ↔ slice.HoldsSomething := by
  rcases h with ⟨files, hperm, rfl⟩
  simp only [HoldsSomething, hperm.mem_iff]

end FileSlice

/-! ## Slices that are resolved -/

/-- What is live of some slices: the live parts of those that hold something, in their order. -/
def LiveOf (listed live : List FileSlice) : Prop :=
  List.Forall₂ FileSlice.IsLivePart (listed.filter (·.HoldsSomething)) live

/-- Resolving some slices prunes those that hold something. -/
theorem filterMap_live? (listed : List FileSlice) :
    listed.filterMap (·.live?) = (listed.filter (·.HoldsSomething)).map (·.pruned) := by
  induction listed with
  | nil => rfl
  | cons slice listed ih =>
    by_cases h : slice.HoldsSomething
    · rw [List.filterMap_cons_some (by rw [slice.live?_eq, if_pos h]),
        List.filter_cons_of_pos (by simpa using h), List.map_cons, ih]
    · rw [List.filterMap_cons_none (by rw [slice.live?_eq, if_neg h]),
        List.filter_cons_of_neg (by simpa using h), ih]

/-- There is one list of what is live of some slices. -/
theorem liveOf_iff {listed live : List FileSlice} :
    LiveOf listed live ↔ live = listed.filterMap (·.live?) := by
  rw [LiveOf, filterMap_live?]
  generalize listed.filter (·.HoldsSomething) = kept
  constructor
  · intro h
    induction h with
    | nil => rfl
    | cons hpart _ ih => rw [FileSlice.isLivePart_iff.mp hpart, ih, List.map_cons]
  · rintro rfl
    induction kept with
    | nil => exact .nil
    | cons slice kept ih => exact .cons slice.isLivePart_pruned ih

/-- To resolve slices twice is to resolve them once. -/
theorem filterMap_live?_again (listed : List FileSlice) :
    (listed.filterMap (·.live?)).filterMap (·.live?) = listed.filterMap (·.live?) := by
  rw [List.filterMap_filterMap]
  refine List.filterMap_congr fun slice _ => ?_
  cases hlive : slice.live? with
  | none => rfl
  | some live => exact FileSlice.live?_live hlive

/-- Slices that are listed with their log files in another order are resolved to the same. -/
theorem filterMap_live?_relisted {listed other : List FileSlice}
    (h : List.Forall₂ FileSlice.Relisted listed other)
    (hdistinct : ∀ slice ∈ listed,
      ((slice.logFiles.filter (0 < ·.size)).map (·.version)).Nodup) :
    other.filterMap (·.live?) = listed.filterMap (·.live?) := by
  induction h with
  | nil => rfl
  | @cons slice relisted listed other hslice _ ih =>
    rcases List.forall_mem_cons.mp hdistinct with ⟨hfirst, hrest⟩
    have hlive : relisted.live? = slice.live? := by
      rw [FileSlice.live?_eq, FileSlice.live?_eq, FileSlice.pruned_eq_of_relisted hslice hfirst]
      simp only [hslice.holdsSomething_iff]
    rw [List.filterMap_cons, List.filterMap_cons, hlive, ih hrest]

/-- Slices that are listed by the table are resolved. -/
theorem ends_liveSlices (partition : String) (instant : Instant) (listed : List FileSlice) :
    (liveSlices partition instant).Ends [⟨.slices partition instant, .ok listed⟩]
      (.ok (listed.filterMap (·.live?))) := by
  have hasked : (Reading.query (.slices partition instant) id).Ends
      [⟨.slices partition instant, .ok listed⟩] (.ok listed) := Reading.ends_query _ _
  exact hasked.map _

/-- What is resolved of slices that are listed by the table, whatever they are: what is live of
them, and there is no other such list.  When that is listed, it is resolved to itself.  And if
of no slice two log files that hold something have one version, it is the same whatever the
order in which the log files of the slices are listed. -/
theorem liveSlices_of_listed (partition : String) (instant : Instant) (listed : List FileSlice) :
    ∃ live : List FileSlice,
      (∀ result, (liveSlices partition instant).Ends [⟨.slices partition instant, .ok listed⟩]
        result ↔ result = .ok live) ∧
      (∀ found, LiveOf listed found ↔ found = live) ∧
      (∀ result, (liveSlices partition instant).Ends [⟨.slices partition instant, .ok live⟩]
        result ↔ result = .ok live) ∧
      ((∀ slice ∈ listed, ((slice.logFiles.filter (0 < ·.size)).map (·.version)).Nodup) →
        ∀ other, List.Forall₂ FileSlice.Relisted listed other →
          ∀ result, (liveSlices partition instant).Ends [⟨.slices partition instant, .ok other⟩]
            result ↔ result = .ok live) := by
  refine ⟨listed.filterMap (·.live?), (ends_liveSlices _ _ listed).result_iff,
    fun found => liveOf_iff, ?_, fun hdistinct other hother => ?_⟩
  · have hagain := ends_liveSlices partition instant (listed.filterMap (·.live?))
    rw [filterMap_live?_again] at hagain
    exact hagain.result_iff
  · have hends := ends_liveSlices partition instant other
    rw [filterMap_live?_relisted hother hdistinct] at hends
    exact hends.result_iff

/-- Of a slice with an empty base file and an empty log file two log files are live, in the order
of their versions, in whichever order they are listed; nothing is live of a slice with an empty
log file only. -/
theorem liveSlices_of_listed_crashed :
    let disordered : FileSlice := ⟨"p1", ⟨"fg-1"⟩, ⟨"001"⟩, some ⟨"b", 0⟩,
      [⟨"l3", 10, 3⟩, ⟨"l0", 0, 1⟩, ⟨"l1", 10, 1⟩]⟩
    let relisted : FileSlice :=
      { disordered with logFiles := [⟨"l0", 0, 1⟩, ⟨"l1", 10, 1⟩, ⟨"l3", 10, 3⟩] }
    let crashed : FileSlice := ⟨"p1", ⟨"fg-2"⟩, ⟨"001"⟩, none, [⟨"l2", 0, 1⟩]⟩
    let live : FileSlice :=
      { disordered with baseFile := none, logFiles := [⟨"l1", 10, 1⟩, ⟨"l3", 10, 3⟩] }
    (∀ slice ∈ [disordered, crashed], ((slice.logFiles.filter (0 < ·.size)).map (·.version)).Nodup) ∧
      List.Forall₂ FileSlice.Relisted [disordered, crashed] [relisted, crashed] ∧
      (∀ result, (liveSlices "p1" ⟨"002"⟩).Ends
        [⟨.slices "p1" ⟨"002"⟩, .ok [disordered, crashed]⟩] result ↔ result = .ok [live]) ∧
      ∀ result, (liveSlices "p1" ⟨"002"⟩).Ends
        [⟨.slices "p1" ⟨"002"⟩, .ok [relisted, crashed]⟩] result ↔ result = .ok [live] := by
  intro disordered relisted crashed live
  have hdistinct : ∀ slice ∈ [disordered, crashed],
      ((slice.logFiles.filter (0 < ·.size)).map (·.version)).Nodup := by decide
  have hrelisted : List.Forall₂ FileSlice.Relisted [disordered, crashed] [relisted, crashed] :=
    .cons ⟨_, by decide, rfl⟩ (.cons ⟨_, .refl _, rfl⟩ .nil)
  rcases liveSlices_of_listed "p1" ⟨"002"⟩ [disordered, crashed] with ⟨found, hends, hfound, -, hother⟩
  have hpruned : disordered.pruned = live := by
    have hsorted : relisted.logFiles.Pairwise (·.version ≤ ·.version) := by decide
    have hsame : relisted.pruned = disordered.pruned :=
      FileSlice.pruned_eq_of_relisted ⟨_, by decide, rfl⟩ (by decide)
    rw [← hsame, FileSlice.pruned_eq_complete hsorted]
    rfl
  have hlive : [live] = [disordered, crashed].filterMap (·.live?) := by
    have hheld : [disordered, crashed].filter (·.HoldsSomething) = [disordered] := by decide
    rw [filterMap_live?, hheld, List.map_singleton, hpruned]
  have hsame : [live] = found := (hfound _).mp (liveOf_iff.mpr hlive)
  subst hsame
  exact ⟨hdistinct, hrelisted, hends, hother hdistinct _ hrelisted⟩

end KeyIndex
