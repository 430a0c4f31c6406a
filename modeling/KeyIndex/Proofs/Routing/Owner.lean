import KeyIndex.Layout
import Mathlib.Data.List.Perm.Basic
import Mathlib.Data.List.Range
import Mathlib.Data.List.Nodup

/-!
# The owner of a file group

In a job with at least one worker and one key group, a file group is routed to one of
the workers: the products of routing are exact in 64 bits, and the quotient is below the
number of workers.  So of the layouts of a job exactly one owns the file group, and what
the layouts own splits everything there is.

Main results:

- Theorem `Routing.toNat_workerOfGroup`: the worker of a key group is an exact quotient.
- Theorem `Routing.workerOfKey_lt`: a key is routed to one of the workers.
- Theorem `Layout.owns_iff_owner`: of the layouts of a job the owner owns a file group.
- Theorem `perm_flatMap_filter`: what is split by owners and put together is the same
  up to its order.
-/

namespace KeyIndex

/-! ## Routing without overflow -/

namespace Routing

/-- The greater of a number and one is the number, unless it is zero. -/
theorem max_one {groups : UInt32} (h : groups ≠ 0) : max groups 1 = groups := by
  have hpos : groups.toNat ≠ 0 := fun hzero => h (UInt32.toNat_inj.mp hzero)
  have hle : (1 : UInt32) ≤ groups := by
    rw [UInt32.le_iff_toNat_le]
    exact Nat.one_le_iff_ne_zero.mpr hpos
  show (if groups ≤ 1 then 1 else groups) = groups
  split
  · rename_i hone
    exact UInt32.le_antisymm hle hone
  · rfl

/-- The key group of a key is one of the key groups. -/
theorem keyGroup_lt (key : String) {groups : UInt32} (h : groups ≠ 0) :
    keyGroup key groups < groups := by
  have hpos : 0 < groups.toNat :=
    Nat.pos_of_ne_zero fun hzero => h (UInt32.toNat_inj.mp hzero)
  rw [keyGroup, max_one h, UInt32.lt_iff_toNat_lt, UInt32.toNat_mod]
  exact Nat.mod_lt _ hpos

/-- The product of two words of 32 bits fits into 64. -/
theorem toNat_mul_toUInt64 (a b : UInt32) :
    (a.toUInt64 * b.toUInt64).toNat = a.toNat * b.toNat := by
  have hfits : a.toNat * b.toNat < 2 ^ 32 * 2 ^ 32 := Nat.mul_lt_mul'' a.toNat_lt b.toNat_lt
  rw [UInt64.toNat_mul, UInt32.toNat_toUInt64, UInt32.toNat_toUInt64]
  exact Nat.mod_eq_of_lt (by simpa using hfits)

/-- The worker of a key group is the group's share of the workers, rounded down: no
product overflows, and nothing is cut off. -/
theorem toNat_workerOfGroup {group groups : UInt32} (workers : UInt32) (h : group < groups) :
    (workerOfGroup group groups workers).toNat = group.toNat * workers.toNat / groups.toNat := by
  have hlt : group.toNat < groups.toNat := UInt32.lt_iff_toNat_lt.mp h
  have hgroups : groups ≠ 0 := by
    rintro rfl
    exact Nat.not_lt_zero _ hlt
  have hquotient : group.toNat * workers.toNat / groups.toNat ≤ workers.toNat := by
    apply Nat.div_le_of_le_mul
    exact Nat.mul_le_mul_right _ hlt.le
  rw [workerOfGroup, max_one hgroups, UInt64.toNat_toUInt32, UInt64.toNat_div,
    toNat_mul_toUInt64, UInt32.toNat_toUInt64]
  exact Nat.mod_eq_of_lt (lt_of_le_of_lt hquotient workers.toNat_lt)

/-- A key group belongs to one of the workers. -/
theorem workerOfGroup_lt {group groups workers : UInt32} (h : group < groups)
    (hworkers : workers ≠ 0) : workerOfGroup group groups workers < workers := by
  have hlt : group.toNat < groups.toNat := UInt32.lt_iff_toNat_lt.mp h
  have hpos : 0 < workers.toNat :=
    Nat.pos_of_ne_zero fun hzero => hworkers (UInt32.toNat_inj.mp hzero)
  rw [UInt32.lt_iff_toNat_lt, toNat_workerOfGroup workers h]
  apply Nat.div_lt_of_lt_mul
  exact Nat.mul_lt_mul_of_pos_right hlt hpos

/-- A key is routed to one of the workers. -/
theorem workerOfKey_lt (key : String) {groups workers : UInt32} (hgroups : groups ≠ 0)
    (hworkers : workers ≠ 0) : workerOfKey key groups workers < workers :=
  workerOfGroup_lt (keyGroup_lt key hgroups) hworkers

end Routing

/-! ## The layouts of a job -/

namespace Layout

/-- The layouts of all workers of a job. -/
def peers (layout : Layout) : List Layout :=
  (List.range layout.workers.toNat).map fun index =>
    { layout with worker := index.toUInt32 }

/-- The layout of the worker that a file group is routed to. -/
def owner (layout : Layout) (fileGroup : FileGroup) : Layout :=
  { layout with
    worker := Routing.workerOfKey fileGroup.name layout.groups layout.workers }

/-- A layout that could be made has workers, and at least as many key groups. -/
theorem workers_groups_of_make {worker workers groups : UInt32} {layout : Layout}
    (h : make worker workers groups = .ok layout) :
    layout = ⟨worker, workers, groups⟩ ∧ workers ≠ 0 ∧ groups ≠ 0 ∧ workers ≤ groups ∧
      groups ≤ maxGroups ∧ worker < workers := by
  unfold make at h
  split at h
  · cases h
  · rename_i hgroups
    split at h
    · cases h
    · rename_i hparallel
      split at h
      · cases h
      · rename_i hworker
        cases h
        rw [not_or] at hgroups hparallel
        exact ⟨rfl, hparallel.1, hgroups.1, UInt32.not_lt.mp hparallel.2,
          UInt32.not_lt.mp hgroups.2, UInt32.not_le.mp hworker⟩

theorem mem_peers {layout peer : Layout} :
    peer ∈ layout.peers ↔
      peer.worker < layout.workers ∧ peer = { layout with worker := peer.worker } := by
  simp only [peers, List.mem_map, List.mem_range]
  constructor
  · rintro ⟨index, hindex, rfl⟩
    have hsize : index < UInt32.size := lt_trans hindex layout.workers.toNat_lt
    refine ⟨?_, rfl⟩
    rw [UInt32.lt_iff_toNat_lt]
    simpa [Nat.mod_eq_of_lt hsize] using hindex
  · rintro ⟨hlt, hpeer⟩
    refine ⟨peer.worker.toNat, UInt32.lt_iff_toNat_lt.mp hlt, ?_⟩
    rw [hpeer]
    simp

/-- The layouts of a job are those that can be made with its numbers. -/
theorem mem_peers_iff_make {worker workers groups : UInt32} {layout peer : Layout}
    (h : make worker workers groups = .ok layout) :
    peer ∈ layout.peers ↔ ∃ index, make index workers groups = .ok peer := by
  rcases workers_groups_of_make h with ⟨rfl, hworkers, hgroups, hparallel, hmax, -⟩
  rw [mem_peers]
  constructor
  · rintro ⟨hlt, hpeer⟩
    refine ⟨peer.worker, ?_⟩
    rw [make, if_neg (not_or.mpr ⟨hgroups, UInt32.not_lt.mpr hmax⟩),
      if_neg (not_or.mpr ⟨hworkers, UInt32.not_lt.mpr hparallel⟩),
      if_neg (UInt32.not_le.mpr hlt), hpeer]
  · rintro ⟨index, hindex⟩
    rcases workers_groups_of_make hindex with ⟨rfl, -, -, -, -, hlt⟩
    exact ⟨hlt, rfl⟩

/-- Each worker of a job stands there once. -/
theorem nodup_peers (layout : Layout) : layout.peers.Nodup := by
  refine List.Nodup.map_on ?_ List.nodup_range
  intro first hfirst second hsecond heq
  have hsize : ∀ index ∈ List.range layout.workers.toNat, index < UInt32.size := by
    intro index hindex
    exact lt_trans (List.mem_range.mp hindex) layout.workers.toNat_lt
  have hword : first.toUInt32.toNat = second.toUInt32.toNat :=
    congrArg (fun peer : Layout => peer.worker.toNat) heq
  simpa [Nat.mod_eq_of_lt (hsize first hfirst), Nat.mod_eq_of_lt (hsize second hsecond)]
    using hword

/-- The owner of a file group is one of the workers. -/
theorem owner_mem_peers {layout : Layout} (hworkers : layout.workers ≠ 0)
    (hgroups : layout.groups ≠ 0) (fileGroup : FileGroup) :
    layout.owner fileGroup ∈ layout.peers :=
  mem_peers.mpr ⟨Routing.workerOfKey_lt fileGroup.name hgroups hworkers, rfl⟩

/-- Of the workers of a job the owner of a file group owns it, and no other. -/
theorem owns_iff_owner {layout peer : Layout} (hpeer : peer ∈ layout.peers)
    (fileGroup : FileGroup) : peer.owns fileGroup ↔ layout.owner fileGroup = peer := by
  rcases mem_peers.mp hpeer with ⟨-, hpeer⟩
  rw [hpeer]
  simp [owns, Routing.isRoutedTo, owner]

end Layout

/-! ## Splitting by owners -/

/-- What is split by owners, of which all are listed once, and put together again is the
same up to its order. -/
theorem perm_flatMap_filter {κ α : Type} [DecidableEq κ] (owner : α → κ) {owners : List κ}
    (hnodup : owners.Nodup) {items : List α} (hmem : ∀ item ∈ items, owner item ∈ owners) :
    (owners.flatMap fun own => items.filter fun item => decide (owner item = own)).Perm items := by
  induction owners generalizing items with
  | nil =>
    cases items with
    | nil => exact .refl _
    | cons item items => exact absurd (hmem item (by simp)) (by simp)
  | cons own owners ih =>
    rcases List.nodup_cons.mp hnodup with ⟨hown, hrest⟩
    -- What the others own is what they own of the items that are not the first owner's.
    have hothers : (owners.flatMap fun other =>
          items.filter fun item => decide (owner item = other)) =
        owners.flatMap fun other =>
          (items.filter fun item => !decide (owner item = own)).filter
            fun item => decide (owner item = other) := by
      refine List.flatMap_congr fun other hother => ?_
      rw [List.filter_filter]
      refine List.filter_congr fun item _ => ?_
      have hne : other ≠ own := fun heq => hown (heq ▸ hother)
      by_cases h : owner item = other <;> simp [h, hne]
    have hleft : ∀ item ∈ items.filter fun item => !decide (owner item = own),
        owner item ∈ owners := by
      intro item hitem
      rcases List.mem_filter.mp hitem with ⟨hitem, hne⟩
      rcases List.mem_cons.mp (hmem item hitem) with heq | hmem
      · simp [heq] at hne
      · exact hmem
    rw [List.flatMap_cons, hothers]
    exact ((ih hrest hleft).append_left _).trans (List.filter_append_perm _ _)

end KeyIndex
