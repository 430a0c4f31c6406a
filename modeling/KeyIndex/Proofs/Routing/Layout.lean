import KeyIndex.Proofs.Json.Record
import KeyIndex.Proofs.Routing.Owner
import KeyIndex.Proofs.Routing.Range
import KeyIndex.Table.Form

/-!
# Layouts that are made and layouts that are read

There are two ways to a layout.  What is made meets the demands on a layout, so that its worker
has a key group.  What is read from a text is taken as it is: every three numbers are a layout
that is read from some text, and one whose worker is none of its workers has nothing to
load.

Main results:

- Definition `Layout.IsValid`: the demands on a layout.
- Theorem `Layout.make_eq_ok_iff`: just the layouts that meet them are made.
- Theorem `Layout.groupCount_pos`: the worker of such a layout has a key group.
- Theorem `Layout.groupCount_of_outside`: a worker outside its layout has none.
- Theorem `Layout.isReadBack`: every layout is read from its own text.
- Theorem `Layout.isMade_iff_and_isRead`: what layouts there are.
- Theorem `Layout.read_outside`: one that is read and could not have been made.
-/

namespace KeyIndex

open Json Routing

namespace Layout

/-! ## Layouts that are made -/

/-- There are workers, at least as many key groups, and not too many of these; and the worker
is one of the workers. -/
structure IsValid (layout : Layout) : Prop where
  workers_pos : 1 ≤ layout.workers
  workers_le : layout.workers ≤ layout.groups
  groups_le : layout.groups ≤ maxGroups
  worker_lt : layout.worker < layout.workers

/-- Just the layouts that meet the demands are made. -/
theorem make_eq_ok_iff {worker workers groups : UInt32} {layout : Layout} :
    make worker workers groups = .ok layout ↔
      layout = ⟨worker, workers, groups⟩ ∧ layout.IsValid := by
  constructor
  · intro h
    rcases workers_groups_of_make h with ⟨rfl, hworkers, -, hle, hmax, hlt⟩
    have hpos : (1 : UInt32) ≤ workers := by
      rw [UInt32.le_iff_toNat_le]
      exact Nat.one_le_iff_ne_zero.mpr fun hzero => hworkers (UInt32.toNat_inj.mp hzero)
    exact ⟨rfl, hpos, hle, hmax, hlt⟩
  · rintro ⟨rfl, hpos, hle, hmax, hlt⟩
    have hworkers : workers ≠ 0 := ne_zero_of_lt hlt
    have hgroups : groups ≠ 0 := by
      rintro rfl
      exact hworkers (UInt32.le_zero_iff.mp hle)
    rw [make, if_neg (not_or.mpr ⟨hgroups, UInt32.not_lt.mpr hmax⟩),
      if_neg (not_or.mpr ⟨hworkers, UInt32.not_lt.mpr hle⟩), if_neg (UInt32.not_le.mpr hlt)]

/-- The worker of a layout that meets the demands has a key group. -/
theorem groupCount_pos {layout : Layout} (h : layout.IsValid) :
    0 < groupCount layout.worker layout.groups layout.workers := by
  rw [groupCount_eq h.worker_lt h.workers_le]
  exact Nat.sub_pos_of_lt (ceilDiv_lt_next h.worker_lt h.workers_le)

/-- Where there are workers, one that is none of them has no key group. -/
theorem groupCount_of_outside {layout : Layout} (hworkers : layout.workers ≠ 0)
    (h : layout.workers ≤ layout.worker) :
    groupCount layout.worker layout.groups layout.workers = 0 := by
  rw [groupCount, Finset.card_eq_zero, Finset.filter_eq_empty_iff]
  intro number hnumber hrouted
  have hsize : number < 2 ^ 32 := lt_trans (Finset.mem_range.mp hnumber) layout.groups.toNat_lt
  have hword : number.toUInt32.toNat = number := Nat.mod_eq_of_lt hsize
  have hgroup : number.toUInt32 < layout.groups := by
    rw [UInt32.lt_iff_toNat_lt, hword]
    exact Finset.mem_range.mp hnumber
  have hlt := workerOfGroup_lt hgroup hworkers
  rw [hrouted] at hlt
  exact absurd h (UInt32.not_le.mpr hlt)

/-! ## Layouts that are read -/

/-- Every layout is read from its own text. -/
theorem isReadBack (layout : Layout) : IsReadBack layout := by
  have hfields : (toValue layout).tree.fields? ["worker_index", "total_workers", "max_buckets"] =
      some [("worker_index", (toValue layout.worker).tree),
        ("total_workers", (toValue layout.workers).tree),
        ("max_buckets", (toValue layout.groups).tree)] :=
    fields?_tree (by simp)
  show ((toValue layout).tree.fields? ["worker_index", "total_workers", "max_buckets"]).bind _ = _
  rw [hfields, Option.bind_some, Fields.need_eq (isReadBack_uint32 layout.worker) rfl,
    Fields.need_eq (isReadBack_uint32 layout.workers) rfl,
    Fields.need_eq (isReadBack_uint32 layout.groups) rfl]
  rfl

/-- What layouts there are.  Just those that meet the demands are made, and their workers have
key groups.  But all of them are read from texts, also those whose worker is none of the workers and
has no key group. -/
theorem isMade_iff_and_isRead (layout : Layout) :
    ((∃ worker workers groups, make worker workers groups = .ok layout) ↔ layout.IsValid) ∧
      (layout.IsValid → 0 < groupCount layout.worker layout.groups layout.workers) ∧
      (∃ text, read? Layout text = some layout) ∧
      (layout.workers ≠ 0 → layout.workers ≤ layout.worker →
        groupCount layout.worker layout.groups layout.workers = 0) := by
  refine ⟨?_, groupCount_pos, ⟨write layout, layout.isReadBack.read?_write⟩, groupCount_of_outside⟩
  constructor
  · rintro ⟨worker, workers, groups, h⟩
    exact (make_eq_ok_iff.mp h).2
  · intro h
    exact ⟨layout.worker, layout.workers, layout.groups, make_eq_ok_iff.mpr ⟨rfl, h⟩⟩

/-- The first of four workers over 128 key groups. -/
theorem isMade_iff_and_isRead_first :
    (⟨0, 4, 128⟩ : Layout).IsValid ∧ 0 < groupCount 0 128 4 ∧
      ((2 : UInt32) ≠ 0 ∧ (2 : UInt32) ≤ 7 ∧ groupCount 7 1 2 = 0) := by
  have hvalid : (⟨0, 4, 128⟩ : Layout).IsValid := by constructor <;> decide
  exact ⟨hvalid, (isMade_iff_and_isRead ⟨0, 4, 128⟩).2.1 hvalid, by decide, by decide,
    (isMade_iff_and_isRead ⟨7, 2, 1⟩).2.2.2 (by decide) (by decide)⟩

/-- A text of a layout with two workers, of which the worker is none, and one key group.  It
is read, it does not meet the demands, and its worker has no key group. -/
theorem read_outside :
    read? Layout r#"{"worker_index":7,"total_workers":2,"max_buckets":1}"# =
        some ⟨7, 2, 1⟩ ∧
      ¬ (⟨7, 2, 1⟩ : Layout).IsValid ∧ groupCount 7 1 2 = 0 := by
  have htext : write (⟨7, 2, 1⟩ : Layout) =
      r#"{"worker_index":7,"total_workers":2,"max_buckets":1}"# := by
    decide
  refine ⟨?_, fun h => absurd h.worker_lt (by decide), ?_⟩
  · rw [← htext]
    exact (isReadBack ⟨7, 2, 1⟩).read?_write
  · exact @groupCount_of_outside ⟨7, 2, 1⟩ (by decide) (by decide)

end Layout

end KeyIndex
