import KeyIndex.Proofs.Table.Keys
import KeyIndex.Proofs.Table.Replay
import KeyIndex.Table.Contents

/-!
# The keys that are alive in a slice

Which keys a slice has can be told from the rows of its base file and from the blocks of its
logs that survive.  A row is gone if the last operation on its key deletes the key, in
whichever partition the row is.  A key that the logs put is in the partition of the slice, and
it is a key of its own unless a row has the same key in the same partition.

Main results:

- Definition `Alive`: which keys are alive, and in which order they are listed.
- Theorem `LogView.Tells.alive`: base keys and a replay put together are the keys that are alive.
- Theorem `FileSlice.alive_of_reads`: so are the keys of a slice whose files are read.
- Theorem `Alive.distinct_iff`: when no two of them have the same key text.
- Theorems `FileSlice.distinct_iff_of_reads`, `FileSlice.moved_twice`: the same for a slice
  whose files are read, and a slice that lists a key twice.
-/

namespace KeyIndex

open LogBlock

/-! ## Parts of a list -/

section Lists

variable {α : Type} [DecidableEq α]

/-- The elements that are in a list, and after them those that are not. -/
theorem filter_of_split {list first rest : List α} (hfirst : ∀ a ∈ first, a ∈ list)
    (hrest : ∀ a ∈ rest, a ∉ list) :
    (first ++ rest).filter (· ∈ list) = first ∧ (first ++ rest).filter (· ∉ list) = rest := by
  constructor
  · rw [List.filter_append, List.filter_eq_self.mpr (by simpa using hfirst),
      List.filter_eq_nil_iff.mpr (by simpa using hrest), List.append_nil]
  · rw [List.filter_append, List.filter_eq_nil_iff.mpr (by simpa using hfirst),
      List.filter_eq_self.mpr (by simpa using hrest), List.nil_append]

end Lists

/-! ## Which keys are alive -/

/-- The keys that are alive in a slice, by the keys in its base file and by the blocks of its
logs that survive.  First come those that are in the base file, in the order in which they first
stand there, and then the others, in the order in which the blocks first touched them. -/
structure Alive (base : List RecordKey) (left : List LogBlock) (partition : String)
    (keys : List RecordKey) : Prop where
  nodup : keys.Nodup
  mem_iff : ∀ key, key ∈ keys ↔
    (key ∈ base ∧ lastOperation? left key.key ≠ some .delete) ∨
      (key.partition = partition ∧ lastOperation? left key.key = some .upsert)
  base_first : keys = keys.filter (· ∈ base) ++ keys.filter (· ∉ base)
  base_order : InOrderOf base (keys.filter (· ∈ base))
  rest_order : InOrderOf (touched left) ((keys.filter (· ∉ base)).map (·.key))

section Tells

variable {base : List RecordKey} {view : LogView} {partition : String} {asOf : Instant}
  {all : List LogBlock}

/-- The keys of a base file that a replay does not delete. -/
theorem LogView.Tells.mem_kept_iff (h : view.Tells asOf all) (key : RecordKey) :
    key ∈ base.filter (fun key => !view.deletes key.key) ↔
      key ∈ base ∧ lastOperation? (standing asOf all) key.key ≠ some .delete := by
  simp [LogView.deletes, h.op]

/-- The keys that a replay puts. -/
theorem LogView.Tells.mem_put_iff (h : view.Tells asOf all) (key : RecordKey) :
    key ∈ view.upserted.map (RecordKey.mk · partition) ↔
      key.partition = partition ∧ lastOperation? (standing asOf all) key.key = some .upsert := by
  rcases key with ⟨text, own⟩
  rw [List.mem_map, ← h.mem_iff]
  constructor
  · rintro ⟨other, hother, hsame⟩
    cases hsame
    exact ⟨rfl, hother⟩
  · rintro ⟨rfl, hput⟩
    exact ⟨text, hput, rfl⟩

/-- The keys of a base file and a replay put together are the keys that are alive. -/
theorem LogView.Tells.alive (h : view.Tells asOf all) (base : List RecordKey) (partition : String) :
    Alive base (standing asOf all) partition (aliveKeys base view partition) := by
  let kept := base.filter fun key => !view.deletes key.key
  let put := view.upserted.map (RecordKey.mk · partition)
  let rest := (put.removeAll kept).eraseDups
  have hkeys : aliveKeys base view partition = kept.eraseDups ++ rest :=
    List.eraseDups_append
  have hfirst : ∀ key ∈ kept.eraseDups, key ∈ base := fun key hkey =>
    ((h.mem_kept_iff key).mp (List.mem_eraseDups.mp hkey)).1
  -- What the logs put last is not deleted, so it is among the base keys that are kept if it is
  -- among the base keys at all.
  have hrest : ∀ key ∈ rest, key ∉ base := by
    intro key hkey hbase
    have hmem := List.mem_eraseDups.mp hkey
    simp only [List.removeAll, List.mem_filter] at hmem
    have hput := ((h.mem_put_iff key).mp hmem.1).2
    have hkept : key ∈ kept := (h.mem_kept_iff key).mpr ⟨hbase, by rw [hput]; simp⟩
    simp [hkept] at hmem
  rcases filter_of_split hfirst hrest with ⟨hinBase, houtside⟩
  rw [← hkeys] at hinBase houtside
  refine ⟨(inOrderOf_eraseDups _).nodup, fun key => ?_, ?_, ?_, ?_⟩
  · rw [aliveKeys, List.mem_eraseDups, List.mem_append, h.mem_kept_iff, h.mem_put_iff]
  · rw [hinBase, houtside, hkeys]
  · rw [hinBase, eraseDups_filter]
    exact (inOrderOf_eraseDups base).sublist List.filter_sublist
  · have hsublist : (rest.map (·.key)).Sublist (put.map (·.key)) :=
      ((eraseDups_sublist _).trans List.filter_sublist).map _
    have htexts : put.map (·.key) = view.upserted := by simp [put, Function.comp_def]
    rw [houtside]
    exact List.Pairwise.sublist (htexts ▸ hsublist) h.order

end Tells

/-! ## One key text in two partitions -/

/-- A key has a text and a partition, and nothing else. -/
theorem RecordKey.eq_of {a b : RecordKey} (htext : a.key = b.key)
    (hpartition : a.partition = b.partition) : a = b := by
  cases a
  cases b
  exact congr (congrArg RecordKey.mk htext) hpartition

/-- Where each key text stands once in the base file, each stands once among the keys that are
alive, just when no key of another partition has been put again by the logs. -/
theorem Alive.distinct_iff {base : List RecordKey} {left : List LogBlock} {partition : String}
    {keys : List RecordKey} (h : Alive base left partition keys)
    (hbase : (base.map (·.key)).Nodup) :
    (keys.map (·.key)).Nodup ↔
      ∀ key ∈ base, lastOperation? left key.key = some .upsert → key.partition = partition := by
  constructor
  · intro hdistinct key hkey hput
    have hrow : key ∈ keys := (h.mem_iff key).mpr (.inl ⟨hkey, by rw [hput]; simp⟩)
    have hlog : ⟨key.key, partition⟩ ∈ keys := (h.mem_iff _).mpr (.inr ⟨rfl, hput⟩)
    exact congrArg RecordKey.partition (List.inj_on_of_nodup_map hdistinct hrow hlog rfl)
  · intro hown
    -- A row and a key that the logs put are the same if they have the same text.
    have hcross : ∀ row ∈ base, ∀ key : RecordKey, key.partition = partition →
        lastOperation? left key.key = some .upsert → row.key = key.key → row = key := by
      intro row hrow key hpartition hput htext
      have hrowPut : lastOperation? left row.key = some .upsert := by rw [htext, hput]
      exact RecordKey.eq_of htext ((hown row hrow hrowPut).trans hpartition.symm)
    refine h.nodup.map_on fun a ha b hb htext => ?_
    rcases (h.mem_iff a).mp ha with ⟨hrow, -⟩ | ⟨hpartition, hput⟩ <;>
      rcases (h.mem_iff b).mp hb with ⟨hrow', -⟩ | ⟨hpartition', hput'⟩
    · exact List.inj_on_of_nodup_map hbase hrow hrow' htext
    · exact hcross a hrow b hpartition' hput' htext
    · exact (hcross b hrow' a hpartition hput htext.symm).symm
    · exact RecordKey.eq_of htext (hpartition.trans hpartition'.symm)

/-! ## Slices whose files are read -/

namespace FileSlice

variable (slice : FileSlice) (schema : Schema) (asOf : Instant) (rows : List RecordKey)
  (blocks : Nat → List LogBlock)

/-- The keys in the base file of a slice, if it has one that holds something. -/
def heldRows : List RecordKey := if slice.completeBase?.isSome then rows else []

/-- The log files of a slice that hold something, by their paths, with the blocks that each
has at its place among them. -/
def heldLogs : List (String × List LogBlock) :=
  slice.completeLogs.zipIdx.map fun placed => (placed.1.path, blocks placed.2)

/-- The log files that hold something keep their paths. -/
theorem heldLogs_paths : (slice.heldLogs blocks).map (·.1) = slice.completeLogs.map (·.path) := by
  conv_rhs => rw [← List.zipIdx_map_fst 0 slice.completeLogs, List.map_map]
  rw [heldLogs, List.map_map]
  rfl

/-- The blocks of a slice, one log file after another. -/
def heldBlocks : List LogBlock := (slice.heldLogs blocks).flatMap (·.2)

/-- The files of a slice that hold something, each of them read. -/
def reads : List Response :=
  (slice.completeBase?.map fun file => ⟨.baseKeys file.path, .ok rows⟩).toList ++
    (slice.heldLogs blocks).map (.ofLog schema)

/-- A base file that is read. -/
theorem ends_baseKeys :
    slice.baseKeys.Ends
      (slice.completeBase?.map fun file => ⟨.baseKeys file.path, .ok rows⟩).toList
      (.ok (slice.heldRows rows)) := by
  rw [baseKeys, heldRows]
  cases slice.completeBase? with
  | none => exact .done _
  | some file => exact Reading.ends_query _ _

/-- The keys of a slice whose files are read: those of its base file, put together with the
replay of its blocks. -/
theorem ends_keys :
    (slice.keys schema asOf).Ends (slice.reads schema rows blocks)
      (.ok (aliveKeys (slice.heldRows rows) (.ofBlocks asOf (slice.heldBlocks blocks))
        slice.partition)) := by
  rw [keys_eq, ← slice.heldLogs_paths blocks]
  exact (slice.ends_baseKeys rows).bind ((ends_readLogs _ schema _).map _)

/-- The keys of a slice whose files are read, whatever is in them: there is a list of them, and
it has the keys that are alive, by the blocks that survive as of the instant. -/
theorem alive_of_reads :
    ∃ keys, Alive (slice.heldRows rows) (standing asOf (slice.heldBlocks blocks)) slice.partition
        keys ∧
      ∀ result, (slice.keys schema asOf).Ends (slice.reads schema rows blocks) result ↔
        result = .ok keys :=
  ⟨_, (LogView.tells_ofBlocks _ _).alive _ _,
    (slice.ends_keys schema asOf rows blocks).result_iff⟩

/-- The keys of a slice whose files are read, if the rows of its base file have different key
texts: the list of them has no text twice just when the rows whose keys the logs have put last
are all in the partition of the slice. -/
theorem distinct_iff_of_reads (hrows : ((slice.heldRows rows).map (·.key)).Nodup) :
    ∃ keys,
      ((keys.map (·.key)).Nodup ↔
        ∀ row ∈ slice.heldRows rows,
          lastOperation? (standing asOf (slice.heldBlocks blocks)) row.key = some .upsert →
            row.partition = slice.partition) ∧
      ∀ result, (slice.keys schema asOf).Ends (slice.reads schema rows blocks) result ↔
        result = .ok keys := by
  have halive := (LogView.tells_ofBlocks asOf (slice.heldBlocks blocks)).alive
    (slice.heldRows rows) slice.partition
  exact ⟨_, halive.distinct_iff hrows, (slice.ends_keys schema asOf rows blocks).result_iff⟩

/-- A slice of the partition `p1` with a base file and a log file. -/
def updated : FileSlice :=
  ⟨"p1", ⟨"fg-1"⟩, ⟨"001"⟩, some ⟨"b", 10⟩, [⟨"l", 10, 1⟩]⟩

/-- An update of a row of the partition of the slice adds nothing. -/
theorem updated_once :
    ((updated.heldRows [⟨"k", "p1"⟩]).map (·.key)).Nodup ∧
      ∃ keys, (keys.map (·.key)).Nodup ∧
        ∀ result, (updated.keys .plain ⟨"003"⟩).Ends
            (updated.reads .plain [⟨"k", "p1"⟩] fun _ => [⟨⟨"002"⟩, .data ["k"]⟩]) result ↔
          result = .ok keys := by
  have hrows : ((updated.heldRows [⟨"k", "p1"⟩]).map (·.key)).Nodup := by decide
  rcases distinct_iff_of_reads updated .plain ⟨"003"⟩ [⟨"k", "p1"⟩]
    (fun _ => [⟨⟨"002"⟩, .data ["k"]⟩]) hrows with ⟨keys, hdistinct, hends⟩
  exact ⟨hrows, keys, hdistinct.mpr (by decide), hends⟩

end FileSlice

/-- A table with a base file of one row, which is in the partition `p2`, and a log file that
updates its key. -/
def Contents.moved : Contents where
  baseFiles := [("b", .ok [⟨"k", "p2"⟩])]
  logFiles := [("l", .ok [⟨⟨"002"⟩, .data ["k"]⟩])]

/-- An update of a row of another partition adds a key with the same text. -/
theorem FileSlice.moved_twice :
    ((updated.heldRows [⟨"k", "p2"⟩]).map (·.key)).Nodup ∧
      (updated.keys .plain ⟨"003"⟩).Ends
        (updated.reads .plain [⟨"k", "p2"⟩] fun _ => [⟨⟨"002"⟩, .data ["k"]⟩])
        (.ok [⟨"k", "p2"⟩, ⟨"k", "p1"⟩]) ∧
      ¬ (([⟨"k", "p2"⟩, ⟨"k", "p1"⟩] : List RecordKey).map (·.key)).Nodup := by
  have hrun : (updated.keys .plain ⟨"003"⟩).run Contents.moved.table =
      (.ok [⟨"k", "p2"⟩, ⟨"k", "p1"⟩], [.baseKeys "b", .logBlocks "l" .plain]) := by rfl
  have hends := Reading.ends_run Contents.moved.table (updated.keys .plain ⟨"003"⟩)
  rw [hrun] at hends
  exact ⟨by decide, hends, by decide⟩

end KeyIndex
