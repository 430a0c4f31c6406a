import KeyIndex.Table.Keys
import KeyIndex.Proofs.Table.Live

/-!
# The keys of a slice, by what its files hold

A slice without log files has the keys of its base file, each of them once.  This is
what the replay of no blocks leaves of them, so that the keys of every slice are those of
its base file put together with a replay.

Main results:

- Theorem `aliveKeys_ofBlocks_nil`: the keys that no blocks leave.
- Theorem `FileSlice.keys_eq`: the keys of a slice.
- Theorem `FileSlice.keys_complete`: empty files are of no account for them.
-/

namespace KeyIndex

/-- Without blocks nothing is known of the keys. -/
@[simp] theorem LogView.keys_ofBlocks_nil (asOf : Instant) : (LogView.ofBlocks asOf []).keys = [] :=
  rfl

/-- A view that knows of no key leaves the keys of the base file. -/
theorem aliveKeys_of_keys_nil {view : LogView} (h : view.keys = []) (base : List RecordKey)
    (partition : String) : aliveKeys base view partition = base.eraseDups := by
  have hkept : (base.filter fun key => !view.deletes key.key) = base := by
    refine List.filter_eq_self.mpr fun key _ => ?_
    simp [LogView.deletes, LogView.op?, LogView.last?, h]
  simp [aliveKeys, hkept, LogView.upserted, h]

/-- The keys that no blocks leave are those of the base file. -/
theorem aliveKeys_ofBlocks_nil (asOf : Instant) (base : List RecordKey) (partition : String) :
    aliveKeys base (.ofBlocks asOf []) partition = base.eraseDups :=
  aliveKeys_of_keys_nil (LogView.keys_ofBlocks_nil asOf) base partition

/-- The keys that are alive in a slice are those of its base file and of the replay of its
log files put together. -/
theorem FileSlice.keys_eq (slice : FileSlice) (schema : Schema) (asOf : Instant) :
    slice.keys schema asOf = do
      let base ← slice.baseKeys
      let paths := slice.completeLogs.map (·.path)
      let blocks ← readLogs paths schema paths
      return aliveKeys base (.ofBlocks asOf blocks) slice.partition := by
  rw [keys]
  congr 1
  funext base
  by_cases hnone : slice.completeLogs = []
  · simp [hnone, readLogs, aliveKeys_ofBlocks_nil]
  · simp [hnone, LogView.read]

namespace FileSlice

/-- A slice whose files are all empty has no keys, and nothing is read of it. -/
theorem keys_of_nothing {slice : FileSlice} (hbase : slice.completeBase? = none)
    (hlogs : slice.completeLogs = []) (schema : Schema) (asOf : Instant) :
    slice.keys schema asOf = .done (.ok []) := by
  rw [keys, baseKeys, hbase, hlogs]
  rfl

/-- The keys of a slice are those of the slice without its empty files. -/
theorem keys_complete (slice : FileSlice) (schema : Schema) (asOf : Instant) :
    slice.complete.keys schema asOf = slice.keys schema asOf := by
  rw [keys, keys, baseKeys, baseKeys, completeBase?_complete, completeLogs_complete]
  rfl

end FileSlice

end KeyIndex
