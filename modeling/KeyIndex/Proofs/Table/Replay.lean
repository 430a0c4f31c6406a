import KeyIndex.Proofs.Lookup
import KeyIndex.Proofs.Table.Reading
import KeyIndex.Table.Keys
import Mathlib.Data.Finset.Card

/-!
# What a replay of log files comes to

A replay goes through blocks one after another, takes back what is rolled back, and keeps
for each key what was done to it last.  What comes of it can be told from the blocks
themselves: a block survives if no later one rolls back its instant, and of the blocks
that survive the last one with a key is the one that counts for the key.

Main results:

- Definition `InOrderOf`: a list in the order in which its elements first stand in another.
- Definitions `LogBlock.surviving`, `LogBlock.lastTouch?`: the blocks that survive, and the
  last of some blocks with a key.
- Theorems `Survivors.Accounts.read`, `Survivors.accounts_ofBlocks`: which blocks a replay
  leaves, and how many it does not.
- Theorems `LogView.Records.apply`, `LogView.records_foldl_apply`: what it keeps of the keys.
- Definition `LogView.Tells`, Theorem `LogView.tells_ofBlocks`: what a replay says of blocks.
- Theorem `LogView.tells_of_reads`: what it says of log files that are read.
-/

namespace KeyIndex

/-! ## The order of first appearance -/

section InOrderOf

variable {α : Type} [DecidableEq α] {source list : List α}

/-- The elements of a list stand in the order in which they first stand in a source. -/
def InOrderOf (source list : List α) : Prop :=
  list.Pairwise fun a b => source.idxOf a < source.idxOf b

/-- No element stands twice in such an order. -/
theorem InOrderOf.nodup (h : InOrderOf source list) : list.Nodup :=
  h.imp fun {a b} (hlt : source.idxOf a < source.idxOf b) (heq : a = b) =>
    Nat.lt_irrefl _ (heq ▸ hlt)

/-- An element at the end stays there if it is new. -/
theorem eraseDups_concat (list : List α) (a : α) :
    (list ++ [a]).eraseDups = if a ∈ list then list.eraseDups else list.eraseDups ++ [a] := by
  by_cases hmem : a ∈ list <;>
    simp [List.eraseDups_append, List.eraseDups_cons, List.removeAll, hmem]

/-- What is left of a list, if each element is kept once, is in the order of the list. -/
theorem inOrderOf_eraseDups (list : List α) : InOrderOf list list.eraseDups := by
  induction list using List.reverseRecOn with
  | nil => exact .nil
  | append_singleton list last ih =>
    have hfront : InOrderOf (list ++ [last]) list.eraseDups := by
      refine ih.imp_of_mem fun ha hb hlt => ?_
      rwa [List.idxOf_append_of_mem (List.mem_eraseDups.mp ha),
        List.idxOf_append_of_mem (List.mem_eraseDups.mp hb)]
    rw [eraseDups_concat]
    by_cases hmem : last ∈ list
    · rw [if_pos hmem]
      exact hfront
    · rw [if_neg hmem]
      refine List.pairwise_append.mpr ⟨hfront, List.pairwise_singleton _ _, ?_⟩
      intro a ha b hb
      have hbefore := List.idxOf_lt_length_of_mem (List.mem_eraseDups.mp ha)
      rw [List.mem_singleton.mp hb, List.idxOf_append_of_mem (List.mem_eraseDups.mp ha),
        List.idxOf_append_of_notMem hmem]
      omega

/-- Each element once, in the order of the list. -/
theorem eraseDups_sublist (list : List α) : list.eraseDups.Sublist list := by
  induction list using List.reverseRecOn with
  | nil => exact .slnil
  | append_singleton list last ih =>
    rw [eraseDups_concat]
    split
    · exact ih.trans (List.sublist_append_left _ _)
    · exact ih.append_right [last]

/-- It makes no difference whether elements are left out before or after. -/
theorem eraseDups_filter (kept : α → Bool) (list : List α) :
    (list.filter kept).eraseDups = list.eraseDups.filter kept := by
  induction list using List.reverseRecOn with
  | nil => rfl
  | append_singleton list last ih =>
    rw [List.filter_append, eraseDups_concat]
    by_cases hkept : kept last <;> by_cases hmem : last ∈ list <;>
      simp [hkept, hmem, ih, eraseDups_concat]

end InOrderOf

/-! ## Blocks -/

namespace LogBlock

/-- A block is not later than a snapshot. -/
def isVisible (asOf : Instant) (block : LogBlock) : Bool := !decide (asOf < block.instant)

/-- The keys that a block puts or deletes. -/
def keys (block : LogBlock) : List String :=
  match block.content with
  | .data keys => keys
  | .delete keys => keys
  | .rollback _ => []

/-- What a block does to its keys; nothing if it is a command that rolls back. -/
def operation? (block : LogBlock) : Option Operation :=
  match block.content with
  | .data _ => some .upsert
  | .delete _ => some .delete
  | .rollback _ => none

/-- Whether one of the later blocks rolls back the instant of a block. -/
def isUndone (block : LogBlock) (later : List LogBlock) : Bool :=
  later.any (·.content = .rollback block.instant)

/-- The blocks that put or delete keys and that no later block rolls back. -/
def surviving : List LogBlock → List LogBlock
  | [] => []
  | block :: later =>
    if block.operation?.isSome && !block.isUndone later then block :: surviving later
    else surviving later

/-- The blocks that survive of those that are not later than a snapshot. -/
def standing (asOf : Instant) (all : List LogBlock) : List LogBlock :=
  surviving (all.filter (·.isVisible asOf))

/-- The last of some blocks that contains a key. -/
def lastTouch? (blocks : List LogBlock) (key : String) : Option LogBlock :=
  (blocks.filter (key ∈ ·.keys)).getLast?

/-- The last operation on a key in some blocks. -/
def lastOperation? (blocks : List LogBlock) (key : String) : Option Operation :=
  (lastTouch? blocks key).bind (·.operation?)

/-- The keys of some blocks, as often as they are touched. -/
def touched (blocks : List LogBlock) : List String := blocks.flatMap (·.keys)

/-- A command that rolls back touches no key. -/
theorem operation?_of_mem_keys {block : LogBlock} {key : String} (h : key ∈ block.keys) :
    ∃ op, block.operation? = some op := by
  rcases block with ⟨instant, keys | keys | target⟩
  · exact ⟨.upsert, rfl⟩
  · exact ⟨.delete, rfl⟩
  · cases h

/-- A command at the end drops the blocks of its target. -/
theorem surviving_concat_rollback (blocks : List LogBlock) {block : LogBlock} {target : Instant}
    (h : block.content = .rollback target) :
    surviving (blocks ++ [block]) =
      (surviving blocks).filter fun other => !decide (other.instant = target) := by
  have hnone : block.operation?.isSome = false := by rw [operation?, h]; rfl
  induction blocks with
  | nil => simp [surviving, hnone]
  | cons first later ih =>
    have hundone : first.isUndone (later ++ [block]) =
        (first.isUndone later || decide (first.instant = target)) := by
      simp [isUndone, h, eq_comm]
    rw [List.cons_append, surviving, surviving, hundone, ih]
    by_cases hkept : first.operation?.isSome && !first.isUndone later
    · rw [if_pos hkept, List.filter_cons]
      by_cases htarget : first.instant = target <;> simp_all
    · rw [if_neg hkept, if_neg]
      simp_all

/-- A block at the end that puts or deletes keys survives, and drops no other. -/
theorem surviving_concat_change (blocks : List LogBlock) {block : LogBlock}
    (h : block.operation?.isSome) :
    surviving (blocks ++ [block]) = surviving blocks ++ [block] := by
  have hcontent : ∀ target, block.content ≠ .rollback target := by
    intro target hsame
    simp [operation?, hsame] at h
  induction blocks with
  | nil => simp [surviving, h, isUndone]
  | cons first later ih =>
    have hundone : first.isUndone (later ++ [block]) = first.isUndone later := by
      simp [isUndone, hcontent]
    rw [List.cons_append, surviving, surviving, hundone, ih]
    split <;> rfl

/-- What was rolled back may be written again at the same instant. -/
example :
    surviving [⟨⟨"2"⟩, .data ["x"]⟩, ⟨⟨"3"⟩, .rollback ⟨"2"⟩⟩, ⟨⟨"2"⟩, .data ["x", "y"]⟩] =
      [⟨⟨"2"⟩, .data ["x", "y"]⟩] := by
  decide

/-- A block at the end is the last one with each of its keys. -/
theorem lastTouch?_concat (blocks : List LogBlock) (block : LogBlock) (key : String) :
    lastTouch? (blocks ++ [block]) key =
      if key ∈ block.keys then some block else lastTouch? blocks key := by
  by_cases hmem : key ∈ block.keys <;> simp [lastTouch?, hmem]

end LogBlock

open LogBlock

/-! ## Which blocks are left -/

namespace Survivors

variable {s : Survivors} {asOf : Instant} {all : List LogBlock}

/-- What a replay has left of some blocks as of a snapshot are those that survive.  It has
counted the later ones, and those that were rolled back. -/
structure Accounts (s : Survivors) (asOf : Instant) (all : List LogBlock) : Prop where
  blocks : s.blocks = standing asOf all
  afterSnapshot : s.afterSnapshot = all.countP (asOf < ·.instant)
  rolledBack : s.rolledBack + s.blocks.length =
    (all.filter (·.isVisible asOf)).countP (·.operation?.isSome)

/-- A block that is not later than the snapshot is visible after the others. -/
theorem filter_isVisible_concat (all : List LogBlock) {block : LogBlock}
    (h : ¬ asOf < block.instant) :
    (all ++ [block]).filter (·.isVisible asOf) = all.filter (·.isVisible asOf) ++ [block] := by
  simp [isVisible, h]

/-- A block that is later than the snapshot. -/
theorem Accounts.read_later {block : LogBlock} (h : s.Accounts asOf all)
    (hlater : asOf < block.instant) : (s.read asOf block).Accounts asOf (all ++ [block]) := by
  have hread : s.read asOf block = { s with afterSnapshot := s.afterSnapshot + 1 } := by
    simp [Survivors.read, hlater]
  have hvisible : (all ++ [block]).filter (·.isVisible asOf) = all.filter (·.isVisible asOf) := by
    simp [isVisible, hlater]
  rw [hread]
  exact ⟨by rw [standing, hvisible]; exact h.blocks, by simp [h.afterSnapshot, hlater],
    by rw [hvisible]; exact h.rolledBack⟩

/-- A command that is not later drops the blocks of its target that are left. -/
theorem Accounts.read_rollback {block : LogBlock} {target : Instant} (h : s.Accounts asOf all)
    (hlater : ¬ asOf < block.instant) (hcontent : block.content = .rollback target) :
    (s.read asOf block).Accounts asOf (all ++ [block]) := by
  have hread : s.read asOf block =
      { s with
        blocks := s.blocks.filter fun other => !decide (other.instant = target)
        rolledBack := s.rolledBack + (s.blocks.filter (·.instant = target)).length } := by
    simp [Survivors.read, hlater, hcontent, Function.comp_def]
  have hsplit := List.length_eq_length_filter_add (l := s.blocks)
    (fun other => decide (other.instant = target))
  have hrolled := h.rolledBack
  rw [hread]
  refine ⟨?_, by simp [h.afterSnapshot, hlater], ?_⟩
  · rw [standing, filter_isVisible_concat _ hlater, surviving_concat_rollback _ hcontent, h.blocks,
      standing]
  · rw [filter_isVisible_concat _ hlater, List.countP_append, ← hrolled]
    simp only [List.countP_singleton, operation?, hcontent, Option.isSome_none]
    simp only [Bool.false_eq_true, if_false]
    omega

/-- A block that is not later and puts or deletes keys is left. -/
theorem Accounts.read_change {block : LogBlock} (h : s.Accounts asOf all)
    (hlater : ¬ asOf < block.instant) (hchange : block.operation?.isSome) :
    (s.read asOf block).Accounts asOf (all ++ [block]) := by
  have hread : s.read asOf block = { s with blocks := s.blocks ++ [block] } := by
    rcases block with ⟨instant, keys | keys | target⟩
    · simp [Survivors.read, hlater]
    · simp [Survivors.read, hlater]
    · cases hchange
  rw [hread]
  refine ⟨?_, by simp [h.afterSnapshot, hlater], ?_⟩
  · rw [standing, filter_isVisible_concat _ hlater, surviving_concat_change _ hchange, h.blocks,
      standing]
  · rw [filter_isVisible_concat _ hlater, List.countP_append, ← h.rolledBack]
    simp [hchange, Nat.add_assoc]

/-- One more block is read. -/
theorem Accounts.read (h : s.Accounts asOf all) (block : LogBlock) :
    (s.read asOf block).Accounts asOf (all ++ [block]) := by
  by_cases hlater : asOf < block.instant
  · exact h.read_later hlater
  · cases hcontent : block.content with
    | data keys => exact h.read_change hlater (by simp [operation?, hcontent])
    | delete keys => exact h.read_change hlater (by simp [operation?, hcontent])
    | rollback target => exact h.read_rollback hlater hcontent

/-- All blocks have been read. -/
theorem accounts_ofBlocks (asOf : Instant) (all : List LogBlock) :
    (ofBlocks asOf all).Accounts asOf all := by
  induction all using List.reverseRecOn with
  | nil => exact ⟨rfl, rfl, rfl⟩
  | append_singleton all block ih =>
    have hlast : ofBlocks asOf (all ++ [block]) = (ofBlocks asOf all).read asOf block :=
      List.foldl_concat _ _ _ _
    rw [hlast]
    exact ih.read block

end Survivors

/-! ## What is known of the keys -/

/-- What a block leaves as the last operation on its keys. -/
def LogBlock.lastOp? (block : LogBlock) : Option LastOp :=
  block.operation?.map fun op => ⟨op, block.instant⟩

namespace LogView

variable {entries : List (String × LastOp)} {blocks : List LogBlock}

/-- What has been recorded after some blocks: their keys, in the order in which they were
first touched, and for each of them what the last block with it did. -/
structure Records (entries : List (String × LastOp)) (blocks : List LogBlock) : Prop where
  keys : entries.map (·.1) = (touched blocks).eraseDups
  last : ∀ key, entries.lookup key = (lastTouch? blocks key).bind (·.lastOp?)

/-- Putting some keys, one after another: all of them have the operation, and the others keep
theirs. -/
theorem lookup_foldl_put (keys : List String) (last : LastOp)
    (entries : List (String × LastOp)) (other : String) :
    (keys.foldl (put · · last) entries).lookup other =
      if other ∈ keys then some last else entries.lookup other := by
  induction keys generalizing entries with
  | nil => simp
  | cons key keys ih =>
    rw [List.foldl_cons, ih, lookup_put]
    by_cases hkeys : other ∈ keys <;> by_cases hkey : other = key <;> simp [hkeys, hkey]

/-- Putting some keys, one after another: those that are new come last, each of them once. -/
theorem keys_foldl_put (keys : List String) (last : LastOp) {entries : List (String × LastOp)}
    {source : List String} (h : entries.map (·.1) = source.eraseDups) :
    (keys.foldl (put · · last) entries).map (·.1) = (source ++ keys).eraseDups := by
  induction keys generalizing entries source with
  | nil => simpa using h
  | cons key keys ih =>
    have hnext : (put entries key last).map (·.1) = (source ++ [key]).eraseDups := by
      rw [keys_put, eraseDups_concat, h]
      by_cases hkey : key ∈ source <;> simp [hkey]
    rw [List.foldl_cons, ih hnext, List.append_assoc, List.singleton_append]

/-- What a block records is put for its keys, one after another. -/
theorem apply_eq {block : LogBlock} {last : LastOp} (h : block.lastOp? = some last)
    (entries : List (String × LastOp)) :
    apply entries block = block.keys.foldl (put · · last) entries := by
  rcases block with ⟨instant, keys | keys | target⟩
  · cases h
    exact List.foldl_map
  · cases h
    exact List.foldl_map
  · cases h

/-- One more block is recorded. -/
theorem Records.apply (h : Records entries blocks) (block : LogBlock) :
    Records (apply entries block) (blocks ++ [block]) := by
  have htouched : touched (blocks ++ [block]) = touched blocks ++ block.keys := by
    simp [touched]
  cases hlast : block.lastOp? with
  | none =>
    -- A command touches no key, and nothing is recorded.
    rcases block with ⟨instant, keys | keys | target⟩
    · cases hlast
    · cases hlast
    · refine ⟨?_, fun key => ?_⟩
      · rw [htouched, LogBlock.keys, List.append_nil]
        exact h.keys
      · rw [lastTouch?_concat, if_neg (by simp [LogBlock.keys])]
        exact h.last key
  | some last =>
    rw [apply_eq hlast]
    refine ⟨?_, fun key => ?_⟩
    · rw [keys_foldl_put block.keys last h.keys, htouched]
    · rw [lookup_foldl_put, lastTouch?_concat, h.last]
      by_cases hmem : key ∈ block.keys
      · rw [if_pos hmem, if_pos hmem, Option.bind_some, hlast]
      · rw [if_neg hmem, if_neg hmem]

/-- All blocks have been recorded. -/
theorem records_foldl_apply (blocks : List LogBlock) :
    Records (blocks.foldl LogView.apply []) blocks := by
  induction blocks using List.reverseRecOn with
  | nil => exact ⟨rfl, fun _ => rfl⟩
  | append_singleton blocks block ih =>
    rw [List.foldl_concat]
    exact ih.apply block

/-! ## What a replay says -/

/-- What a view says, if it is the replay of some blocks as of a snapshot.  By the blocks
that survive: it tells of each key what the last of them with the key did, and when; it lists
the keys that were put last, in the order in which the keys were first touched; and it counts
the keys.  It also counts the blocks that are later than the snapshot, and those of the others
that put or delete keys and do not survive. -/
structure Tells (view : LogView) (asOf : Instant) (all : List LogBlock) : Prop where
  op : ∀ key, view.op? key = lastOperation? (standing asOf all) key
  instant : ∀ key, view.instant? key = (lastTouch? (standing asOf all) key).map (·.instant)
  nodup : view.upserted.Nodup
  mem_iff : ∀ key, key ∈ view.upserted ↔ lastOperation? (standing asOf all) key = some .upsert
  order : InOrderOf (touched (standing asOf all)) view.upserted
  size : view.size = (touched (standing asOf all)).toFinset.card
  afterSnapshot : view.afterSnapshot = all.countP (asOf < ·.instant)
  rolledBack : view.rolledBack + (standing asOf all).length =
    (all.filter (·.isVisible asOf)).countP (·.operation?.isSome)

/-- What a view tells of one key. -/
theorem Records.last? {view : LogView} (h : Records view.keys blocks) (key : String) :
    view.op? key = lastOperation? blocks key ∧
      view.instant? key = (lastTouch? blocks key).map (·.instant) := by
  rw [op?, instant?, LogView.last?, h.last key, lastOperation?]
  cases htouch : lastTouch? blocks key with
  | none => exact ⟨rfl, rfl⟩
  | some block =>
    have hmem : block ∈ blocks.filter (key ∈ ·.keys) := List.mem_of_getLast? htouch
    rcases operation?_of_mem_keys (by simpa using (List.mem_filter.mp hmem).2) with ⟨op, hop⟩
    simp [lastOp?, hop]

/-- The keys that a view lists. -/
theorem Records.upserted {view : LogView} (h : Records view.keys blocks) :
    InOrderOf (touched blocks) view.upserted ∧
      ∀ key, key ∈ view.upserted ↔ lastOperation? blocks key = some .upsert := by
  have horder : InOrderOf (touched blocks) (view.keys.map (·.1)) := by
    rw [h.keys]
    exact inOrderOf_eraseDups _
  refine ⟨List.Pairwise.sublist (List.filter_sublist.map _) horder, fun key => ?_⟩
  rw [← (h.last? key).1, op?, LogView.last?, LogView.upserted, List.mem_map]
  constructor
  · rintro ⟨⟨other, last⟩, hmem, rfl⟩
    rcases List.mem_filter.mp hmem with ⟨hentry, hop⟩
    rw [(mem_iff_lookup horder.nodup).mp hentry]
    simpa using hop
  · intro hop
    rcases Option.map_eq_some_iff.mp hop with ⟨last, hlast, hupsert⟩
    have hentry := (mem_iff_lookup horder.nodup).mpr hlast
    exact ⟨(key, last), List.mem_filter.mpr ⟨hentry, by simpa using hupsert⟩, rfl⟩

/-- How many keys a view knows. -/
theorem Records.size {view : LogView} (h : Records view.keys blocks) :
    view.size = (touched blocks).toFinset.card := by
  have hsame : (touched blocks).eraseDups.toFinset = (touched blocks).toFinset := by
    ext key
    simp
  rw [← hsame, List.toFinset_card_of_nodup (inOrderOf_eraseDups _).nodup, ← h.keys,
    List.length_map, LogView.size]

/-- The replay of some blocks says what is to be said of them. -/
theorem tells_ofBlocks (asOf : Instant) (all : List LogBlock) :
    (ofBlocks asOf all).Tells asOf all := by
  have haccounts := Survivors.accounts_ofBlocks asOf all
  have hrecords : Records (ofBlocks asOf all).keys (standing asOf all) := by
    rw [← haccounts.blocks]
    exact records_foldl_apply _
  rcases hrecords.upserted with ⟨horder, hmem⟩
  exact ⟨fun key => (hrecords.last? key).1, fun key => (hrecords.last? key).2, horder.nodup, hmem,
    horder, hrecords.size, haccounts.afterSnapshot, haccounts.blocks ▸ haccounts.rolledBack⟩

end LogView

/-! ## Log files that are read -/

/-- A log file that is read: its path, and its blocks. -/
def Response.ofLog (schema : Schema) (file : String × List LogBlock) : Response :=
  ⟨.logBlocks file.1 schema, .ok file.2⟩

/-- Log files that are all read give their blocks, one file after another. -/
theorem ends_readLogs (all : List String) (schema : Schema)
    (files : List (String × List LogBlock)) :
    (readLogs all schema (files.map (·.1))).Ends (files.map (.ofLog schema))
      (.ok (files.flatMap (·.2))) := by
  induction files with
  | nil => exact .done _
  | cons file files ih =>
    have hfirst : (Reading.query (.logBlocks file.1 schema) (.logFiles all)).Ends
        [.ofLog schema file] (.ok file.2) := Reading.ends_query _ _
    exact hfirst.bind (ih.map (file.2 ++ ·))

namespace LogView

/-- The replay of log files that are all read, at whatever paths and with whatever blocks: it
has a result, and this says what is to be said of the blocks of all files, one file after
another. -/
theorem tells_of_reads (files : List (String × List LogBlock)) (schema : Schema)
    (asOf : Instant) :
    ∃ view : LogView, view.Tells asOf (files.flatMap (·.2)) ∧
      ∀ result, (LogView.read (files.map (·.1)) schema asOf).Ends
        (files.map (.ofLog schema)) result ↔ result = .ok view := by
  refine ⟨ofBlocks asOf (files.flatMap (·.2)), tells_ofBlocks _ _, fun result => ?_⟩
  exact ((ends_readLogs (files.map (·.1)) schema files).map (ofBlocks asOf)).result_iff result

end LogView

end KeyIndex
