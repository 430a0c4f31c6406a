import KeyIndex.Table.Basic

/-!
# Log files and their replay

A log file is a list of blocks, each written at an instant: records that were put,
records that were deleted, or a command that rolls back what an earlier instant
wrote.  The blocks of some log files, oldest first, are replayed as of a snapshot:
what is later than the snapshot is passed over, what was rolled back is dropped, and
of the operations on one key the last one holds.

Main definitions:

- `LogBlock`: the blocks.
- `Survivors.ofBlocks`: the blocks that are left, with counts of the others.
- `LogView`: what is known of each key after the replay.
-/

namespace KeyIndex

/-- What a log block holds. -/
inductive LogContent where
  /-- Keys of records that were inserted or updated. -/
  | data (keys : List String)
  /-- Keys of records that were deleted. -/
  | delete (keys : List String)
  /-- A command that undoes the earlier blocks of an instant. -/
  | rollback (target : Instant)
deriving DecidableEq, Inhabited

/-- One block of a log file, with the instant that wrote it. -/
structure LogBlock where
  instant : Instant
  content : LogContent
deriving DecidableEq, Inhabited

/-- What was last done to a key. -/
inductive Operation where
  | upsert
  | delete
deriving DecidableEq, Inhabited

/-- The operations that a block makes, in order. -/
def LogBlock.operations (block : LogBlock) : List (String × Operation) :=
  match block.content with
  | .data keys => keys.map (·, .upsert)
  | .delete keys => keys.map (·, .delete)
  | .rollback _ => []

/-! ## Which blocks are left -/

/-- The blocks that are left after some of the blocks have been read, and how many
were not kept. -/
structure Survivors where
  blocks : List LogBlock := []
  afterSnapshot : Nat := 0
  rolledBack : Nat := 0
deriving DecidableEq

namespace Survivors

/-- What one more block does, as of `asOf`. -/
def read (asOf : Instant) (s : Survivors) (block : LogBlock) : Survivors :=
  if asOf < block.instant then { s with afterSnapshot := s.afterSnapshot + 1 }
  else
    match block.content with
    | .rollback target =>
      let (dropped, kept) := s.blocks.partition (·.instant = target)
      { s with blocks := kept, rolledBack := s.rolledBack + dropped.length }
    | _ => { s with blocks := s.blocks ++ [block] }

/-- What is left of some blocks, oldest first, as of `asOf`. -/
def ofBlocks (asOf : Instant) (blocks : List LogBlock) : Survivors :=
  blocks.foldl (read asOf) {}

end Survivors

/-! ## What is known of the keys -/

/-- The last operation on a key and the instant of the block with it. -/
structure LastOp where
  op : Operation
  instant : Instant
deriving DecidableEq, Inhabited

/-- What the replay of some log files says: for each key, in the order in which the
keys were first touched, its last operation, with counts of the blocks that had no
part in it.  A view that is closed has forgotten the keys. -/
structure LogView where
  keys : List (String × LastOp) := []
  afterSnapshot : Nat := 0
  rolledBack : Nat := 0
  closed : Bool := false
deriving DecidableEq

namespace LogView

/-- Records an operation: in the place of the key, or at the end for a new key. -/
def put (keys : List (String × LastOp)) (key : String) (last : LastOp) :
    List (String × LastOp) :=
  match keys with
  | [] => [(key, last)]
  | (k, l) :: rest => if k = key then (k, last) :: rest else (k, l) :: put rest key last

/-- A key that is put has the operation; the others keep theirs. -/
theorem lookup_put (keys : List (String × LastOp)) (key other : String) (last : LastOp) :
    (put keys key last).lookup other = if other = key then some last else keys.lookup other := by
  have beq (a b : String) (h : ¬ a = b) : (a == b) = false := by simpa using h
  induction keys with
  | nil => by_cases h : other = key <;> simp [put, List.lookup_cons, h, beq]
  | cons entry rest ih =>
    obtain ⟨k, l⟩ := entry
    by_cases hk : k = key
    · subst hk
      by_cases h : other = k <;> simp [put, List.lookup_cons, h, beq]
    · by_cases h : other = k
      · subst h
        simp [put, hk]
      · simp [put, List.lookup_cons, hk, h, beq, ih]

/-- Putting a key that is known changes no key, and a new key comes last. -/
theorem keys_put (keys : List (String × LastOp)) (key : String) (last : LastOp) :
    (put keys key last).map (·.1) =
      if key ∈ keys.map (·.1) then keys.map (·.1) else keys.map (·.1) ++ [key] := by
  induction keys with
  | nil => simp [put]
  | cons entry rest ih =>
    obtain ⟨k, l⟩ := entry
    by_cases hk : k = key
    · simp [put, hk]
    · have hne : ¬ key = k := fun h => hk h.symm
      by_cases hm : key ∈ rest.map (·.1) <;> simp_all [put]

/-- Records the operations of a block. -/
def apply (keys : List (String × LastOp)) (block : LogBlock) : List (String × LastOp) :=
  block.operations.foldl (fun keys (key, op) => put keys key ⟨op, block.instant⟩) keys

/-- The replay of some blocks, oldest first, as of `asOf`. -/
def ofBlocks (asOf : Instant) (blocks : List LogBlock) : LogView :=
  let survivors := Survivors.ofBlocks asOf blocks
  { keys := survivors.blocks.foldl apply []
    afterSnapshot := survivors.afterSnapshot
    rolledBack := survivors.rolledBack }

/-- What was last done to a key, if the log touched it. -/
def last? (view : LogView) (key : String) : Option LastOp := view.keys.lookup key

/-- The last operation on a key. -/
def op? (view : LogView) (key : String) : Option Operation := (view.last? key).map (·.op)

/-- The instant of the block that last touched a key. -/
def instant? (view : LogView) (key : String) : Option Instant :=
  (view.last? key).map (·.instant)

/-- Whether the last operation on a key deleted it. -/
def deletes (view : LogView) (key : String) : Bool := view.op? key == some .delete

/-- The keys whose last operation put them, in the order in which they were first
touched. -/
def upserted (view : LogView) : List String :=
  (view.keys.filter (·.2.op = .upsert)).map (·.1)

/-- How many keys the log touched. -/
def size (view : LogView) : Nat := view.keys.length

/-- Forgets the keys. -/
def close (view : LogView) : LogView := { view with keys := [], closed := true }

end LogView

end KeyIndex
