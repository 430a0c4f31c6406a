import KeyIndex.Regex.Matcher
import KeyIndex.Table.Keys

/-!
# The pass over a table

A worker loads its share of the index in one pass over the table, as of the latest
commit: for each partition that the filter lets through, for each live slice whose
file group is its own, it sends one entry for each key that is alive.  A table
without a commit has nothing to load.

Main definitions:

- `Pass`: what a worker does in a pass, one step after another.
- `Pass.load`: the pass of a worker.
-/

namespace KeyIndex

/-- What a worker counts. -/
inductive Counter where
  | partitionLoaded
  | partitionSkipped
  | sliceLoaded
  | sliceNotOwned
deriving DecidableEq, Inhabited

/-- A pass, or what is left of one. -/
inductive Pass where
  /-- Nothing is left. -/
  | done
  /-- The pass has failed. -/
  | failed (cause : Failure)
  /-- A question is put to the table, and the pass goes on with the answer. -/
  | ask (query : Query) (next : Except Failure query.Answer → Pass)
  /-- An entry is sent to the output. -/
  | emit (entry : IndexEntry) (next : Pass)
  /-- Something is counted. -/
  | count (counter : Counter) (next : Pass)

namespace Pass

instance : Inhabited Pass := ⟨done⟩

/-! ## Building passes -/

/-- A reading of the table, and what follows from its result.  A failure of the
reading is the failure of the pass. -/
def read {α : Type} : Reading α → (α → Pass) → Pass
  | .done (.ok a), next => next a
  | .done (.error cause), _ => failed cause
  | .ask query rest, next => ask query fun answer => read (rest answer) next

/-- Some entries are sent, one after another. -/
def emitAll (entries : List IndexEntry) (next : Pass) : Pass := entries.foldr emit next

/-- A slice of the worker's own is loaded. -/
def loadSlice (schema : Schema) (asOf : Instant) (slice : FileSlice) (next : Pass) : Pass :=
  read (slice.keys schema asOf) fun keys =>
    emitAll (keys.map (.of · slice)) (count .sliceLoaded next)

/-- Of some slices those are loaded that are the worker's own. -/
def loadSlices (layout : Layout) (schema : Schema) (asOf : Instant) :
    List FileSlice → Pass → Pass
  | [], next => next
  | slice :: slices, next =>
    let rest := loadSlices layout schema asOf slices next
    if layout.owns slice.fileGroup then loadSlice schema asOf slice rest
    else count .sliceNotOwned rest

/-- Of some partitions those are loaded that the filter lets through. -/
def loadPartitions (layout : Layout) (filter : Regex) (schema : Schema) (asOf : Instant) :
    List String → Pass → Pass
  | [], next => next
  | partition :: partitions, next =>
    let rest := loadPartitions layout filter schema asOf partitions next
    if filter.occurs partition then
      read (liveSlices partition asOf) fun slices =>
        loadSlices layout schema asOf slices (count .partitionLoaded rest)
    else count .partitionSkipped rest

/-- The pass of the worker in a layout. -/
def load (layout : Layout) (filter : Regex) : Pass :=
  read (.query .latestInstant id) fun
    | none => done
    | some (asOf : Instant) =>
      read (.query .schema id) fun schema =>
        read (.query .partitions id) fun partitions =>
          loadPartitions layout filter schema asOf partitions done

/-! ## Length -/

/-- How many steps a pass over a table has, if every entry is taken. -/
def length (table : Table) : Pass → Nat
  | done => 0
  | failed _ => 0
  | ask query next => length table (next (table.answer query)) + 1
  | emit _ next => length table next + 1
  | count _ next => length table next + 1

end Pass

end KeyIndex
