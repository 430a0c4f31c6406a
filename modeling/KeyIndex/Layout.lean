import KeyIndex.Routing
import KeyIndex.Table.Basic

/-!
# The layout of a job

A job has a number of workers and a number of key groups, and each worker has an
index.  A layout that is made by `Layout.make` has at least one key group for each
worker; a layout that is read from a text is taken as it is.

Main definitions:

- `Layout.maxGroups`, `Layout.defaultGroups`: how many key groups there are.
- `Layout.make`: the checks, in the order in which their failures are reported.
- `Layout.owns`: whether a file group is the worker's.
-/

namespace KeyIndex

/-- One worker's place in a job. -/
structure Layout where
  worker : UInt32
  workers : UInt32
  groups : UInt32
deriving DecidableEq, Inhabited

/-- Why three numbers are no layout. -/
inductive LayoutError where
  | keyGroups (groups : UInt32)
  | parallelism (workers groups : UInt32)
  | workerIndex (worker workers : UInt32)
deriving DecidableEq

/-- The text of a layout error. -/
def LayoutError.message : LayoutError → String
  | .keyGroups groups => s!"Invalid key group count: {groups}"
  | .parallelism workers groups =>
    s!"Invalid parallelism: {workers} workers over {groups} key groups"
  | .workerIndex worker workers =>
    s!"Worker index {worker} out of range for {workers} workers"

namespace Layout

/-- The greatest number of key groups. -/
def maxGroups : UInt32 := 32768

/-- The number of key groups unless another is chosen. -/
def defaultGroups : UInt32 := 128

/-- The layout of worker `worker` of `workers`, over `groups` key groups. -/
def make (worker workers groups : UInt32) : Except LayoutError Layout :=
  if groups = 0 ∨ maxGroups < groups then .error (.keyGroups groups)
  else if workers = 0 ∨ groups < workers then .error (.parallelism workers groups)
  else if workers ≤ worker then .error (.workerIndex worker workers)
  else .ok ⟨worker, workers, groups⟩

/-- Whether the worker has to load the file group. -/
def owns (layout : Layout) (fileGroup : FileGroup) : Bool :=
  Routing.isRoutedTo fileGroup.name layout.groups layout.workers layout.worker

end Layout

end KeyIndex
