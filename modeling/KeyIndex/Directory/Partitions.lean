import KeyIndex.Directory.Basic
import KeyIndex.Failure
import KeyIndex.Settings

/-!
# Partitions of a table in a directory tree

A directory of a table is a partition if it has the marker file.  Partitions may lie
within each other, so the search goes down into every directory that is neither
hidden nor named like the directory with the metadata of the table.

Main definitions:

- `findPartitions`: the partitions among some directories and below them.
- `partitionsBelow`: the partitions of a table, in order.
- `listPartitions`: the partitions of a table whose root is in a tree.
-/

namespace KeyIndex.Directory

/-- Whether the search passes over directories of a name. -/
def isSkipped (metadataDir name : String) : Bool :=
  name == metadataDir || name.toList.head? == some '.'

/-- Whether some entries make their directory a partition. -/
def isMarked (marker : String) (entries : List (String × Entry)) : Bool :=
  entries.any fun (name, entry) => name == marker && !entry.isDirectory

/-- A place as the path of a partition. -/
def partitionPath (place : Entry.Place) : String := "/".intercalate place

/-- The path of a directory as that of a partition, seen from the root of the table. -/
def relativePath (root path : String) : Except Failure String :=
  match (components root).isPrefixOf? (components path) with
  | some place => .ok (partitionPath place)
  | none => .error (.storage s!"Partition {path} outside table root: prefix not found")

/-- The directories among the entries of a directory that the search goes down into,
with their paths. -/
def opened (metadataDir path : String) (entries : List (String × Entry)) :
    List (String × Entry) :=
  (entries.filter fun (name, entry) => entry.isDirectory && !isSkipped metadataDir name).map
    fun (name, entry) => (joinPath path name, entry)

/-- How much there is to search in some directories. -/
noncomputable def weight : List (String × Entry) → Nat
  | [] => 0
  | (_, entry) :: waiting => sizeOf entry + weight waiting

theorem weight_append (directories waiting : List (String × Entry)) :
    weight (directories ++ waiting) = weight directories + weight waiting := by
  induction directories with
  | nil => simp [weight]
  | cons item directories ih =>
    rw [List.cons_append, weight, weight, ih]
    omega

theorem weight_reverse (directories : List (String × Entry)) :
    weight directories.reverse = weight directories := by
  induction directories with
  | nil => rfl
  | cons item directories ih =>
    rw [List.reverse_cons, weight_append, ih, weight, weight, weight]
    omega

/-- What the search goes down into is smaller than where it comes from. -/
theorem weight_opened (metadataDir path : String) (entries : List (String × Entry)) :
    weight (opened metadataDir path entries) < sizeOf (Entry.directory entries) := by
  induction entries with
  | nil => simp [weight, opened]
  | cons head entries ih =>
    rcases head with ⟨name, entry⟩
    simp only [Entry.directory.sizeOf_spec, List.cons.sizeOf_spec, Prod.mk.sizeOf_spec] at ih ⊢
    by_cases hopened : (entry.isDirectory && !isSkipped metadataDir name) = true
    · have hcons : opened metadataDir path ((name, entry) :: entries) =
          (joinPath path name, entry) :: opened metadataDir path entries := by
        simp [opened, hopened]
      rw [hcons, weight]
      omega
    · have hcons : opened metadataDir path ((name, entry) :: entries) =
          opened metadataDir path entries := by
        simp [opened, hopened]
      rw [hcons]
      omega

/-- The paths of the partitions among some directories that wait for the search, and
below them.  The first of them is read; those that it holds wait before all others,
the last one first.  A directory that cannot be read ends the search. -/
def findPartitions (root marker metadataDir : String) :
    List (String × Entry) → Except Failure (List String)
  | [] => .ok []
  | (path, .directory entries) :: waiting => do
    let here ← if isMarked marker entries then (relativePath root path).map ([·]) else .ok []
    let others ← findPartitions root marker metadataDir
      ((opened metadataDir path entries).reverse ++ waiting)
    return here ++ others
  | (_, .unreadable cause) :: _ => .error (.io cause)
  | _ :: _ => .error (.io Entry.PathError.notDirectory.message)
termination_by waiting => weight waiting
decreasing_by
  have hsmaller := weight_opened metadataDir path entries
  rw [weight_append, weight_reverse, weight]
  omega

/-- The paths of the partitions of a table, in ascending order.  Its root is a directory with
a path. -/
def partitionsBelow (root : String) (directory : Entry) (marker metadataDir : String) :
    Except Failure (List String) := do
  let paths ← findPartitions root marker metadataDir [(root, directory)]
  return paths.mergeSort fun a b => a ≤ b

/-- The paths of the partitions of a table whose root is at a path in a tree. -/
def listPartitions (tree : Entry) (root : String) (marker metadataDir : String) :
    Except Failure (List String) :=
  match tree.find? root with
  | .error cause => .error (.io cause.message)
  | .ok directory => partitionsBelow root directory marker metadataDir

end KeyIndex.Directory
