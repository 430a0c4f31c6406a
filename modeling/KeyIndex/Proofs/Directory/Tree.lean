import KeyIndex.Proofs.Directory.Path
import KeyIndex.Proofs.Lookup

/-!
# Places in directory trees

A search for partitions reaches a directory of a tree if no name on the way to it is hidden or
that of the metadata directory, and everything on the way is a directory itself.  Links are
never followed, so a place is reached in one way at most, and the order in which the entries of a
directory are listed makes no difference.

Main results:

- Definition `Entry.WellFormed`: a tree as it can stand in a file system.
- Definition `Reaches`: what a search reaches.
- Definition `IsPartition`: which of it is a partition.
- Theorem `Entry.at?_cons_iff`: what stands at a place, by the entries of a directory.
- Theorem `reaches_cons_iff`: what is reached from a directory, by its entries.
- Definition `Entry.SameEntries`, Theorem `Entry.sameEntries_of_perm`: trees that differ in the
  order of listings.
- Theorems `Entry.SameEntries.isPartition_iff`, `Entry.SameEntries.isUnreadable`: this order makes
  no difference.
-/

namespace KeyIndex.Directory

namespace Entry

/-- In a tree as it can stand in a file system, everything has a name, and no two entries of
a directory have the same one. -/
inductive WellFormed : Entry → Prop
  | file : WellFormed file
  | link (target : String) : WellFormed (link target)
  | unreadable (cause : String) : WellFormed (unreadable cause)
  | directory {entries : List (String × Entry)} (nodup : (entries.map (·.1)).Nodup)
      (names : ∀ name entry, (name, entry) ∈ entries → IsName name)
      (below : ∀ name entry, (name, entry) ∈ entries → WellFormed entry) :
      WellFormed (directory entries)

theorem wellFormed_directory_iff {entries : List (String × Entry)} :
    (directory entries).WellFormed ↔
      (entries.map (·.1)).Nodup ∧ ∀ item ∈ entries, IsName item.1 ∧ item.2.WellFormed := by
  constructor
  · rintro (_ | _ | _ | ⟨nodup, names, below⟩)
    exact ⟨nodup, fun item hitem => ⟨names _ _ hitem, below _ _ hitem⟩⟩
  · rintro ⟨nodup, hitems⟩
    exact .directory nodup (fun name entry hmem => (hitems _ hmem).1)
      fun name entry hmem => (hitems _ hmem).2

/-! ## What stands at a place -/

@[simp] theorem at?_nil (entry : Entry) : entry.at? [] = some entry := by cases entry <;> rfl

/-- What stands at a place stands there in one of the entries of the directory. -/
theorem at?_cons_iff {entries : List (String × Entry)} {name : String} {place : Place}
    {found : Entry} (h : (directory entries).WellFormed) :
    (directory entries).at? (name :: place) = some found ↔
      ∃ entry, (name, entry) ∈ entries ∧ entry.at? place = some found := by
  cases h with
  | directory nodup names below =>
    rw [at?, Option.bind_eq_some_iff]
    constructor
    · rintro ⟨entry, hentry, hfound⟩
      exact ⟨entry, (mem_iff_lookup nodup).mpr hentry, hfound⟩
    · rintro ⟨entry, hentry, hfound⟩
      exact ⟨entry, (mem_iff_lookup nodup).mp hentry, hfound⟩

/-- Only directories that can be read have anything in them. -/
theorem exists_of_at?_cons {tree found : Entry} {name : String} {place : Place}
    (h : tree.at? (name :: place) = some found) : ∃ entries, tree = directory entries := by
  cases tree with
  | directory entries => exact ⟨entries, rfl⟩
  | file => cases h
  | link target => cases h
  | unreadable cause => cases h

/-- What stands at a place in a directory at a place stands at both places together. -/
theorem at?_append (tree : Entry) (place more : Place) :
    tree.at? (place ++ more) = (tree.at? place).bind (·.at? more) := by
  induction place generalizing tree with
  | nil => simp
  | cons name place ih =>
    cases tree with
    | directory entries => simp only [List.cons_append, at?, ih, Option.bind_assoc]
    | file => rfl
    | link target => rfl
    | unreadable cause => rfl

/-- Every name on the way to something is the name of an entry. -/
theorem WellFormed.isName_of_at? {tree found : Entry} {place : Place} (h : tree.WellFormed)
    (hfound : tree.at? place = some found) : ∀ name ∈ place, IsName name := by
  induction place generalizing tree with
  | nil => simp
  | cons name place ih =>
    rcases exists_of_at?_cons hfound with ⟨entries, rfl⟩
    rcases (at?_cons_iff h).mp hfound with ⟨entry, hentry, hrest⟩
    cases h with
    | directory nodup names below =>
      exact List.forall_mem_cons.mpr ⟨names name entry hentry, ih (below name entry hentry) hrest⟩

/-- A directory is found under its name, if the name is not too long for a path. -/
theorem find?_name {tree : Entry} {name : String} {entries : List (String × Entry)}
    (hname : IsName name) (hzero : '\x00' ∉ name.toList) (hsize : name.utf8ByteSize ≤ maxNameSize)
    (hat : tree.at? [name] = some (directory entries)) :
    tree.find? name = .ok (directory entries) := by
  have hfollow : tree.follow false maxLinks [] [name] = .ok (tree, [name]) := by
    rw [follow, if_neg (not_or.mpr ⟨hname.ne_empty, hname.ne_here⟩), if_neg hname.ne_up,
      if_neg (by omega), List.nil_append, hat]
    show follow false maxLinks tree [name] [] = .ok (tree, [name])
    rw [follow]
  have hrelative : ¬ (name = "" ∨ isAbsolute name) := by
    simp [hname.ne_empty, hname.not_isAbsolute]
  rw [find?, if_neg (by simpa using hzero), if_neg hrelative, hname.parts_eq, hfollow]
  simp only [bind, Except.bind, hat]

/-! ## Marks -/

/-- Something other than a directory has a name in a directory. -/
def Holds (name : String) (directory : Entry) : Prop :=
  ∃ entry, directory.at? [name] = some entry ∧ entry.isDirectory = false

/-- A directory is marked if it holds the marker. -/
theorem isMarked_iff {marker : String} {entries : List (String × Entry)}
    (h : (directory entries).WellFormed) :
    isMarked marker entries = true ↔ (directory entries).Holds marker := by
  have hat : ∀ entry, (directory entries).at? [marker] = some entry ↔
      (marker, entry) ∈ entries := fun entry => by simp [at?_cons_iff h]
  simp only [isMarked, Holds, hat, List.any_eq_true, Bool.and_eq_true, beq_iff_eq,
    Bool.not_eq_true']
  constructor
  · rintro ⟨⟨name, entry⟩, hmem, rfl, hentry⟩
    exact ⟨entry, hmem, hentry⟩
  · rintro ⟨entry, hmem, hentry⟩
    exact ⟨(marker, entry), hmem, rfl, hentry⟩

end Entry

open Entry

/-! ## What a search reaches -/

/-- A name is hidden if it starts with a full stop. -/
def IsHidden (name : String) : Prop := name.toList.head? = some '.'

theorem isSkipped_eq_false_iff {metadataDir name : String} :
    isSkipped metadataDir name = false ↔ ¬ IsHidden name ∧ name ≠ metadataDir := by
  rw [isSkipped, Bool.or_eq_false_iff, beq_eq_false_iff_ne, beq_eq_false_iff_ne, IsHidden, and_comm]

/-- A search for partitions reaches a directory at a place of a tree. -/
structure Reaches (metadataDir : String) (tree : Entry) (place : Place) (found : Entry) : Prop where
  stands : tree.at? place = some found
  isDirectory : found.isDirectory = true
  searched : ∀ name ∈ place, ¬ IsHidden name ∧ name ≠ metadataDir

/-- At a place of a tree stands a partition: a directory that is reached and holds the marker. -/
def IsPartition (marker metadataDir : String) (tree : Entry) (place : Place) : Prop :=
  ∃ found, Reaches metadataDir tree place found ∧ found.Holds marker

/-- At a place of a tree stands a directory that is reached and cannot be read. -/
def IsUnreadable (metadataDir : String) (tree : Entry) (place : Place) (cause : String) : Prop :=
  Reaches metadataDir tree place (.unreadable cause)

variable {metadataDir : String}

theorem reaches_nil_iff {tree found : Entry} :
    Reaches metadataDir tree [] found ↔ found = tree ∧ tree.isDirectory = true := by
  constructor
  · rintro ⟨hstands, hdirectory, -⟩
    rw [at?_nil, Option.some.injEq] at hstands
    subst hstands
    exact ⟨rfl, hdirectory⟩
  · rintro ⟨rfl, hdirectory⟩
    exact ⟨at?_nil _, hdirectory, by simp⟩

/-- What is reached under a name is reached from the entry with that name. -/
theorem reaches_cons_iff {entries : List (String × Entry)} {name : String} {place : Place}
    {found : Entry} (h : (directory entries).WellFormed) :
    Reaches metadataDir (directory entries) (name :: place) found ↔
      ∃ entry, (name, entry) ∈ entries ∧ isSkipped metadataDir name = false ∧
        Reaches metadataDir entry place found := by
  constructor
  · rintro ⟨hstands, hdirectory, hsearched⟩
    rcases (at?_cons_iff h).mp hstands with ⟨entry, hentry, hrest⟩
    rcases List.forall_mem_cons.mp hsearched with ⟨hname, hplace⟩
    exact ⟨entry, hentry, isSkipped_eq_false_iff.mpr hname, hrest, hdirectory, hplace⟩
  · rintro ⟨entry, hentry, hname, hstands, hdirectory, hplace⟩
    exact ⟨(at?_cons_iff h).mpr ⟨entry, hentry, hstands⟩, hdirectory,
      List.forall_mem_cons.mpr ⟨isSkipped_eq_false_iff.mp hname, hplace⟩⟩

/-- Something is reached only from a directory. -/
theorem Reaches.isDirectory_of {tree found : Entry} {place : Place}
    (h : Reaches metadataDir tree place found) : tree.isDirectory = true := by
  cases place with
  | nil => exact (reaches_nil_iff.mp h).2
  | cons name place =>
    rcases exists_of_at?_cons h.stands with ⟨entries, rfl⟩
    rfl

/-! ## The order of listings -/

/-- What can be told of an entry without a look at its own entries. -/
def Entry.shell : Entry → Entry
  | directory _ => directory []
  | entry => entry

theorem Entry.isDirectory_shell (entry : Entry) : entry.shell.isDirectory = entry.isDirectory := by
  cases entry <;> rfl

/-- Two trees have the same entries, in whatever order their directories list them. -/
def Entry.SameEntries (tree other : Entry) : Prop :=
  ∀ place, (tree.at? place).map shell = (other.at? place).map shell

theorem Entry.SameEntries.symm {tree other : Entry} (h : SameEntries tree other) :
    SameEntries other tree := fun place => (h place).symm

/-- A directory may list its entries in any order. -/
theorem Entry.WellFormed.of_perm {entries other : List (String × Entry)}
    (h : (Entry.directory entries).WellFormed) (hperm : entries.Perm other) :
    (Entry.directory other).WellFormed := by
  rcases wellFormed_directory_iff.mp h with ⟨hnodup, hitems⟩
  refine wellFormed_directory_iff.mpr ⟨(hperm.map _).nodup_iff.mp hnodup, ?_⟩
  intro item hitem
  exact hitems item (hperm.mem_iff.mpr hitem)

/-- In another order they are the same entries. -/
theorem Entry.sameEntries_of_perm {entries other : List (String × Entry)}
    (h : (directory entries).WellFormed) (hperm : entries.Perm other) :
    SameEntries (directory entries) (directory other) := by
  intro place
  cases place with
  | nil => rfl
  | cons name place =>
    have hsame : (directory entries).at? (name :: place) = (directory other).at? (name :: place) := by
      apply Option.ext
      intro found
      simp only [at?_cons_iff h, at?_cons_iff (h.of_perm hperm), hperm.mem_iff]
    rw [hsame]

/-- What is reached in a tree is reached in another one with the same entries. -/
theorem Entry.SameEntries.reaches {tree other found : Entry} {place : Place}
    (h : SameEntries tree other) (hreaches : Reaches metadataDir tree place found) :
    ∃ twin, Reaches metadataDir other place twin ∧ twin.shell = found.shell := by
  have hplace := h place
  rw [hreaches.stands, Option.map_some, eq_comm, Option.map_eq_some_iff] at hplace
  rcases hplace with ⟨twin, htwin, hshell⟩
  have hdirectory : twin.isDirectory = true := by
    rw [← isDirectory_shell, hshell, isDirectory_shell]
    exact hreaches.isDirectory
  exact ⟨twin, ⟨htwin, hdirectory, hreaches.searched⟩, hshell⟩

theorem Entry.SameEntries.isPartition {marker : String} {tree other : Entry} {place : Place}
    (h : SameEntries tree other) (hpartition : IsPartition marker metadataDir tree place) :
    IsPartition marker metadataDir other place := by
  rcases hpartition with ⟨found, hreaches, entry, hentry, hfile⟩
  rcases h.reaches hreaches with ⟨twin, htwin, -⟩
  have hmarker := h (place ++ [marker])
  rw [at?_append, at?_append, hreaches.stands, htwin.stands, Option.bind_some, Option.bind_some,
    hentry, Option.map_some, eq_comm, Option.map_eq_some_iff] at hmarker
  rcases hmarker with ⟨mark, hmark, hshell⟩
  refine ⟨twin, htwin, mark, hmark, ?_⟩
  rw [← isDirectory_shell, hshell, isDirectory_shell, hfile]

/-- The order of listings does not matter for what is a partition. -/
theorem Entry.SameEntries.isPartition_iff {marker : String} {tree other : Entry} {place : Place}
    (h : SameEntries tree other) :
    IsPartition marker metadataDir tree place ↔ IsPartition marker metadataDir other place :=
  ⟨h.isPartition, h.symm.isPartition⟩

/-- The order of listings does not matter for what cannot be read. -/
theorem Entry.SameEntries.isUnreadable {tree other : Entry} {place : Place} {cause : String}
    (h : SameEntries tree other) (hunreadable : IsUnreadable metadataDir tree place cause) :
    IsUnreadable metadataDir other place cause := by
  rcases h.reaches hunreadable with ⟨twin, htwin, hshell⟩
  cases twin with
  | unreadable twinCause => cases hshell; exact htwin
  | directory entries => cases hshell
  | file => cases hshell
  | link target => cases hshell

end KeyIndex.Directory
