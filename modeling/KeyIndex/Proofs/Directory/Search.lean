import KeyIndex.Proofs.Directory.Tree
import Mathlib.Data.List.Sort
import Mathlib.Data.String.Basic

/-!
# What the search for partitions finds

The search keeps directories that wait for it.  At every time none of them lies in another one,
and what the search has yet to reach is what is reached from them.  When a directory is read, it
gives way to those that it opens; so every directory is read once, and whether it is a partition
is decided at that time.  The directories are smaller and smaller trees, so the search comes to
an end, and its result does not depend on the order in which directories list their entries.

Main results:

- Definitions `CanWait`, `Stack.Apart`: what waits, and that it lies apart.
- Definition `Stack.Comes`: what the search comes to from them.
- Theorems `Stack.Apart.step`, `Stack.comes_step`: what becomes of both when a directory is read.
- Definition `Outcome`, Theorem `findPartitions_outcome`: what the search finds from some
  directories, and when it fails.
- Definition `IsListing`, Theorem `listPartitions_of_wellFormed`: the partitions of a table.
-/

namespace KeyIndex.Directory

open Entry

/-! ## Places that lie apart -/

/-- Neither of two places lies below the other. -/
def Diverge (place other : Place) : Prop := ¬ place <+: other ∧ ¬ other <+: place

theorem Diverge.symm {place other : Place} (h : Diverge place other) : Diverge other place :=
  ⟨h.2, h.1⟩

/-- Different names in a directory lie apart. -/
theorem diverge_siblings (place : Place) {name other : String} (h : name ≠ other) :
    Diverge (place ++ [name]) (place ++ [other]) := by
  constructor
  · simpa [List.prefix_append_right_inj] using h
  · simpa [List.prefix_append_right_inj] using h.symm

/-- What lies apart from a directory lies apart from what is in it. -/
theorem Diverge.concat {place other : Place} (h : Diverge place other) (name : String) :
    Diverge (place ++ [name]) other := by
  constructor
  · exact fun hbelow => h.1 ((List.prefix_append place [name]).trans hbelow)
  · intro habove
    rcases List.prefix_concat_iff.mp habove with hself | hbelow
    · exact h.1 ⟨[name], hself.symm⟩
    · exact h.2 hbelow

/-! ## Directories that wait -/

/-- Directories with their places below the root of a table, in the order in which they are
read. -/
abbrev Stack := List (Place × Entry)

/-- The directories as the search keeps them. -/
def Stack.waiting (root : String) (stack : Stack) : List (String × Entry) :=
  stack.map fun (place, entry) => (pathTo root place, entry)

/-- The directories that a directory at a place opens. -/
def openedAt (metadataDir : String) (place : Place) (entries : List (String × Entry)) : Stack :=
  (entries.filter fun (name, entry) => entry.isDirectory && !isSkipped metadataDir name).map
    fun (name, entry) => (place ++ [name], entry)

/-- What waits once a directory has been read. -/
def Stack.step (metadataDir : String) (place : Place) (entries : List (String × Entry))
    (stack : Stack) : Stack :=
  (openedAt metadataDir place entries).reverse ++ stack

section Waiting

variable {root marker metadataDir : String} {place : Place} {entries : List (String × Entry)}
  {stack : Stack}

theorem mem_openedAt_iff {item : Place × Entry} :
    item ∈ openedAt metadataDir place entries ↔
      ∃ name, (name, item.2) ∈ entries ∧ item.2.isDirectory = true ∧
        isSkipped metadataDir name = false ∧ item.1 = place ++ [name] := by
  rcases item with ⟨below, entry⟩
  simp only [openedAt, List.mem_map, List.mem_filter, Bool.and_eq_true, Bool.not_eq_true',
    Prod.mk.injEq]
  constructor
  · rintro ⟨⟨name, child⟩, ⟨hmem, hdirectory, hname⟩, hplace, rfl⟩
    exact ⟨name, hmem, hdirectory, hname, hplace.symm⟩
  · rintro ⟨name, hmem, hdirectory, hname, rfl⟩
    exact ⟨(name, entry), ⟨hmem, hdirectory, hname⟩, rfl, rfl⟩

theorem mem_step_iff {item : Place × Entry} :
    item ∈ stack.step metadataDir place entries ↔
      item ∈ openedAt metadataDir place entries ∨ item ∈ stack := by
  rw [Stack.step, List.mem_append, List.mem_reverse]

theorem opened_pathTo :
    opened metadataDir (pathTo root place) entries =
      (openedAt metadataDir place entries).waiting root := by
  simp [opened, openedAt, Stack.waiting, pathTo_concat, Function.comp_def]

theorem waiting_step :
    (stack.step metadataDir place entries).waiting root =
      (opened metadataDir (pathTo root place) entries).reverse ++ stack.waiting root := by
  rw [opened_pathTo]
  simp [Stack.step, Stack.waiting]

/-- What waits first is the first of the directories. -/
theorem exists_of_waiting_cons {path : String} {entry : Entry} {rest : List (String × Entry)}
    (h : stack.waiting root = (path, entry) :: rest) :
    ∃ (place : Place) (tail : Stack), stack = (place, entry) :: tail ∧ path = pathTo root place ∧
      rest = tail.waiting root := by
  cases stack with
  | nil => cases h
  | cons item tail =>
    rcases List.cons.inj h with ⟨hitem, hrest⟩
    rcases Prod.mk.inj hitem with ⟨hpath, hentry⟩
    subst hentry
    exact ⟨item.1, tail, rfl, hpath.symm, hrest.symm⟩

/-! ## The invariant of the search -/

/-- What waits is a directory of a well-formed tree, at a place that is made of names. -/
structure CanWait (item : Place × Entry) : Prop where
  names : ∀ name ∈ item.1, IsName name
  wellFormed : item.2.WellFormed
  isDirectory : item.2.isDirectory = true

/-- What a directory opens can wait. -/
theorem CanWait.openedAt (h : CanWait (place, .directory entries)) :
    ∀ item ∈ openedAt metadataDir place entries, CanWait item := by
  rintro ⟨below, entry⟩ hitem
  rcases mem_openedAt_iff.mp hitem with ⟨name, hmem, hdirectory, -, rfl⟩
  cases h.wellFormed with
  | directory nodup names below =>
    refine ⟨?_, below name entry hmem, hdirectory⟩
    rw [List.forall_mem_append, List.forall_mem_singleton]
    exact ⟨h.names, names name entry hmem⟩

/-- None of the directories that wait lies in another one. -/
structure Stack.Apart (stack : Stack) : Prop where
  waits : ∀ item ∈ stack, CanWait item
  apart : stack.Pairwise fun item other => Diverge item.1 other.1

/-- The root of a table alone. -/
theorem apart_root {entry : Entry} (h : entry.WellFormed) (hdirectory : entry.isDirectory = true) :
    Stack.Apart [([], entry)] where
  waits := List.forall_mem_singleton.mpr ⟨by simp, h, hdirectory⟩
  apart := List.pairwise_singleton _ _

theorem Stack.Apart.first {item : Place × Entry} (h : Stack.Apart (item :: stack)) : CanWait item :=
  h.waits item List.mem_cons_self

/-- The directories that a directory opens lie apart. -/
theorem pairwise_openedAt (h : (directory entries).WellFormed) :
    (openedAt metadataDir place entries).Pairwise fun item other => Diverge item.1 other.1 := by
  have hnames : entries.Pairwise fun entry other => entry.1 ≠ other.1 :=
    List.pairwise_map.mp (wellFormed_directory_iff.mp h).1
  rw [openedAt, List.pairwise_map]
  exact (hnames.imp fun hne => diverge_siblings place hne).filter _

/-- The invariant is kept when a directory is read. -/
theorem Stack.Apart.step (h : Stack.Apart ((place, .directory entries) :: stack)) :
    Stack.Apart (stack.step metadataDir place entries) := by
  rcases List.pairwise_cons.mp h.apart with ⟨hfirst, hrest⟩
  constructor
  case waits =>
    intro item hitem
    rcases mem_step_iff.mp hitem with hopened | hstack
    · exact h.first.openedAt item hopened
    · exact h.waits item (List.mem_cons_of_mem _ hstack)
  case apart =>
    rw [Stack.step, List.pairwise_append, List.pairwise_reverse]
    refine ⟨(pairwise_openedAt h.first.wellFormed).imp fun happart => happart.symm, hrest, ?_⟩
    -- What is opened lies below the directory that was read, which lies apart from all others.
    intro item hopened other hother
    rcases mem_openedAt_iff.mp (List.mem_reverse.mp hopened) with ⟨name, -, -, -, hplaced⟩
    rw [hplaced]
    exact (hfirst other hother).concat name

/-! ## What the search comes to -/

/-- From some directories the search comes to a directory at a place. -/
def Stack.Comes (metadataDir : String) (stack : Stack) (target : Place) (found : Entry) : Prop :=
  ∃ item ∈ stack, ∃ rest, target = item.1 ++ rest ∧ Reaches metadataDir item.2 rest found

variable {target : Place} {found : Entry}

theorem comes_root_iff {entry : Entry} :
    Stack.Comes metadataDir [([], entry)] target found ↔ Reaches metadataDir entry target found := by
  simp [Stack.Comes]

theorem comes_cons_iff {entry : Entry} :
    Stack.Comes metadataDir ((place, entry) :: stack) target found ↔
      (∃ rest, target = place ++ rest ∧ Reaches metadataDir entry rest found) ∨
        Stack.Comes metadataDir stack target found := by
  simp [Stack.Comes]

/-- What a directory opens leads to what is reached from it, itself apart. -/
theorem comes_openedAt_iff (h : (directory entries).WellFormed) :
    Stack.Comes metadataDir (openedAt metadataDir place entries) target found ↔
      ∃ name rest, target = place ++ name :: rest ∧
        Reaches metadataDir (directory entries) (name :: rest) found := by
  constructor
  · rintro ⟨⟨below, entry⟩, hitem, rest, htarget, hreaches⟩
    rcases mem_openedAt_iff.mp hitem with ⟨name, hmem, -, hname, hplaced⟩
    refine ⟨name, rest, ?_, (reaches_cons_iff h).mpr ⟨entry, hmem, hname, hreaches⟩⟩
    rw [htarget, hplaced, List.append_assoc, List.singleton_append]
  · rintro ⟨name, rest, htarget, hreaches⟩
    rcases (reaches_cons_iff h).mp hreaches with ⟨entry, hmem, hname, hrest⟩
    refine ⟨(place ++ [name], entry), ?_, rest, ?_, hrest⟩
    · exact mem_openedAt_iff.mpr ⟨name, hmem, hrest.isDirectory_of, hname, rfl⟩
    · rw [htarget, List.append_assoc, List.singleton_append]

/-- When a directory is read, the search has come to it, and what else it comes to stays. -/
theorem comes_step_iff (h : (directory entries).WellFormed) :
    Stack.Comes metadataDir ((place, .directory entries) :: stack) target found ↔
      (target = place ∧ found = .directory entries) ∨
        Stack.Comes metadataDir (stack.step metadataDir place entries) target found := by
  have hstep : Stack.Comes metadataDir (stack.step metadataDir place entries) target found ↔
      Stack.Comes metadataDir (openedAt metadataDir place entries) target found ∨
        Stack.Comes metadataDir stack target found := by
    simp only [Stack.Comes, mem_step_iff, or_and_right, exists_or]
  rw [hstep, comes_openedAt_iff h, comes_cons_iff, ← or_assoc]
  refine or_congr_left ?_
  constructor
  · rintro ⟨rest, htarget, hreaches⟩
    cases rest with
    | nil => exact .inl ⟨by rw [htarget, List.append_nil], (reaches_nil_iff.mp hreaches).1⟩
    | cons name rest => exact .inr ⟨name, rest, htarget, hreaches⟩
  · rintro (⟨rfl, rfl⟩ | ⟨name, rest, htarget, hreaches⟩)
    · exact ⟨[], (List.append_nil _).symm, reaches_nil_iff.mpr ⟨rfl, rfl⟩⟩
    · exact ⟨name :: rest, htarget, hreaches⟩

/-- The search does not come to a directory again once it has been read. -/
theorem Stack.Apart.ne_of_comes_step (h : Stack.Apart ((place, .directory entries) :: stack))
    (hcomes : Stack.Comes metadataDir (stack.step metadataDir place entries) target found) :
    target ≠ place := by
  rintro rfl
  rcases hcomes with ⟨item, hitem, rest, htarget, -⟩
  have habove : item.1 <+: target := ⟨rest, htarget.symm⟩
  rcases mem_step_iff.mp hitem with hopened | hstack
  · rcases mem_openedAt_iff.mp hopened with ⟨name, -, -, -, hplaced⟩
    have hlength := habove.length_le
    rw [hplaced, List.length_append, List.length_singleton] at hlength
    omega
  · exact ((List.pairwise_cons.mp h.apart).1 item hstack).2 habove

/-! ## The search -/

/-- How the search ends from some directories.  If it comes to none that cannot be read, it finds
the paths of those that hold the marker, and each of them once.  Otherwise it fails, with the
cause why one of them cannot be read. -/
def Outcome (marker metadataDir : String) (stack : Stack) :
    Except Failure (List String) → Prop
  | .ok paths =>
    (∀ target cause, ¬ stack.Comes metadataDir target (.unreadable cause)) ∧
      ∃ places : List Place, paths = places.map partitionPath ∧ places.Nodup ∧
        ∀ target, target ∈ places ↔ ∃ found, stack.Comes metadataDir target found ∧
          found.Holds marker
  | .error failure =>
    ∃ target cause, stack.Comes metadataDir target (.unreadable cause) ∧ failure = .io cause

/-- What is found in a directory itself. -/
def foundAt (marker : String) (place : Place) (entries : List (String × Entry)) : List String :=
  if isMarked marker entries then [partitionPath place] else []

/-- The search reads the first directory, and goes on with what waits then. -/
theorem findPartitions_directory (h : ∀ name ∈ place, IsName name) :
    findPartitions root marker metadataDir
        (Stack.waiting root ((place, .directory entries) :: stack)) =
      (findPartitions root marker metadataDir
        ((stack.step metadataDir place entries).waiting root)).map
          (foundAt marker place entries ++ ·) := by
  rw [waiting_step, foundAt]
  simp only [Stack.waiting, List.map_cons]
  rw [findPartitions, relativePath_pathTo h]
  cases findPartitions root marker metadataDir
      ((opened metadataDir (pathTo root place) entries).reverse ++
        stack.map fun (place, entry) => (pathTo root place, entry)) <;>
    split <;> rfl

/-- How the search ends is told by how it ends once the first directory has been read. -/
theorem Outcome.step {result : Except Failure (List String)}
    (h : Stack.Apart ((place, .directory entries) :: stack))
    (hrest : Outcome marker metadataDir (stack.step metadataDir place entries) result) :
    Outcome marker metadataDir ((place, .directory entries) :: stack)
      (result.map (foundAt marker place entries ++ ·)) := by
  have hwell := h.first.wellFormed
  cases result with
  | error failure =>
    rcases hrest with ⟨target, cause, hcomes, hfailure⟩
    exact ⟨target, cause, (comes_step_iff hwell).mpr (.inr hcomes), hfailure⟩
  | ok paths =>
    rcases hrest with ⟨hreadable, places, rfl, hnodup, hplaces⟩
    refine ⟨?_, ?_⟩
    · intro target cause hcomes
      rcases (comes_step_iff hwell).mp hcomes with ⟨-, hself⟩ | hcomes
      · cases hself
      · exact hreadable target cause hcomes
    · have hfound : ∀ target, (∃ found, Stack.Comes metadataDir ((place, .directory entries) ::
            stack) target found ∧ found.Holds marker) ↔
          (target = place ∧ isMarked marker entries = true) ∨ target ∈ places := by
        intro target
        simp only [comes_step_iff hwell, hplaces, isMarked_iff hwell, or_and_right, exists_or,
          and_assoc, exists_eq_left, exists_and_left]
      by_cases hmarked : isMarked marker entries = true
      · -- What is found later lies below a directory that still waits, so it is not this one.
        have hnew : place ∉ places := by
          intro hmem
          rcases (hplaces place).mp hmem with ⟨found, hcomes, -⟩
          exact h.ne_of_comes_step hcomes rfl
        refine ⟨place :: places, ?_, List.nodup_cons.mpr ⟨hnew, hnodup⟩, fun target => ?_⟩
        · rw [foundAt, if_pos hmarked]
          rfl
        · rw [hfound, List.mem_cons]
          simp [hmarked]
      · refine ⟨places, ?_, hnodup, fun target => ?_⟩
        · rw [foundAt, if_neg hmarked]
          rfl
        · rw [hfound]
          simp [hmarked]

/-- How the search ends.  By induction on the search itself; the invariant is that what waits
lies apart. -/
theorem findPartitions_outcome (h : stack.Apart) :
    Outcome marker metadataDir stack
      (findPartitions root marker metadataDir (stack.waiting root)) := by
  induction hwaiting : stack.waiting root using findPartitions.induct root marker metadataDir
    generalizing stack with
  | case1 =>
    rw [Stack.waiting, List.map_eq_nil_iff] at hwaiting
    subst hwaiting
    rw [findPartitions]
    exact ⟨by simp [Stack.Comes], [], rfl, List.nodup_nil, by simp [Stack.Comes]⟩
  -- Whether the directory that is read has the marker or not, the search goes on in the same way.
  | case2 path entries waiting _ ih | case3 path entries waiting _ ih =>
    rcases exists_of_waiting_cons hwaiting with ⟨place, tail, rfl, rfl, rfl⟩
    rw [← hwaiting, findPartitions_directory h.first.names]
    rw [← waiting_step] at ih
    exact Outcome.step h (ih h.step rfl)
  | case4 path cause waiting =>
    rcases exists_of_waiting_cons hwaiting with ⟨place, tail, rfl, rfl, rfl⟩
    rw [findPartitions]
    exact ⟨place, cause, comes_cons_iff.mpr
      (.inl ⟨[], (List.append_nil _).symm, reaches_nil_iff.mpr ⟨rfl, rfl⟩⟩), rfl⟩
  | case5 head waiting hdirectory hunreadable =>
    rcases head with ⟨path, entry⟩
    rcases exists_of_waiting_cons hwaiting with ⟨place, tail, rfl, -, -⟩
    have hentry := h.first.isDirectory
    cases entry with
    | directory entries => exact absurd rfl (hdirectory path entries)
    | unreadable cause => exact absurd rfl (hunreadable path cause)
    | file => cases hentry
    | link target => cases hentry

end Waiting

/-! ## The partitions of a table -/

/-- What the partitions of a table are, if its root is a directory.  When a directory that is
reached cannot be read, that is the failure.  Otherwise they are the paths of the directories
that are reached and hold the marker, in ascending order, each of them once. -/
def IsListing (marker metadataDir : String) (directory : Entry) :
    Except Failure (List String) → Prop
  | .ok paths =>
    (∀ place cause, ¬ IsUnreadable metadataDir directory place cause) ∧
      paths.Pairwise (· < ·) ∧
      ∀ path, path ∈ paths ↔
        ∃ place, IsPartition marker metadataDir directory place ∧ path = partitionPath place
  | .error failure =>
    ∃ place cause, IsUnreadable metadataDir directory place cause ∧ failure = .io cause

variable {marker metadataDir : String}

/-- The names on the way to a partition are names of entries. -/
theorem IsPartition.isName {tree : Entry} {place : Place}
    (h : IsPartition marker metadataDir tree place) (hwell : tree.WellFormed) :
    ∀ name ∈ place, IsName name := by
  rcases h with ⟨found, hreaches, -⟩
  exact hwell.isName_of_at? hreaches.stands

/-- To put different texts in order puts them in ascending order. -/
theorem pairwise_lt_mergeSort {paths : List String} (h : paths.Nodup) :
    (paths.mergeSort fun a b => a ≤ b).Pairwise (· < ·) := by
  have hle : (paths.mergeSort fun a b => a ≤ b).Pairwise (· ≤ ·) := by
    have hsorted := @List.pairwise_mergeSort _ (fun a b : String => decide (a ≤ b))
      (by simpa using fun _ _ _ => le_trans) (by simpa using le_total) paths
    simpa using hsorted
  have hne := (List.mergeSort_perm paths fun a b => a ≤ b).nodup_iff.mpr h
  exact (hle.and hne).imp fun ⟨hle, hne⟩ => lt_of_le_of_ne hle hne

/-- The search from the root of a table alone. -/
theorem isListing_partitionsBelow {directory : Entry} (h : directory.WellFormed)
    (hdirectory : directory.isDirectory = true) (root : String) :
    IsListing marker metadataDir directory
      (partitionsBelow root directory marker metadataDir) := by
  have houtcome := @findPartitions_outcome root marker metadataDir _ (apart_root h hdirectory)
  have hroot : Stack.waiting root [([], directory)] = [(root, directory)] := rfl
  rw [hroot] at houtcome
  cases hfound : findPartitions root marker metadataDir [(root, directory)] with
  | error failure =>
    rw [partitionsBelow, hfound]
    rw [hfound] at houtcome
    rcases houtcome with ⟨place, cause, hcomes, hfailure⟩
    exact ⟨place, cause, comes_root_iff.mp hcomes, hfailure⟩
  | ok paths =>
    rw [partitionsBelow, hfound]
    rw [hfound] at houtcome
    rcases houtcome with ⟨hreadable, places, rfl, hnodup, hplaces⟩
    simp only [comes_root_iff] at hreadable hplaces
    refine ⟨hreadable, ?_, ?_⟩
    · have hnames : ∀ place ∈ places, ∀ name ∈ place, IsName name := fun place hplace =>
        IsPartition.isName ((hplaces place).mp hplace) h
      have hpaths : (places.map partitionPath).Nodup :=
        List.Nodup.map_on (fun place hplace other hother hsame =>
          partitionPath_injective (hnames place hplace) (hnames other hother) hsame) hnodup
      exact pairwise_lt_mergeSort hpaths
    · intro path
      rw [List.mem_mergeSort, List.mem_map]
      constructor
      · rintro ⟨place, hplace, rfl⟩
        exact ⟨place, (hplaces place).mp hplace, rfl⟩
      · rintro ⟨place, hplace, rfl⟩
        exact ⟨place, (hplaces place).mpr hplace, rfl⟩

/-- A table that can be read is listed. -/
theorem IsListing.exists_ok {directory : Entry} {result : Except Failure (List String)}
    (h : IsListing marker metadataDir directory result)
    (hreadable : ∀ place cause, ¬ IsUnreadable metadataDir directory place cause) :
    ∃ paths, result = .ok paths := by
  cases result with
  | ok paths => exact ⟨paths, rfl⟩
  | error failure =>
    rcases h with ⟨place, cause, hunreadable, -⟩
    exact absurd hunreadable (hreadable place cause)

/-- What is listed of a table in a tree is what is found from its root. -/
theorem listPartitions_of_find? {tree directory : Entry} {root : String}
    (h : tree.find? root = .ok directory) :
    listPartitions tree root marker metadataDir =
      partitionsBelow root directory marker metadataDir := by
  rw [listPartitions, h]

/-- Listings of the same entries are the same, in whatever order these are listed. -/
theorem IsListing.eq_of_sameEntries {directory other : Entry} {paths otherPaths : List String}
    (hsame : SameEntries directory other)
    (h : IsListing marker metadataDir directory (.ok paths))
    (hother : IsListing marker metadataDir other (.ok otherPaths)) : otherPaths = paths := by
  refine hother.2.1.eq_of_mem_iff h.2.1 fun path => ?_
  rw [hother.2.2, h.2.2]
  simp only [hsame.isPartition_iff]

/-- The partitions of a table whose root is a directory that can be read.  The search comes to
an end; it finds the partitions, and fails only if a directory that it reaches cannot be read.
A tree with the same entries in another order has the same partitions. -/
theorem listPartitions_of_wellFormed {entries : List (String × Entry)}
    (h : (directory entries).WellFormed) (root marker metadataDir : String) :
    IsListing marker metadataDir (directory entries)
        (partitionsBelow root (directory entries) marker metadataDir) ∧
      (∀ tree : Entry, tree.find? root = .ok (directory entries) →
        listPartitions tree root marker metadataDir =
          partitionsBelow root (directory entries) marker metadataDir) ∧
      ∀ (other : List (String × Entry)) (paths : List String), (directory other).WellFormed →
        SameEntries (directory entries) (directory other) →
        partitionsBelow root (directory entries) marker metadataDir = .ok paths →
        partitionsBelow root (directory other) marker metadataDir = .ok paths := by
  have hlisting := @isListing_partitionsBelow marker metadataDir _ h rfl root
  refine ⟨hlisting, fun tree htree => listPartitions_of_find? htree, ?_⟩
  intro other paths hwell hsame hpaths
  rw [hpaths] at hlisting
  have hother := @isListing_partitionsBelow marker metadataDir _ hwell rfl root
  rcases hother.exists_ok fun place cause hunreadable =>
    hlisting.1 place cause (hsame.symm.isUnreadable hunreadable) with ⟨otherPaths, hfound⟩
  rw [hfound] at hother ⊢
  rw [hlisting.eq_of_sameEntries hsame hother]

/-- A table with a link that leads back to it, a marker that is a link to nowhere, and a marked
directory that is hidden. -/
def looped : List (String × Entry) :=
  [("a", .directory [("m", .link "nowhere"), ("up", .link "..")]),
    (".old", .directory [("m", .file)]), ("b", .directory [("m", .file)])]

/-- Its partitions, in whatever order it lists its entries. -/
theorem listPartitions_looped :
    (directory looped).WellFormed ∧ (directory looped.reverse).WellFormed ∧
      SameEntries (directory looped) (directory looped.reverse) ∧
      (directory [("t", directory looped)]).find? "t" = .ok (directory looped) ∧
      listPartitions (directory [("t", directory looped)]) "t" "m" "meta" = .ok ["a", "b"] ∧
      IsListing "m" "meta" (directory looped) (.ok ["a", "b"]) ∧
      partitionsBelow "t" (directory looped.reverse) "m" "meta" = .ok ["a", "b"] := by
  have hwell : (directory looped).WellFormed := by
    simp only [looped, wellFormed_directory_iff, List.forall_mem_cons, List.not_mem_nil,
      false_imp_iff, implies_true, WellFormed.file, WellFormed.link, and_true]
    decide
  have hfound : partitionsBelow "t" (directory looped) "m" "meta" = .ok ["a", "b"] := by
    have hroot : components "t" = ["t"] := rfl
    have ha : components "t/a" = ["t", "a"] := rfl
    have hb : components "t/b" = ["t", "b"] := rfl
    have hsort : (["b", "a"].mergeSort fun a b => a ≤ b) = ["a", "b"] := by simp [List.mergeSort]
    simp [partitionsBelow, looped, findPartitions, isMarked, opened, isSkipped, Entry.isDirectory,
      joinPath, isAbsolute, relativePath, hroot, ha, hb, List.isPrefixOf?, partitionPath,
      Except.map, bind, Except.bind, pure, Except.pure, hsort]
  have hother := hwell.of_perm (List.reverse_perm looped).symm
  have hsame := sameEntries_of_perm hwell (List.reverse_perm looped).symm
  have hroot : (directory [("t", directory looped)]).find? "t" = .ok (directory looped) :=
    find?_name (by decide) (by decide) (by decide) rfl
  rcases listPartitions_of_wellFormed hwell "t" "m" "meta" with ⟨hlisting, hlisted, hagain⟩
  rw [hfound] at hlisting
  exact ⟨hwell, hother, hsame, hroot, (hlisted _ hroot).trans hfound, hlisting,
    hagain _ _ hother hsame hfound⟩

end KeyIndex.Directory
