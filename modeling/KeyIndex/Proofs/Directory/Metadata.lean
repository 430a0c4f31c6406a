import KeyIndex.Proofs.Directory.Search

/-!
# The metadata directory of a table

The settings of a table name the directory with its metadata, below the base path.  The search
for partitions takes the setting for the name of an entry, and passes over every directory with
that name, wherever it stands.  So it loses partitions that have the name further down; and a
setting that is no name, such as a path of several names, keeps it from nothing.

Main results:

- Definition `TableSettings.IsMetadata`: what lies in the metadata directory.
- Definition `IsVisible`: what could be a partition.
- Theorem `isPartition_iff_isVisible`: what is passed over.
- Theorem `TableSettings.isMetadata_iff`: what lies in a metadata directory with a name.
- Theorem `mem_partitionsBelow_iff`: when the metadata directory is what is left out.
- Theorem `partitionsBelow_misled`: a partition that is lost, and metadata that is not left out.
-/

namespace KeyIndex

open Directory Entry

/-- A place below the base path of a table is that of its metadata directory, or lies below it. -/
def TableSettings.IsMetadata (settings : TableSettings) (place : Place) : Prop :=
  components (joinPath settings.basePath settings.metadataDir) <+:
    components (pathTo settings.basePath place)

instance (settings : TableSettings) (place : Place) : Decidable (settings.IsMetadata place) :=
  inferInstanceAs (Decidable (_ <+: _))

/-- A metadata directory with a name stands in the base path itself. -/
theorem TableSettings.isMetadata_iff {settings : TableSettings} {place : Place}
    (h : IsName settings.metadataDir) (hplace : ∀ name ∈ place, IsName name) :
    settings.IsMetadata place ↔ place.head? = some settings.metadataDir := by
  rw [IsMetadata, components_joinPath h, components_pathTo hplace, List.prefix_append_right_inj]
  cases place with
  | nil => simp
  | cons name place => simp [eq_comm]

namespace Directory

/-- At a place of a tree stands a directory that holds the marker, and nothing on the way to it
is hidden. -/
def IsVisible (marker : String) (tree : Entry) (place : Place) : Prop :=
  (∃ found, tree.at? place = some found ∧ found.Holds marker) ∧ ∀ name ∈ place, ¬ IsHidden name

/-- Only directories hold anything. -/
theorem Entry.Holds.isDirectory {name : String} {entry : Entry} (h : entry.Holds name) :
    entry.isDirectory = true := by
  rcases h with ⟨held, hheld, -⟩
  rcases exists_of_at?_cons hheld with ⟨entries, rfl⟩
  rfl

/-- Of what could be a partition the search passes over what has the name of the metadata
directory on the way, wherever that is. -/
theorem isPartition_iff_isVisible {marker metadataDir : String} {tree : Entry} {place : Place} :
    IsPartition marker metadataDir tree place ↔
      IsVisible marker tree place ∧ metadataDir ∉ place := by
  constructor
  · rintro ⟨found, ⟨hstands, -, hsearched⟩, hholds⟩
    exact ⟨⟨⟨found, hstands, hholds⟩, fun name hname => (hsearched name hname).1⟩,
      fun hmem => (hsearched metadataDir hmem).2 rfl⟩
  · rintro ⟨⟨⟨found, hstands, hholds⟩, hvisible⟩, hname⟩
    refine ⟨found, ⟨hstands, hholds.isDirectory, fun name hmem => ⟨hvisible name hmem, ?_⟩⟩, hholds⟩
    rintro rfl
    exact hname hmem

theorem IsVisible.isName {marker : String} {tree : Entry} {place : Place}
    (h : IsVisible marker tree place) (hwell : tree.WellFormed) : ∀ name ∈ place, IsName name := by
  rcases h with ⟨⟨found, hstands, -⟩, -⟩
  exact hwell.isName_of_at? hstands

/-- The path of a place is listed if a partition stands there. -/
theorem mem_listing_iff {marker metadataDir : String} {tree : Entry} {place : Place}
    {paths : List String} (hwell : tree.WellFormed)
    (h : IsListing marker metadataDir tree (.ok paths)) (hplace : ∀ name ∈ place, IsName name) :
    partitionPath place ∈ paths ↔ IsPartition marker metadataDir tree place := by
  rw [h.2.2]
  constructor
  · rintro ⟨other, hother, hsame⟩
    rwa [partitionPath_injective hplace (hother.isName hwell) hsame]
  · intro hpartition
    exact ⟨place, hpartition, rfl⟩

/-- Of what could be a partition of a table that can be read, those are listed that do not have
the name of the metadata directory on the way.  That what is listed is just what does not lie in
the metadata directory is right of a place if this directory has a name that stands nowhere
else on the way; or if it has no name, and the place does not lie in it. -/
theorem mem_partitionsBelow_iff (settings : TableSettings) {entries : List (String × Entry)}
    (h : (directory entries).WellFormed)
    (hreadable : ∀ place cause,
      ¬ IsUnreadable settings.metadataDir (directory entries) place cause) :
    ∃ paths,
      partitionsBelow settings.basePath (directory entries) settings.markerFile
        settings.metadataDir = .ok paths ∧
      (∀ tree : Entry, tree.find? settings.basePath = .ok (directory entries) →
        listPartitions tree settings.basePath settings.markerFile settings.metadataDir =
          .ok paths) ∧
      ∀ place, IsVisible settings.markerFile (directory entries) place →
        (partitionPath place ∈ paths ↔ settings.metadataDir ∉ place) ∧
        ((partitionPath place ∈ paths ↔ ¬ settings.IsMetadata place) ↔
          if IsName settings.metadataDir then
            settings.metadataDir ∈ place → place.head? = some settings.metadataDir
          else ¬ settings.IsMetadata place) := by
  have hlisting := @isListing_partitionsBelow settings.markerFile settings.metadataDir _ h rfl
    settings.basePath
  rcases hlisting.exists_ok hreadable with ⟨paths, hfound⟩
  rw [hfound] at hlisting
  refine ⟨paths, hfound, fun tree htree => (listPartitions_of_find? htree).trans hfound,
    fun place hvisible => ?_⟩
  have hnames := hvisible.isName h
  have hmem : partitionPath place ∈ paths ↔ settings.metadataDir ∉ place := by
    rw [mem_listing_iff h hlisting hnames, isPartition_iff_isVisible]
    exact and_iff_right hvisible
  refine ⟨hmem, ?_⟩
  rw [hmem]
  split
  case isTrue hname =>
    have hhead : place.head? = some settings.metadataDir → settings.metadataDir ∈ place :=
      List.mem_of_head?
    rw [TableSettings.isMetadata_iff hname hnames, not_iff_not]
    exact ⟨Iff.mp, fun honly => ⟨honly, hhead⟩⟩
  case isFalse hname =>
    -- Every name on the way is a name, so what is none is not among them.
    have habsent : settings.metadataDir ∉ place := fun hmem => hname (hnames _ hmem)
    exact iff_true_left habsent

/-- A table with a marked directory two levels down. -/
def nested : List (String × Entry) :=
  [("a", .directory [("meta", .directory [("m", .file)])])]

theorem wellFormed_nested : (directory nested).WellFormed := by
  simp only [nested, wellFormed_directory_iff, List.forall_mem_cons, List.not_mem_nil,
    false_imp_iff, implies_true, WellFormed.file, and_true]
  decide

/-- Settings of such a table. -/
def nestedSettings (metadataDir : String) : TableSettings :=
  { basePath := "t", markerFile := "m", metadataDir := metadataDir }

theorem isVisible_nested : IsVisible "m" (directory nested) ["a", "meta"] := by
  refine ⟨⟨_, rfl, .file, rfl, rfl⟩, ?_⟩
  simp [IsHidden]

/-- What is found there, if the search goes down to the marked directory. -/
theorem partitionsBelow_nested {metadataDir : String} (houter : "a" ≠ metadataDir)
    (hinner : "meta" ≠ metadataDir) :
    partitionsBelow "t" (directory nested) "m" metadataDir = .ok ["a/meta"] := by
  have hroot : components "t" = ["t"] := rfl
  have hpath : components "t/a/meta" = ["t", "a", "meta"] := rfl
  simp [partitionsBelow, nested, findPartitions, isMarked, opened, isSkipped, Entry.isDirectory,
    joinPath, isAbsolute, relativePath, hroot, hpath, List.isPrefixOf?, partitionPath, Except.map, bind,
    Except.bind, pure, Except.pure, houter, hinner]

/-- With a metadata directory of another name the marked directory is a partition. -/
theorem mem_partitionsBelow_nested :
    (directory nested).WellFormed ∧
      (∀ place cause, ¬ IsUnreadable "other" (directory nested) place cause) ∧
      (directory [("t", directory nested)]).find? "t" = .ok (directory nested) ∧
      ∃ paths, listPartitions (directory [("t", directory nested)]) "t" "m" "other" = .ok paths ∧
        partitionPath ["a", "meta"] ∈ paths := by
  have hlisting := @isListing_partitionsBelow "m" "other" _ wellFormed_nested rfl "t"
  rw [partitionsBelow_nested (by decide) (by decide)] at hlisting
  rcases mem_partitionsBelow_iff (nestedSettings "other") wellFormed_nested hlisting.1 with
    ⟨paths, -, hlisted, hmem⟩
  have hroot : (directory [("t", directory nested)]).find? "t" = .ok (directory nested) :=
    find?_name (by decide) (by decide) (by decide) rfl
  exact ⟨wellFormed_nested, hlisting.1, hroot, paths, hlisted _ hroot,
    (hmem _ isVisible_nested).1.mpr (by decide)⟩

/-- With `meta` for the metadata directory the marked directory `a/meta` is lost, though
it does not lie in `meta`; with `a/meta` for the metadata directory it is listed, though it is
the metadata directory. -/
theorem partitionsBelow_misled :
    IsVisible "m" (directory nested) ["a", "meta"] ∧
      (partitionsBelow "t" (directory nested) "m" "meta" = .ok [] ∧
        ¬ (nestedSettings "meta").IsMetadata ["a", "meta"]) ∧
      partitionsBelow "t" (directory nested) "m" "a/meta" = .ok [partitionPath ["a", "meta"]] ∧
        (nestedSettings "a/meta").IsMetadata ["a", "meta"] := by
  refine ⟨isVisible_nested, ⟨?_, by decide⟩, ?_, by decide⟩
  · simp [partitionsBelow, nested, findPartitions, isMarked, opened, isSkipped, Entry.isDirectory,
      joinPath, isAbsolute, bind, Except.bind, pure, Except.pure]
  · exact partitionsBelow_nested (by decide) (by decide)

end Directory

end KeyIndex
