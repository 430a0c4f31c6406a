import KeyIndex.Directory.Partitions
import Mathlib.Data.List.Basic

/-!
# Names in paths

A path that is made of that of a directory by joining names to it consists of what the
directory's consists of, and then of those names.  So the path of a directory below the root of
a table never lies outside it, and the names can be read off the path again.

Main results:

- Definition `IsName`: what may be the name of an entry.
- Definition `pathTo`: the path of what stands at a place below a directory.
- Theorem `components_pathTo`: what such a path consists of.
- Theorem `relativePath_pathTo`: how it is seen from the directory.
- Theorem `partitionPath_injective`: different places have different paths.
-/

namespace KeyIndex.Directory

/-- What may be the name of an entry in a directory. -/
structure IsName (name : String) : Prop where
  ne_empty : name ≠ ""
  ne_here : name ≠ "."
  ne_up : name ≠ ".."
  slash : '/' ∉ name.toList

theorem isName_iff {name : String} :
    IsName name ↔ (name ≠ "" ∧ name ≠ ".") ∧ name ≠ ".." ∧ '/' ∉ name.toList :=
  ⟨fun h => ⟨⟨h.ne_empty, h.ne_here⟩, h.ne_up, h.slash⟩, fun h => ⟨h.1.1, h.1.2, h.2.1, h.2.2⟩⟩

instance (name : String) : Decidable (IsName name) := decidable_of_iff' _ isName_iff

/-! ## Parts of paths -/

theorem parts_append_slash (first second : String) :
    parts (first ++ "/" ++ second) = parts first ++ parts second := by
  have hchars : (first ++ "/" ++ second).toList = first.toList ++ '/' :: second.toList := by simp
  rw [parts, hchars, List.splitOn_append_cons_self, List.map_append, parts, parts]

theorem parts_ne_nil (path : String) : parts path ≠ [] := by simp [parts]

/-- A name is the only part of itself. -/
theorem IsName.parts_eq {name : String} (h : IsName name) : parts name = [name] := by
  rw [parts, List.splitOn_eq_singleton h.slash, List.map_singleton, String.ofList_toList]

/-- A path that starts with a name does not start at the root of everything. -/
theorem IsName.not_isAbsolute {name : String} (h : IsName name) : isAbsolute name = false := by
  rw [isAbsolute, beq_eq_false_iff_ne]
  exact fun hslash => h.slash (List.mem_of_head? hslash)

/-- The parts of a path that are names. -/
def named (parts : List String) : List String :=
  parts.filter fun part => part != "" && part != "."

theorem named_append (parts more : List String) :
    named (parts ++ more) = named parts ++ named more :=
  List.filter_append parts more

theorem named_of_isName {names : List String} (h : ∀ name ∈ names, IsName name) :
    named names = names :=
  List.filter_eq_self.mpr fun name hmem => by
    simp [(h name hmem).ne_empty, (h name hmem).ne_here]

/-! ## Joining a name -/

/-- What a path consists of depends on its start and on the names among its parts. -/
theorem components_append_of {path longer : String} {names : List String}
    (hstart : isAbsolute longer = isAbsolute path)
    (hhead : (parts longer).head? = (parts path).head?)
    (hnamed : named (parts longer) = named (parts path) ++ names) :
    components longer = components path ++ names := by
  rw [named, named] at hnamed
  simp only [components, hstart, hhead, hnamed, List.append_assoc]

/-- To a path that ends in a slash a name is joined without a further one. -/
theorem components_append_name {directory name : String} (h : IsName name) :
    components (directory ++ "/" ++ name) = components (directory ++ "/") ++ [name] := by
  have hshorter : parts (directory ++ "/") = parts directory ++ [""] := by
    have happend := parts_append_slash directory ""
    rwa [String.append_empty] at happend
  apply components_append_of
  · simp [isAbsolute, List.head?_append]
  · rw [parts_append_slash, hshorter, List.head?_append_of_ne_nil _ (parts_ne_nil _),
      List.head?_append_of_ne_nil _ (parts_ne_nil _)]
  · have hempty : named [""] = [] := rfl
    have hname : named [name] = [name] := named_of_isName (by simpa using h)
    rw [parts_append_slash, hshorter, named_append, named_append, hempty, List.append_nil,
      h.parts_eq, hname]

/-- A slash at the end of a path makes no difference. -/
theorem components_append_slash {directory : String} (h : directory ≠ "") :
    components (directory ++ "/") = components directory := by
  have hparts : parts (directory ++ "/") = parts directory ++ [""] := by
    have happend := parts_append_slash directory ""
    rwa [String.append_empty] at happend
  rw [← List.append_nil (components directory)]
  apply components_append_of
  · rcases List.exists_cons_of_ne_nil (mt String.toList_eq_nil_iff.mp h) with ⟨c, cs, hcs⟩
    simp [isAbsolute, hcs]
  · rw [hparts, List.head?_append_of_ne_nil _ (parts_ne_nil _)]
  · rw [hparts, named_append]
    rfl

/-- A name that is joined to the path of a directory comes last. -/
theorem components_joinPath {directory name : String} (h : IsName name) :
    components (joinPath directory name) = components directory ++ [name] := by
  rw [joinPath, h.not_isAbsolute, if_neg (by simp)]
  by_cases hempty : directory = ""
  · subst hempty
    have hnone : components "" = [] := by decide
    have hhead : (parts name).head? ≠ some "." := by simp [h.parts_eq, h.ne_here]
    have hfilter : (parts name).filter (fun part => part != "" && part != ".") = [name] := by
      rw [h.parts_eq]
      exact named_of_isName (by simpa using h)
    rw [hnone, String.toList_empty, List.getLast?_nil, Option.all_none, if_pos rfl,
      String.empty_append]
    simp [components, h.not_isAbsolute, hhead, hfilter]
  · cases hlast : directory.toList.getLast? with
    | none => exact absurd (String.toList_eq_nil_iff.mp (List.getLast?_eq_none_iff.mp hlast)) hempty
    | some c =>
      rw [Option.all_some]
      by_cases hslash : c = '/'
      · subst hslash
        rcases List.getLast?_eq_some_iff.mp hlast with ⟨front, hfront⟩
        have hsplit : directory = String.ofList front ++ "/" := by
          rw [← String.ofList_toList (s := directory), hfront, String.ofList_append]
        rw [if_pos (by simp), hsplit, components_append_name h]
      · rw [if_neg (by simpa using hslash), components_append_name h, components_append_slash hempty]

/-! ## Places -/

/-- The path of what stands at a place below a directory. -/
def pathTo (root : String) (place : Entry.Place) : String := place.foldl joinPath root

theorem pathTo_concat (root : String) (place : Entry.Place) (name : String) :
    pathTo root (place ++ [name]) = joinPath (pathTo root place) name := by
  rw [pathTo, List.foldl_append, List.foldl_cons, List.foldl_nil, pathTo]

/-- Such a path consists of what the path of the directory consists of, and then of the names
of the place. -/
theorem components_pathTo {root : String} {place : Entry.Place} (h : ∀ name ∈ place, IsName name) :
    components (pathTo root place) = components root ++ place := by
  induction place generalizing root with
  | nil => rw [List.append_nil]; rfl
  | cons name place ih =>
    rcases List.forall_mem_cons.mp h with ⟨hname, hplace⟩
    have hrest := @ih (joinPath root name) hplace
    rw [components_joinPath hname, List.append_assoc, List.singleton_append] at hrest
    exact hrest

/-- No directory below the root of a table is seen outside it. -/
theorem relativePath_pathTo {root : String} {place : Entry.Place}
    (h : ∀ name ∈ place, IsName name) :
    relativePath root (pathTo root place) = .ok (partitionPath place) := by
  have hrest : (components root).isPrefixOf? (components (pathTo root place)) = some place := by
    rw [List.isPrefixOf?_eq_some_iff_append_eq, components_pathTo h]
  rw [relativePath, hrest]

/-- The names of a place are the parts of its path, unless it is the root of the table. -/
theorem parts_partitionPath {place : Entry.Place} (h : ∀ name ∈ place, IsName name)
    (hne : place ≠ []) : parts (partitionPath place) = place := by
  have hchars : (partitionPath place).toList = ['/'].intercalate (place.map String.toList) := by
    rw [partitionPath, String.toList_intercalate]
    rfl
  have hslash : ∀ chars ∈ place.map String.toList, '/' ∉ chars := by
    intro chars hmem
    rcases List.mem_map.mp hmem with ⟨name, hname, rfl⟩
    exact (h name hname).slash
  rw [parts, hchars, List.splitOn_intercalate '/' hslash (by simpa using hne), List.map_map]
  simp [Function.comp_def]

/-- Different places have different paths. -/
theorem partitionPath_injective {place other : Entry.Place} (hplace : ∀ name ∈ place, IsName name)
    (hother : ∀ name ∈ other, IsName name) (hsame : partitionPath place = partitionPath other) :
    place = other := by
  have hroot : ∀ names : Entry.Place, (∀ name ∈ names, IsName name) →
      partitionPath names = partitionPath [] → names = [] := by
    intro names hnames hempty
    by_contra hne
    have hparts := parts_partitionPath hnames hne
    rw [hempty] at hparts
    have hmem : "" ∈ names := by
      rw [← hparts]
      decide
    exact (hnames _ hmem).ne_empty rfl
  by_cases hnil : place = []
  · subst hnil
    exact (hroot other hother hsame.symm).symm
  · by_cases hnil' : other = []
    · subst hnil'
      exact hroot place hplace hsame
    · rw [← parts_partitionPath hplace hnil, hsame, parts_partitionPath hother hnil']

end KeyIndex.Directory
