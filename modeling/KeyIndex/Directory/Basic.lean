import KeyIndex.Directory.Path

/-!
# Directory trees

Directories, files and symbolic links below a root.  A path is followed from the
root: it goes up at `..`, stays at `.` and where nothing stands between two slashes,
and goes on at the target of a link, unless it has met too many links.

Main definitions:

- `Entry`: what stands under a name.
- `Entry.follow`: where a path to a directory leads, with missing directories made
  on the way if that is wanted.
- `Entry.find?`: the directory at a path.
- `Change`, `Entry.change`: how a tree is built.
-/

namespace KeyIndex.Directory

/-- What stands under a name in a directory. -/
inductive Entry where
  | file
  /-- A symbolic link. -/
  | link (target : String)
  | directory (entries : List (String × Entry))
  /-- A directory that cannot be read. -/
  | unreadable (cause : String)

namespace Entry

instance : Inhabited Entry := ⟨.directory []⟩

/-- Whether an entry is a directory itself; a link to one is not. -/
def isDirectory : Entry → Bool
  | directory _ => true
  | unreadable _ => true
  | _ => false

/-! ## Places in a tree -/

/-- The names that lead from the root to an entry, through directories only. -/
abbrev Place := List String

/-- The entry at a place. -/
def at? : Entry → Place → Option Entry
  | entry, [] => some entry
  | directory entries, name :: place => (entries.lookup name).bind (at? · place)
  | _, _ => none

/-- The entry of a directory under a name, made anew or put in the place of the old
one. -/
def assign (entries : List (String × Entry)) (name : String) (entry : Entry) :
    List (String × Entry) :=
  match entries with
  | [] => [(name, entry)]
  | (n, e) :: rest => if n = name then (n, entry) :: rest else (n, e) :: assign rest name entry

/-- The tree with an entry at a place of it. -/
def put (entry : Entry) : Entry → Place → Entry
  | _, [] => entry
  | directory entries, name :: place =>
    let old := (entries.lookup name).getD (directory [])
    directory (assign entries name (put entry old place))
  | tree, _ => tree

/-! ## Paths -/

/-- How many links a path may meet. -/
def maxLinks : Nat := 40

/-- The longest name, in bytes. -/
def maxNameSize : Nat := 255

/-- Why a path leads nowhere. -/
inductive PathError where
  | notFound
  | notDirectory
  | nameTooLong
  | tooManyLinks
  /-- A path cannot hold the character zero. -/
  | zeroCharacter
deriving DecidableEq

/-- The text of a path error. -/
def PathError.message : PathError → String
  | .notFound => "No such file or directory (os error 2)"
  | .notDirectory => "Not a directory (os error 20)"
  | .nameTooLong => "File name too long (os error 36)"
  | .tooManyLinks => "Too many levels of symbolic links (os error 40)"
  | .zeroCharacter => "file name contained an unexpected NUL byte"

/-- Follows parts of a path from a place.  The result is the place of a directory,
in the tree with the directories that were made; nothing is known of what is outside
the tree, which an absolute path leads to. -/
def follow (make : Bool) (links : Nat) (tree : Entry) (place : Place) :
    List String → Except PathError (Entry × Place)
  | [] => .ok (tree, place)
  | name :: rest =>
    if name = "" ∨ name = "." then follow make links tree place rest
    else if name = ".." then follow make links tree place.dropLast rest
    else if maxNameSize < name.utf8ByteSize then .error .nameTooLong
    else
      match tree.at? (place ++ [name]) with
      | none =>
        if make then
          follow make links (put (directory []) tree (place ++ [name])) (place ++ [name]) rest
        else .error .notFound
      | some file => .error .notDirectory
      | some (link target) =>
        match links with
        | 0 => .error .tooManyLinks
        | links + 1 =>
          if isAbsolute target then .error .notFound
          else follow make links tree place (parts target ++ rest)
      | some _ => follow make links tree (place ++ [name]) rest
termination_by names => (links, names.length)

/-- The directory at a path.  The empty path leads nowhere; where the tree itself is
meant, it is `.`. -/
def find? (tree : Entry) (path : String) : Except PathError Entry :=
  if path.toList.contains '\x00' then .error .zeroCharacter
  else if path = "" ∨ isAbsolute path then .error .notFound
  else do
    let (tree, place) ← tree.follow false maxLinks [] (parts path)
    match tree.at? place with
    | some entry => .ok entry
    | none => .error .notFound

end Entry

/-! ## Building trees -/

/-- One step in the making of a tree. -/
inductive Change where
  | directory (path : String)
  | file (path : String)
  | link (path target : String)

namespace Entry

/-- The tree after an entry has been made at a path, with the directories on the way
to it.  What is already there stays. -/
def make (tree : Entry) (path : String) (entry : Entry) : Entry :=
  let names := parts path
  match tree.follow true maxLinks [] names.dropLast with
  | .error _ => tree
  | .ok (tree, place) =>
    let place := place ++ names.getLast?.toList
    if (tree.at? place).isSome then tree else put entry tree place

/-- The tree after a change. -/
def change (tree : Entry) : Change → Entry
  | .directory path =>
    match tree.follow true maxLinks [] (parts path) with
    | .ok (tree, _) => tree
    | .error _ => tree
  | .file path => tree.make path .file
  | .link path target => tree.make path (.link target)

/-- The tree that some changes make of an empty one. -/
def ofChanges (changes : List Change) : Entry := changes.foldl change (.directory [])

end Entry

end KeyIndex.Directory
