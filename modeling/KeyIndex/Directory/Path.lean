/-!
# Paths

A path is a text with names between slashes.  Two paths are compared by what they
consist of, so that it does not matter how many slashes stand between two names.

Main definitions:

- `parts`: what stands between the slashes of a path.
- `components`: what a path consists of.
- `joinPath`: a path joined to that of a directory.
-/

namespace KeyIndex.Directory

/-- The parts of a path between its slashes. -/
def parts (path : String) : List String := (path.toList.splitOn '/').map String.ofList

/-- Whether a path starts at the root of everything. -/
def isAbsolute (path : String) : Bool := path.toList.head? == some '/'

/-- What a path consists of: the root of everything or `.`, if it starts there, and
then its names.  Nothing between two slashes is no name, and neither is `.`. -/
def components (path : String) : List String :=
  let start :=
    if isAbsolute path then ["/"]
    else if (parts path).head? = some "." then ["."]
    else []
  start ++ (parts path).filter fun part => part != "" && part != "."

/-- A path joined to that of a directory.  An absolute path stands for itself; and
where the path of the directory is empty or ends in a slash, no further one is
needed. -/
def joinPath (directory path : String) : String :=
  if isAbsolute path then path
  else if directory.toList.getLast?.all (· == '/') then directory ++ path
  else directory ++ "/" ++ path

end KeyIndex.Directory
