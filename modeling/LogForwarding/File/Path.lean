/-!
# Paths

A path names a file by segments with slashes between them. Empty segments and single
dots inside a path mean nothing, two dots mean the directory above.
-/

namespace LogForwarding.Path

/-- The segments of a path that mean something, a dot at the start included. -/
def segments (path : String) : List String :=
  match path.splitOn "/" with
  | "." :: rest => "." :: rest.filter fun segment => segment != "" && segment != "."
  | all => all.filter fun segment => segment != "" && segment != "."

/-- Whether a path starts at the root. -/
def isAbsolute (path : String) : Bool := path.toList.head? == some '/'

/-- Whether two paths consist of the same segments. -/
def same (a b : String) : Bool := isAbsolute a == isAbsolute b && segments a == segments b

/-- The path of an entry of a directory. -/
def join (directory entry : String) : String :=
  if directory.isEmpty || directory.toList.getLast? = some '/' then directory ++ entry
  else directory ++ "/" ++ entry

/-- The name of the file that a path leads to, unless it leads upwards or nowhere. -/
def fileName? (path : String) : Option String :=
  (segments path).getLast?.filter fun name => name != ".." && name != "."

/-- What follows the last dot of a file's name. A dot at its start does not count. -/
def extension? (path : String) : Option String := do
  let name ← fileName? path
  match (name.splitOn ".").reverse with
  | extension :: before :: earlier =>
    if before.isEmpty && earlier.isEmpty then none else some extension
  | _ => none

end LogForwarding.Path
