import LogForwarding.File.System

/-!
# File trees

A file tree is a file system written down: directories with files, further directories,
links, and what is none of these, such as pipes and sockets. `FileTree.files` answers the program's questions from a tree. A path is
followed segment by segment, through at most forty links; its length is limited, and so
is that of each segment.
-/

namespace LogForwarding

/-- The name of an entry of a directory, as bytes. -/
abbrev FileName : Type := List UInt8

/-- A file system written down. -/
inductive FileTree where
  /-- A file with its bytes. -/
  | file (content : ByteArray)
  /-- A directory with its entries. -/
  | directory (entries : List (FileName × FileTree))
  /-- A link with the path it leads to. -/
  | link (target : FileName)
  /-- A pipe, a socket or a device, with what comes of reading it. -/
  | special (content : Except FileError ByteArray)
  deriving Inhabited

namespace FileTree

/-- How many links are followed. -/
def linkLimit : Nat := 40

/-- The greatest length of a path in bytes. -/
def pathLimit : Nat := 4095

/-- The greatest length of a segment in bytes. -/
def nameLimit : Nat := 255

/-- The byte between two segments of a path. -/
def slash : UInt8 := 0x2F

/-- The segments of a path, empty ones included. -/
def segments (path : FileName) : List FileName := path.splitOnP (· = slash)

/-- The entry of a directory. -/
def entry? (name : FileName) : FileTree → Option FileTree
  | directory entries => entries.lookup name
  | _ => none

/-- Whether this is a directory. -/
def isDirectory : FileTree → Bool
  | directory _ => true
  | _ => false

/-- What lies under the names of directories, one below the other. -/
def below? (tree : FileTree) (names : List FileName) : Option FileTree :=
  names.foldlM (fun tree name => tree.entry? name) tree

/-- The directory above, as names from the root; above the root there is the root. -/
def above (place : List FileName) : List FileName := place.dropLast

/-- Follows the segments of a path from a place, which is given as names from the root.
The first number says how many links may still be followed. -/
def follow (root : FileTree) (links : Nat) (place : List FileName) (path : List FileName) :
    Except FileError FileTree :=
  match path with
  | [] => (root.below? place).elim (.error .notFound) .ok
  | name :: rest =>
    match root.below? place with
    | none => .error .notFound
    | some here =>
      if !here.isDirectory then .error .notDirectory
      else if name = [] || name = [0x2E] then follow root links place rest
      else if name = [0x2E, 0x2E] then follow root links (above place) rest
      else if name.length > nameLimit then .error .nameTooLong
      else
        match here.entry? name with
        | none => .error .notFound
        | some (.link target) =>
          match links with
          | 0 => .error .tooManyLinks
          | links + 1 =>
            let start := if target.head? = some slash then [] else place
            follow root links start (segments target ++ rest)
        | some _ => follow root links (place ++ [name]) rest
  termination_by (links, path.length)

/-- What lies under a path, seen from a working directory. -/
def find (root : FileTree) (working : List FileName) (path : String) :
    Except FileError FileTree :=
  let bytes := path.toUTF8.toList
  if bytes.contains 0 then .error .zeroInPath
  else if bytes.isEmpty then .error .notFound
  else if bytes.length > pathLimit then .error .nameTooLong
  else
    follow root linkLimit (if bytes.head? = some slash then [] else working) (segments bytes)

/-- The metadata of a tree. Only the size of a file is of account. -/
def metadata : FileTree → Metadata
  | file content => ⟨.file, content.size⟩
  | directory _ => ⟨.directory, 0⟩
  | link _ => ⟨.other, 0⟩
  | special _ => ⟨.other, 0⟩

/-- The bytes of a tree. -/
def read : FileTree → Except FileError ByteArray
  | file content => .ok content
  | directory _ => .error .isDirectory
  | link _ => .error .tooManyLinks
  | special content => content

/-- The names of a tree's entries. -/
def names : FileTree → Except FileError (List (Option String))
  | directory entries =>
    .ok (entries.map fun (name, _) => String.fromUTF8? (ByteArray.mk name.toArray))
  | _ => .error .notDirectory

/-- What the program sees of a tree from a working directory. -/
def files (root : FileTree) (working : List FileName) : Files where
  metadata path := metadata <$> root.find working path
  read path := do (← root.find working path).read
  names path := do (← root.find working path).names

/-- A directory with an entry put in, in the order of the names' bytes. -/
def putEntry (name : FileName) (tree : FileTree) :
    List (FileName × FileTree) → List (FileName × FileTree)
  | [] => [(name, tree)]
  | (other, old) :: rest =>
    if name = other then (name, tree) :: rest
    else if name < other then (name, tree) :: (other, old) :: rest
    else (other, old) :: putEntry name tree rest

/-- The entries of a directory; anything else has none. -/
def entries : FileTree → List (FileName × FileTree)
  | directory entries => entries
  | _ => []

/-- The tree with another one put in under a path, with the directories on the way. A
directory that is there already keeps its entries. -/
def put (tree new : FileTree) : List FileName → FileTree
  | [] => if tree.isDirectory && new.isDirectory then tree else new
  | name :: rest =>
    let inner := (tree.entries.lookup name).getD (directory [])
    directory (putEntry name (inner.put new rest) tree.entries)

end FileTree

end LogForwarding
