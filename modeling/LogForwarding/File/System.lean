import LogForwarding.File.Path

/-!
# Files

What the program sees of a file system: the kind and size of what is under a path, the
bytes of a file, and the names in a directory. Each question may fail, for a reason
that the system gives.
-/

namespace LogForwarding

/-- Why a file system does not answer. -/
inductive FileError where
  /-- There is nothing under the path. -/
  | notFound
  /-- The path goes on behind something that is not a directory. -/
  | notDirectory
  /-- A directory was asked for its bytes. -/
  | isDirectory
  /-- The path or one of its segments is too long. -/
  | nameTooLong
  /-- There are too many links on the way, perhaps in a circle. -/
  | tooManyLinks
  /-- The path has a character in it that no path can have. -/
  | zeroInPath
  /-- The bytes are not text. -/
  | notText
  /-- Any other reason. -/
  | other (reason : String)
  deriving DecidableEq, Repr, Inhabited

namespace FileError

/-- The text of an error. -/
def message : FileError → String
  | notFound => "No such file or directory (os error 2)"
  | notDirectory => "Not a directory (os error 20)"
  | isDirectory => "Is a directory (os error 21)"
  | nameTooLong => "File name too long (os error 36)"
  | tooManyLinks => "Too many levels of symbolic links (os error 40)"
  | zeroInPath => "file name contained an unexpected NUL byte"
  | notText => "stream did not contain valid UTF-8"
  | other reason => reason

end FileError

/-- The kinds of things under a path, behind all links. -/
inductive FileKind where
  /-- A file. -/
  | file
  /-- A directory. -/
  | directory
  /-- Anything else. -/
  | other
  deriving DecidableEq, Repr, Inhabited

/-- What is known of something under a path without reading it. -/
structure Metadata where
  /-- Its kind. -/
  kind : FileKind
  /-- Its size in bytes. -/
  size : Nat
  deriving DecidableEq, Repr, Inhabited

/-- What the program sees of a file system. -/
structure Files where
  /-- What is under a path. -/
  metadata : String → Except FileError Metadata
  /-- The bytes of the file under a path. -/
  read : String → Except FileError ByteArray
  /-- The names in the directory under a path, `none` for each that is not text. -/
  names : String → Except FileError (List (Option String))

namespace Files

/-- The text of the file under a path. -/
def readText (files : Files) (path : String) : Except FileError String := do
  match String.fromUTF8? (← files.read path) with
  | some text => .ok text
  | none => .error .notText

end Files

end LogForwarding
