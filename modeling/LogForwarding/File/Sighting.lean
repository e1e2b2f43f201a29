import LogForwarding.File.System

/-!
# Sightings

A sighting is what was found under one path at one time. Sightings of all paths that
matter stand in for the file system; where nobody looked there is nothing.
-/

namespace LogForwarding

/-- The error with a number that the system gave. -/
def FileError.ofCode (code : Nat) (details : String) : FileError :=
  match code with
  | 2 => notFound
  | 20 => notDirectory
  | 21 => isDirectory
  | 36 => nameTooLong
  | 40 => tooManyLinks
  | code => other s!"{details} (os error {code})"

/-- What was found under a path. -/
structure Sighting where
  /-- The path. -/
  path : String
  /-- The kind and size of what is there. -/
  metadata : Except FileError Metadata
  /-- The bytes of a file. -/
  content : Except FileError ByteArray
  /-- The names in a directory. -/
  names : Except FileError (List (Option String))

namespace Sighting

/-- A path under which nothing can be found. -/
def failed (path : String) (error : FileError) : Sighting where
  path
  metadata := .error error
  content := .error error
  names := .error error

/-- The paths of the entries of a directory. -/
def entryPaths (sighting : Sighting) : List String :=
  match sighting.names with
  | .ok names => names.filterMap fun name => name.map (Path.join sighting.path)
  | .error _ => []

end Sighting

/-- What was found under some paths as a file system. -/
def Files.ofSightings (sightings : List Sighting) : Files :=
  let seen (path : String) : Sighting :=
    (sightings.find? fun sighting => sighting.path == path).getD (.failed path .notFound)
  { metadata := fun path => (seen path).metadata
    read := fun path => (seen path).content
    names := fun path => (seen path).names }

end LogForwarding
