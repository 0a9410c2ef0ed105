/-
Module: SourceRecovery.Files
Layer: Files
Purpose: Texts in a tree of directories that is kept in memory. A directory is there when it was made, and as soon as
  something lies below it; a file and a directory never share a path. The tree is one storage among others: its only
  faults are those of paths that are in each other's way.
Imports: SourceRecovery.Path, SourceRecovery.Storage
Trusted boundary: none
Main exports: Files, Files.makeDirectory, Files.fill, Files.storage, WriteFault
Open obligations: none
-/
import SourceRecovery.Path
import SourceRecovery.Storage

namespace SourceRecovery

/-- Why a text could not be written. -/
inductive WriteFault where
  /-- The directory for the text is a file. -/
  | fileExists
  /-- Something further up the path is a file. -/
  | notADirectory
  /-- The path is a directory. -/
  | isADirectory
deriving DecidableEq, Repr

/-- The words for a text that could not be written. -/
def WriteFault.message : WriteFault → String
  | .fileExists => "File exists (os error 17)"
  | .notADirectory => "Not a directory (os error 20)"
  | .isADirectory => "Is a directory (os error 21)"

/-- Files by the names on their paths, the latest last, and directories in which there may be nothing. -/
structure Files where
  entries : List (List String × String) := []
  directories : List (List String) := []
deriving DecidableEq, Repr, Inhabited

namespace Files

/-- The text of a file. -/
def get? (files : Files) (path : List String) : Option String :=
  files.entries.lookup path

/-- There is a file. -/
def isFile (files : Files) (path : List String) : Bool :=
  (files.get? path).isSome

/-- There is a directory: the root, a path that was made one, or a path below which something lies. -/
def isDirectory (files : Files) (path : List String) : Bool :=
  path.isEmpty || files.directories.any (path.isPrefixOf ·) ||
    files.entries.any fun entry => path.isPrefixOf entry.1 && entry.1 != path

/-- The paths above a path. -/
def above (path : List String) : List (List String) :=
  (List.range path.length).map path.take

/-- A text put at a path. -/
def put (files : Files) (path : List String) (text : String) : Files :=
  { files with entries := files.entries.filter (fun entry => entry.1 != path) ++ [(path, text)] }

/-- Why a path cannot be made a directory. -/
def blocked? (files : Files) (path : List String) : Option WriteFault :=
  if (above path).any files.isFile then some .notADirectory
  else if files.isFile path then some .fileExists
  else none

/-- A directory made at a path, with the directories above it. -/
def makeDirectory (files : Files) (path : List String) : Except WriteFault Files :=
  match files.blocked? path with
  | some fault => .error fault
  | none => .ok { files with directories := files.directories ++ [path] }

/-- A text written at a path in a directory that is there. A path that does not end in a name is a directory. -/
def fill (files : Files) (path text : String) : Except WriteFault Files :=
  if !Path.endsInName path || files.isDirectory (Path.names path) then .error .isADirectory
  else .ok (files.put (Path.names path) text)

/-- A change that leaves the tree as it is when it fails. -/
def attempt (change : Files → Except WriteFault Files) : StateM Files (Except String Unit) :=
  fun files =>
    match change files with
    | .ok files => (.ok (), files)
    | .error fault => (.error fault.message, files)

/-- The tree as a storage, given how paths are seen from its root. -/
def storage (seen : String → String) : Storage Files where
  recreate _ _ := (.ok (), {})
  makeFolder path := attempt fun files => files.makeDirectory (Path.folder (seen path))
  write path text := attempt fun files => files.fill (seen path) text

end Files

end SourceRecovery
