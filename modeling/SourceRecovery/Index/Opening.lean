/-
Module: SourceRecovery.Index.Opening
Layer: Index
Purpose: The index of an artifact. An artifact of a version that cannot be read is given to the
  disassembler, and the index is made from its listing. An artifact that can be read keeps the disassembler
  for later: it is asked once, when the lines of units are first needed, and what it cannot list is listed
  from the units themselves.
Imports: SourceRecovery.Index.Basic, SourceRecovery.Bytecode.Artifact, SourceRecovery.Listing.Reader,
  SourceRecovery.Host
Trusted boundary: none
Main exports: ArtifactFile, ToolCommand.list, Index.load, Index.openFile, Index.consult
Open obligations: none
-/
import SourceRecovery.Index.Basic
import SourceRecovery.Bytecode.Artifact
import SourceRecovery.Listing.Reader
import SourceRecovery.Host

namespace SourceRecovery

variable {σ : Type}

/-- A place for an artifact, and what it holds when there is a file. -/
structure ArtifactFile where
  path : String
  contents : Option (List UInt8)
deriving DecidableEq, Repr

namespace ToolCommand

/-- The command for an artifact. -/
def forArtifact (tool : ToolCommand) (artifact : String) : Command :=
  { program := tool.program, args := tool.args ++ [artifact], milliseconds := tool.timeout * 1000 }

/-- The listing in what a disassembler has done: it has to succeed and to write something. -/
def listingIn (tool : ToolCommand) : Except SpawnFault Completion → Except Failure String
  | .error .notFound => .error (.backendUnavailable tool.program)
  | .error fault => .error (.inputOutput fault.message)
  | .ok done =>
    if !done.success || Text.isBlankText done.stdout then
      .error (.backendCrash tool.program (done.exit.describe ++ ": " ++ Text.trim done.stderr))
    else .ok done.stdout

/-- The listing of an artifact. -/
def list (host : Host σ) (tool : ToolCommand) (artifact : String) :
    StateM σ (Except Failure String) := do
  return tool.listingIn (← host.run (tool.forArtifact artifact))

end ToolCommand

namespace Index

/-- The index of an artifact that can be read. -/
def load (file : ArtifactFile) : Except Failure Index :=
  match file.contents with
  | none => .error (.inputOutput SpawnFault.notFound.message)
  | some bytes => (Artifact.read bytes).map ofModule

/-- The index of a listing. -/
def ofText (listing : String) : Except Failure Index :=
  (Listing.read listing).map fun loaded => ofListing loaded.module loaded.slices

/-- The index of an artifact, with a disassembler for versions that cannot be read. -/
def openFile (host : Host σ) (file : ArtifactFile) (tool : Option ToolCommand) :
    StateM σ (Except Failure Index) := do
  match load file, tool with
  | .ok index, some tool => return .ok { index with tool := some ⟨tool, file.path⟩ }
  | .error (.unsupported _), some tool => return (← tool.list host file.path).bind ofText
  | found, _ => return found

/-- The lines of units by path in a listing. -/
def listingsIn (listing : String) : List (String × String) :=
  match Listing.read listing with
  | .error _ => []
  | .ok loaded =>
    (assignPaths loaded.module.units loaded.module.root).filterMap fun entry =>
      loaded.slices[entry.unit]?.map fun slice => (entry.path, slice)

/-- The lines of units by path, from a disassembler; none when it fails. -/
def askTool (host : Host σ) (tool : ListingTool) : StateM σ (List (String × String)) := do
  match ← tool.command.list host tool.artifact with
  | .ok listing => return listingsIn listing
  | .error _ => return []

/-- The index after the disassembler has been asked. It is asked when it is there, was not asked before, and
    the index does not come from a listing. -/
def consult (host : Host σ) (index : Index) : StateM σ Index := do
  match index.slices, index.listings, index.tool with
  | none, none, some tool => return { index with listings := some (← askTool host tool) }
  | _, _, _ => return index

end Index

end SourceRecovery
