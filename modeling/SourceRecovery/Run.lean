/-
Module: SourceRecovery.Run
Layer: Run
Purpose: One artifact. The backends are tried in order; each text is completed from bytecode and, when that is
  asked for, by agents. The first complete outcome ends the run; otherwise the outcome with the fewest gaps
  is taken, and of equals the first. The order of things is one definition over what a run does with the world
  around it, and a run on a host is an instance of it.
Imports: SourceRecovery.Backend, SourceRecovery.Index.Opening, SourceRecovery.Agent.Recovery,
  SourceRecovery.Path, SourceRecovery.Files
Trusted boundary: none
Main exports: Run.Actions, Run.Actions.choose, Run.refine, Run.keepBetter, Run.actions, decompile, decompileTo
Open obligations: none
-/
import SourceRecovery.Backend
import SourceRecovery.Index.Opening
import SourceRecovery.Agent.Recovery
import SourceRecovery.Path
import SourceRecovery.Files

namespace SourceRecovery

variable {σ : Type} [Source.Grammar]

namespace Run

/-- The better of the best outcome so far and one more; only fewer gaps replace. -/
def keepBetter (best : Option Outcome) (outcome : Outcome) : Option Outcome :=
  match best with
  | none => some outcome
  | some top => if outcome.gaps < top.gaps then some outcome else some top

/-! ### Any world -/

/-- What a run does with the world around it: it runs a backend, loads the index, and refines a text with the index it
    has, which may be a different one afterwards. -/
structure Actions (m : Type → Type) where
  attempt : BackendSpec → m Outcome
  load : m (Option Index)
  refine : Option Index → Outcome → m (Outcome × Option Index)

namespace Actions

variable {m : Type → Type} [Monad m] (actions : Actions m)

/-- The index, which is loaded when it is needed for the first time. -/
def once : Option (Option Index) → m (Option Index)
  | some loaded => pure loaded
  | none => actions.load

/-- One backend: the refined outcome of its text, if it yields one, and what is known of the index then. -/
def step (spec : BackendSpec) (slot : Option (Option Index)) :
    m (Option Outcome × Option (Option Index)) := do
  let raw ← actions.attempt spec
  if raw.hasSource then
    let index ← actions.once slot
    let done ← actions.refine index raw
    return (some done.1, some done.2)
  else return (none, slot)

/-- The outcome of the backends that are left, given the index as far as it is known and the best outcome so far. -/
def choose (failure : Outcome) :
    List BackendSpec → Option (Option Index) → Option Outcome → m Outcome
  | [], _, best => return best.getD failure
  | spec :: specs, slot, best => do
    let done ← actions.step spec slot
    match done.1 with
    | none => choose failure specs done.2 best
    | some outcome =>
      if outcome.isComplete then return outcome
      else choose failure specs done.2 (keepBetter best outcome)

end Actions

/-! ### A host -/

/-- The index of an artifact, when it has one. -/
def loadIndex (host : Host σ) (file : ArtifactFile) (settings : Settings) :
    StateM σ (Option Index) := do
  return (← Index.openFile host file settings.disassembler).toOption

/-- The text of a backend with its gaps counted. -/
def counted (raw : Outcome) (index : Option Index) (settings : Settings) : Outcome :=
  { source := raw.source, backend := raw.backend, gaps := countGaps raw.source index settings }

/-- An outcome that repair has left incomplete, after the agents were asked, and the index as it is then. -/
def askAgents (host : Host σ) (settings : Settings) (useAgents : Bool) (index : Index)
    (outcome : Outcome) : StateM σ (Outcome × Index) := do
  if outcome.isComplete || !useAgents || settings.agents.isEmpty then return (outcome, index)
  else
    let index ← index.consult host
    return (← recover host outcome index settings, index)

/-- An outcome completed as far as its index allows, and the index as it is then. -/
def refine (host : Host σ) (settings : Settings) (useAgents : Bool) (index : Option Index)
    (outcome : Outcome) : StateM σ (Outcome × Option Index) := do
  match index with
  | none => return (outcome, none)
  | some known =>
    if outcome.isComplete then return (outcome, index)
    else
      let (refined, known) ←
        askAgents host settings useAgents known (repair outcome known settings)
      return (refined, some known)

/-- The name of an artifact. -/
def artifactName (path : String) : String :=
  match Path.fileName? path.toList with
  | some name => String.ofList name
  | none => path

/-- What a run on a host does. -/
def actions (host : Host σ) (file : ArtifactFile) (settings : Settings) (useAgents : Bool) :
    Actions (StateM σ) where
  attempt spec := runBackend host spec file.path settings.gapMarker
  load := loadIndex host file settings
  refine index raw := refine host settings useAgents index (counted raw index settings)

/-- The outcome of the backends that are left on a host. -/
def tryBackends (host : Host σ) (file : ArtifactFile) (settings : Settings) (useAgents : Bool) :
    List BackendSpec → Option (Option Index) → Option Outcome → StateM σ Outcome :=
  (actions host file settings useAgents).choose (.failureDocument (artifactName file.path))

end Run

/-- The outcome for an artifact. -/
def decompile (host : Host σ) (file : ArtifactFile) (useAgents : Bool) (settings : Settings) :
    StateM σ Outcome :=
  Run.tryBackends host file settings useAgents settings.backends none none

/-- The outcome for an artifact, and the files after its text was written. -/
def decompileTo (host : Host σ) (file : ArtifactFile) (output : String) (files : Files)
    (useAgents : Bool) (settings : Settings) : StateM σ (Except Failure (Outcome × Files)) := do
  let outcome ← decompile host file useAgents settings
  let (written, files) := ((Files.storage id).writeOutput output outcome.source).run files
  match written with
  | .ok _ => return .ok (outcome, files)
  | .error message => return .error (.inputOutput message)

end SourceRecovery
