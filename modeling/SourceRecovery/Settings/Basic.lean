/-
Module: SourceRecovery.Settings.Basic
Layer: Settings
Purpose: What a run uses: the backends in order of preference, the disassembler, the agents, and how their
  output is treated.
Imports: SourceRecovery.Text.Basic
Trusted boundary: none
Main exports: BackendKind, BackendSpec, ToolCommand, AgentKind, AgentSpec, Settings
Open obligations: none
-/
import SourceRecovery.Text.Basic

namespace SourceRecovery

/-- The decompilers that are known. -/
inductive BackendKind where
  | decompyle3
  | pycdc
deriving DecidableEq, Repr, Inhabited

namespace BackendKind

/-- The name of a decompiler. -/
def id : BackendKind → String
  | .decompyle3 => "decompyle3"
  | .pycdc => "pycdc"

/-- The program that runs a decompiler. -/
def program : BackendKind → String
  | .decompyle3 => "uv"
  | .pycdc => "pycdc"

/-- The arguments before the artifact. -/
def args : BackendKind → List String
  | .decompyle3 => ["run", "decompyle3"]
  | .pycdc => []

/-- The decompiler prints a banner, and does not fail, for versions it does not know. -/
def rejectsBanner : BackendKind → Bool
  | .decompyle3 => true
  | .pycdc => false

end BackendKind

/-- The time a program gets, in seconds, unless something else is said. Times are natural numbers without a bound; those
    that a clock cannot hold are outside what is said about runs. -/
def defaultTimeout : Nat :=
  60

/-- A decompiler and how it is run. -/
structure BackendSpec where
  kind : BackendKind
  program : Option String := none
  args : Option (List String) := none
  timeout : Nat := defaultTimeout
  /-- A banner about an unsupported version counts as failure. -/
  rejectBanner : Option Bool := none
  /-- Output counts even when the program reports a failure. -/
  acceptNonzero : Bool := false
deriving DecidableEq, Repr, Inhabited

namespace BackendSpec

/-- The name of the decompiler. -/
def id (spec : BackendSpec) : String :=
  spec.kind.id

/-- The program to run. -/
def programName (spec : BackendSpec) : String :=
  spec.program.getD spec.kind.program

/-- The arguments before the artifact. -/
def arguments (spec : BackendSpec) : List String :=
  spec.args.getD spec.kind.args

/-- A banner about an unsupported version counts as failure. -/
def rejectsBanner (spec : BackendSpec) : Bool :=
  spec.rejectBanner.getD spec.kind.rejectsBanner

end BackendSpec

/-- A program that takes an artifact as its last argument. -/
structure ToolCommand where
  program : String := "pycdas"
  args : List String := []
  timeout : Nat := defaultTimeout
deriving DecidableEq, Repr, Inhabited

/-- The agents that are known. -/
inductive AgentKind where
  | claude
  | opencode
deriving DecidableEq, Repr, Inhabited

namespace AgentKind

/-- All agents in order of preference. -/
def all : List AgentKind :=
  [.claude, .opencode]

/-- The name of an agent, which is also its program. -/
def id : AgentKind → String
  | .claude => "claude"
  | .opencode => "opencode"

/-- The model an agent is asked to use. -/
def model : AgentKind → String
  | .claude => "claude-sonnet-4-20250514"
  | .opencode => "gpt-5"

/-- The time an agent gets, in seconds. -/
def timeout : AgentKind → Nat
  | .claude => 60
  | .opencode => 120

/-- Where the prompt goes among the arguments. -/
def promptPlace : String :=
  "\x7bprompt\x7d"

/-- Where the model goes among the arguments. -/
def modelPlace : String :=
  "\x7bmodel\x7d"

/-- The arguments of an agent. -/
def args : AgentKind → List String
  | .claude => ["-p", promptPlace, "--model", modelPlace, "--permission-mode", "bypassPermissions"]
  | .opencode => ["ask", "--model", modelPlace, promptPlace]

end AgentKind

/-- An agent and how it is asked. -/
structure AgentSpec where
  kind : AgentKind
  program : Option String := none
  model : Option String := none
  args : Option (List String) := none
  timeout : Option Nat := none
deriving DecidableEq, Repr, Inhabited

namespace AgentSpec

/-- The program to run. -/
def programName (spec : AgentSpec) : String :=
  spec.program.getD spec.kind.id

/-- The model to use. -/
def modelName (spec : AgentSpec) : String :=
  spec.model.getD spec.kind.model

/-- The time the agent gets, in seconds. -/
def seconds (spec : AgentSpec) : Nat :=
  spec.timeout.getD spec.kind.timeout

/-- An argument with its places filled. The prompt only goes where it is the whole argument. -/
def fillArgument (spec : AgentSpec) (prompt arg : String) : String :=
  if arg = AgentKind.promptPlace then prompt
  else if arg = AgentKind.modelPlace then spec.modelName
  else
    String.ofList
      (Text.Chars.replace AgentKind.modelPlace.toList spec.modelName.toList arg.toList)

/-- The arguments for a prompt. -/
def arguments (spec : AgentSpec) (prompt : String) : List String :=
  (spec.args.getD spec.kind.args).map (spec.fillArgument prompt)

end AgentSpec

/-- What a run uses. -/
structure Settings where
  backends : List BackendSpec := [⟨.decompyle3, none, none, defaultTimeout, none, false⟩,
    ⟨.pycdc, none, none, defaultTimeout, none, false⟩]
  disassembler : Option ToolCommand := some {}
  agents : List AgentSpec := [⟨.claude, none, none, none, none⟩, ⟨.opencode, none, none, none, none⟩]
  /-- The text with which a decompiler marks a gap. -/
  gapMarker : String := "# WARNING: Decompyle incomplete"
  /-- The body of a stub. -/
  stubPlaceholder : String := "pass  # TODO: Reconstruct"
  /-- Names with these endings are taken for bases. -/
  baseSuffixes : List String := ["Base", "Component"]
  /-- These names are taken for bases. -/
  baseNames : List String := ["ControlSurface"]
  /-- The number of import lines an agent is shown. -/
  contextLines : Nat := 20
  workers : Nat := 10
  artifactExtension : String := "pyc"
  outputExtension : String := "py"
deriving DecidableEq, Repr, Inhabited

/-- The largest number of workers. -/
def maxWorkers : Nat :=
  64

/-- A number of workers from one to the largest one. -/
def clampWorkers (value : Int) : Nat :=
  if value < 1 then 1 else if (maxWorkers : Int) < value then maxWorkers else value.toNat

/-- The directories that are looked for artifacts, in order of preference. -/
def wellKnownRoots : List String :=
  ["/Applications/Ableton Live 12 Beta.app/Contents/App-Resources/MIDI Remote Scripts",
   "/Applications/Ableton Live 12 Suite.app/Contents/App-Resources/MIDI Remote Scripts",
   "/Applications/Ableton Live 12.app/Contents/App-Resources/MIDI Remote Scripts",
   "/Applications/Ableton Live 11 Suite.app/Contents/App-Resources/MIDI Remote Scripts"]

/-- The directory to look for artifacts: the one that is asked for, the first well-known one that exists,
    or the first well-known one. -/
def sourceRoot (asked : Option String) (directoryExists : String → Bool) : String :=
  match asked with
  | some root => root
  | none => (wellKnownRoots.find? directoryExists).getD (wellKnownRoots.headD "")

end SourceRecovery
