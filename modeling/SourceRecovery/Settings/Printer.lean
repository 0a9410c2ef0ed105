/-
Module: SourceRecovery.Settings.Printer
Layer: Settings
Purpose: Settings as the object from which they can be read back.
Imports: SourceRecovery.Settings.Basic, SourceRecovery.Json.Basic
Trusted boundary: none
Main exports: Settings.toJson
Open obligations: none
-/
import SourceRecovery.Settings.Basic
import SourceRecovery.Json.Basic

namespace SourceRecovery

/-- A row of texts that may be missing. -/
def textsOrNull : Option (List String) → Json
  | some texts => .ofTexts texts
  | none => .null

/-- A decompiler as an object. -/
def BackendSpec.toJson (spec : BackendSpec) : Json :=
  .object
    [("kind", .str spec.kind.id),
     ("program", .ofText? spec.program),
     ("args", textsOrNull spec.args),
     ("timeout_secs", .ofNat spec.timeout),
     ("reject_unsupported_banner",
       match spec.rejectBanner with
       | some b => .bool b
       | none => .null),
     ("accept_nonzero_exit", .bool spec.acceptNonzero)]

/-- A program as an object. -/
def ToolCommand.toJson (command : ToolCommand) : Json :=
  .object
    [("program", .str command.program), ("args", .ofTexts command.args),
     ("timeout_secs", .ofNat command.timeout)]

/-- An agent as an object. -/
def AgentSpec.toJson (spec : AgentSpec) : Json :=
  .object
    [("kind", .str spec.kind.id),
     ("program", .ofText? spec.program),
     ("model", .ofText? spec.model),
     ("args", textsOrNull spec.args),
     ("timeout_secs",
       match spec.timeout with
       | some n => .ofNat n
       | none => .null)]

/-- Settings as an object. -/
def Settings.toJson (settings : Settings) : Json :=
  .object
    [("backends", .array (settings.backends.map BackendSpec.toJson)),
     ("disassembler",
       match settings.disassembler with
       | some command => command.toJson
       | none => .null),
     ("agents", .array (settings.agents.map AgentSpec.toJson)),
     ("gap_marker", .str settings.gapMarker),
     ("stub_placeholder", .str settings.stubPlaceholder),
     ("base_class_suffixes", .ofTexts settings.baseSuffixes),
     ("base_class_names", .ofTexts settings.baseNames),
     ("context_lines", .ofNat settings.contextLines),
     ("workers", .ofNat settings.workers),
     ("artifact_extension", .str settings.artifactExtension),
     ("output_extension", .str settings.outputExtension)]

end SourceRecovery
