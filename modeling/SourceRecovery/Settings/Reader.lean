/-
Module: SourceRecovery.Settings.Reader
Layer: Settings
Purpose: Settings from text. Every part may be given as an object, where unknown fields do not count and
  known ones occur once at most, or as an array of its fields in order. What is missing has its default.
Imports: SourceRecovery.Settings.Basic, SourceRecovery.Json.Reader, SourceRecovery.Failure
Trusted boundary: none
Main exports: Settings.ofJson?, Settings.validated, Settings.read
Open obligations: none
-/
import SourceRecovery.Settings.Basic
import SourceRecovery.Json.Reader
import SourceRecovery.Failure

namespace SourceRecovery

namespace SettingsReader

/-- The values of named fields, as far as they are given. -/
def fields? (names : List String) : Json → Option (List (Option Json))
  | .object entries =>
    let keys := (entries.map Prod.fst).filter names.contains
    if keys.eraseDups.length = keys.length then some (names.map fun name => entries.lookup name)
    else none
  | .array items =>
    if items.length ≤ names.length then
      some (items.map some ++ List.replicate (names.length - items.length) none)
    else none
  | _ => none

/-- A field with a default. -/
def orElse {α : Type} (fallback : α) (read : Json → Option α) : Option Json → Option α
  | none => some fallback
  | some json => read json

/-- A field that may be missing or null. -/
def optional {α : Type} (read : Json → Option α) : Option Json → Option (Option α)
  | none | some .null => some none
  | some json => (read json).map some

/-- A field that is null or a value, with a default when it is missing. -/
def nullable {α : Type} (fallback : Option α) (read : Json → Option α) :
    Option Json → Option (Option α)
  | none => some fallback
  | some .null => some none
  | some json => (read json).map some

/-- A truth value. -/
def bool? : Json → Option Bool
  | .bool b => some b
  | _ => none

/-- A count of 64 bits. -/
def count? (json : Json) : Option Nat :=
  json.natural?.bind fun n => if n < Nat.pow 2 64 then some n else none

/-- A row of values. -/
def row? {α : Type} (read : Json → Option α) (json : Json) : Option (List α) :=
  json.array?.bind (List.mapM read)

/-- A row of texts. -/
def texts? : Json → Option (List String) :=
  row? Json.str?

/-- A choice by its name; the name may also be the only key of an object with a null value. -/
def choice? {α : Type} (choices : List (String × α)) : Json → Option α
  | .str name => choices.lookup name
  | .object [(name, .null)] => choices.lookup name
  | _ => none

/-- A decompiler. -/
def backend? (json : Json) : Option BackendSpec := do
  match ← fields? ["kind", "program", "args", "timeout_secs", "reject_unsupported_banner",
      "accept_nonzero_exit"] json with
  | [some kind, program, args, timeout, rejectBanner, acceptNonzero] =>
    return {
      kind := ← choice? [("decompyle3", .decompyle3), ("pycdc", .pycdc)] kind
      program := ← optional Json.str? program
      args := ← optional texts? args
      timeout := ← orElse defaultTimeout count? timeout
      rejectBanner := ← optional bool? rejectBanner
      acceptNonzero := ← orElse false bool? acceptNonzero }
  | _ => none

/-- A program that takes an artifact. -/
def tool? (json : Json) : Option ToolCommand := do
  let fallback : ToolCommand := {}
  match ← fields? ["program", "args", "timeout_secs"] json with
  | [program, args, timeout] =>
    return {
      program := ← orElse fallback.program Json.str? program
      args := ← orElse fallback.args texts? args
      timeout := ← orElse fallback.timeout count? timeout }
  | _ => none

/-- An agent. -/
def agent? (json : Json) : Option AgentSpec := do
  match ← fields? ["kind", "program", "model", "args", "timeout_secs"] json with
  | [some kind, program, model, args, timeout] =>
    return {
      kind := ← choice? [("claude", .claude), ("opencode", .opencode)] kind
      program := ← optional Json.str? program
      model := ← optional Json.str? model
      args := ← optional texts? args
      timeout := ← optional count? timeout }
  | _ => none

end SettingsReader

namespace Settings

open SettingsReader

/-- The names of the fields, in order. -/
def fieldNames : List String :=
  ["backends", "disassembler", "agents", "gap_marker", "stub_placeholder", "base_class_suffixes",
   "base_class_names", "context_lines", "workers", "artifact_extension", "output_extension"]

/-- Settings from their parts, not yet checked. -/
def ofJson? (json : Json) : Option Settings := do
  let fallback : Settings := {}
  match ← fields? fieldNames json with
  | [backends, disassembler, agents, marker, placeholder, suffixes, names, context, workers, artifact,
      output] =>
    return {
      backends := ← orElse fallback.backends (row? backend?) backends
      disassembler := ← nullable fallback.disassembler tool? disassembler
      agents := ← orElse fallback.agents (row? agent?) agents
      gapMarker := ← orElse fallback.gapMarker Json.str? marker
      stubPlaceholder := ← orElse fallback.stubPlaceholder Json.str? placeholder
      baseSuffixes := ← orElse fallback.baseSuffixes texts? suffixes
      baseNames := ← orElse fallback.baseNames texts? names
      contextLines := ← orElse fallback.contextLines count? context
      workers := ← orElse fallback.workers count? workers
      artifactExtension := ← orElse fallback.artifactExtension Json.str? artifact
      outputExtension := ← orElse fallback.outputExtension Json.str? output }
  | _ => none

/-- An extension without the points before it. -/
def plainExtension (extension : String) : String :=
  String.ofList (extension.toList.dropWhile (· == '.'))

/-- A count of 64 bits as a signed number. -/
def signedCount (n : Nat) : Int :=
  if n < Nat.pow 2 63 then n else (n : Int) - Nat.pow 2 64

/-- Usable settings, or why they are not: there has to be a backend, a marker that is not blank, and an
    extension of artifacts. -/
def validated (settings : Settings) : Except Failure Settings :=
  if settings.backends.isEmpty then .error (.settings "at least one backend is required")
  else if Text.isBlankText settings.gapMarker then .error (.settings "gap_marker must not be empty")
  else
    let artifact := plainExtension settings.artifactExtension
    if artifact = "" then .error (.settings "artifact_extension must not be empty")
    else
      .ok
        { settings with
          artifactExtension := artifact
          outputExtension := plainExtension settings.outputExtension
          workers := clampWorkers (signedCount settings.workers) }

/-- Usable settings from their parts. -/
def ofJson (json : Json) : Except Failure Settings :=
  match ofJson? json with
  | some settings => settings.validated
  | none => .error .json

/-- Usable settings from a text. -/
def read (text : String) : Except Failure Settings :=
  match Json.read? text with
  | some json => ofJson json
  | none => .error .json

end Settings

end SourceRecovery
