/-
Module: SourceRecovery.Bytecode.Artifact
Layer: Bytecode
Purpose: Compiled artifacts: a header of sixteen bytes that starts with the magic number of the version,
  then an object stream whose one object is the code unit of the module body. What follows that object is
  not looked at.
Imports: SourceRecovery.Bytecode.ObjectStream, SourceRecovery.Failure
Trusted boundary: none
Main exports: Artifact.read
Open obligations: none
-/
import SourceRecovery.Bytecode.ObjectStream
import SourceRecovery.Failure

namespace SourceRecovery.Artifact

/-- The length of the header. -/
def headerLength : Nat :=
  16

/-- The version that the header names. -/
def readVersion : List UInt8 → Except Failure Version
  | low :: high :: 13 :: 10 :: _ =>
    let magic := low.toNat + 256 * high.toNat
    match Version.ofMagic? magic with
    | some version => .ok version
    | none => .error (.unsupported ("unhandled magic number " ++ toString magic))
  | _ => .error (.unsupported "missing magic-number terminator")

/-- The module in an object stream. -/
def readBody (version : Version) (stream : List UInt8) : Except Failure CompiledModule :=
  match (ObjectStream.readObject version ObjectStream.maxDepth).run { rest := stream } with
  | .error fault => .error (.corrupt (fault.text stream.length))
  | .ok (.code root, final) => .ok { version, units := final.units, root }
  | .ok (value, _) => .error (.corrupt ("top-level object is not a code object: " ++ value.literal))

/-- The module in an artifact. -/
def read (data : List UInt8) : Except Failure CompiledModule :=
  if data.length < headerLength then
    .error (.corrupt
      ("artifact is " ++ toString data.length ++ " bytes, shorter than the 16-byte header"))
  else
    match readVersion data with
    | .error failure => .error failure
    | .ok version => readBody version (data.drop headerLength)

end SourceRecovery.Artifact
