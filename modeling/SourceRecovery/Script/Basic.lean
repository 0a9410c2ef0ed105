/-
Module: SourceRecovery.Script.Basic
Layer: Script
Purpose: Command scripts, so that runs can be described and checked without any program on the machine. A
  script is a row of steps; a step is a row of commands that pass bytes on; words are put together from
  literal text, parameters and the output of inner scripts.
Imports: SourceRecovery.Text.Utf8
Trusted boundary: none
Main exports: Script.Piece, Script.Word, Script.Redirect, Script.Cmd, Script.Step
Open obligations: none
-/
import SourceRecovery.Text.Utf8

namespace SourceRecovery.Script

/-- What programs read and write. -/
abbrev Bytes := List UInt8

/-- The bytes of characters. -/
def bytesOf (cs : List Char) : Bytes :=
  Text.Utf8.encode (String.ofList cs)

/-- A piece of a word. What is quoted is taken as it stands: it is not split, and no sign in it is a
    pattern. -/
inductive Piece where
  | literal (text : List Char) (quoted : Bool)
  | parameter (name : String) (quoted : Bool)
  | output (script : List Char) (quoted : Bool)
deriving DecidableEq, Repr

/-- A word before its pieces are filled in. -/
abbrev Word := List Piece

/-- Where the bytes of a stream go, or come from. -/
inductive Stream where
  /-- A file by its name. -/
  | file (name : Word)
  /-- The place of another stream. -/
  | same (stream : Nat)
deriving DecidableEq, Repr

/-- A stream of a command sent elsewhere. -/
structure Redirect where
  stream : Nat
  target : Stream
deriving DecidableEq, Repr

/-- When a step is run, given the status of the one before it. -/
inductive Link where
  | always
  | onSuccess
  | onFailure
deriving DecidableEq, Repr

mutual

/-- A command. -/
inductive Cmd where
  /-- Assignments and a program with its arguments. -/
  | simple (assignments : List (String × Word)) (words : List Word) (redirects : List Redirect)
  /-- The body of the first arm with a pattern that fits. -/
  | choice (subject : Word) (arms : List (List Word × List Step))
  /-- One body or the other, by the status of a condition. -/
  | branch (condition body otherwise : List Step)
  /-- Steps as one command, in a shell of their own or not. -/
  | group (body : List Step) (separate : Bool) (redirects : List Redirect)

/-- A row of commands, each of which reads what the one before it has written. -/
inductive Step where
  | mk (link : Link) (stages : List Cmd) (background : Bool)

end

end SourceRecovery.Script
