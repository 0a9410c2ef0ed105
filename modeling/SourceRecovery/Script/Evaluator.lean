/-
Module: SourceRecovery.Script.Evaluator
Layer: Script
Purpose: The run of a script. A shell holds the parameters, what was written so far, the status of the last
  command, the time that has passed, and the time until which something in the background keeps the output
  open.
Imports: SourceRecovery.Script.Reader, SourceRecovery.Script.Tools
Trusted boundary: none
Main exports: Script.Shell, Script.runScript
Open obligations: none
-/
import SourceRecovery.Script.Reader
import SourceRecovery.Script.Tools

namespace SourceRecovery.Script

/-- Why a shell does not go on. -/
inductive Stop where
  | exited
  | killed
deriving DecidableEq, Repr

/-- A shell under way. -/
structure Shell where
  files : StoredFiles := []
  bindings : List (String × Bytes) := []
  /-- The name of the script and its arguments. -/
  arguments : List Bytes := []
  out : Bytes := []
  err : Bytes := []
  status : Nat := 0
  /-- The time that has passed, in milliseconds. -/
  clock : Nat := 0
  /-- The time until which the output stays open. -/
  held : Nat := 0
  stop : Option Stop := none
deriving Inhabited

namespace Shell

/-- A shell that starts where this one is, with nothing written. -/
def fork (shell : Shell) : Shell :=
  { shell with out := [], err := [] }

/-- The shell after one that was started from it, without what that one has written: time has passed, and
    what kills the script kills this one too. -/
def join (shell child : Shell) : Shell :=
  { shell with
    err := shell.err ++ child.err
    status := child.status
    clock := max shell.clock child.clock
    held := max shell.held child.held
    stop := if child.stop == some .killed then some .killed else shell.stop }

/-- The shell after a program. -/
def after (shell : Shell) (result : ToolResult) : Shell :=
  { shell with
    out := shell.out ++ result.out
    err := shell.err ++ result.err
    status := result.status
    clock := shell.clock + result.time }

/-- A parameter with a single value. -/
def parameter (shell : Shell) (name : String) : Bytes :=
  let args := shell.arguments.drop 1
  match name with
  | "@" | "*" => [(32 : UInt8)].intercalate args
  | "#" => textBytes (toString args.length)
  | "?" => textBytes (toString shell.status)
  | "$" => textBytes processNumber
  | _ =>
    match name.toList with
    | [] => []
    | c :: cs =>
      if (c :: cs).all Char.isDigit then
        shell.arguments[Nat.ofDigitChars 10 (c :: cs) 0]?.getD []
      else (shell.bindings.lookup name).getD []
where
  /-- The number of the process that runs the script. -/
  processNumber : String :=
    "2"

/-- A variable with a new value. -/
def assign (shell : Shell) (name : String) (value : Bytes) : Shell :=
  { shell with bindings := (name, value) :: shell.bindings }

end Shell

/-! Words -/

/-- A byte of a word, and whether it may be a pattern or a place to split at. -/
structure PatternByte where
  byte : UInt8
  quoted : Bool
deriving DecidableEq, Repr

/-- A part of a word that was filled in. -/
inductive Filled where
  | text (bytes : Bytes) (quoted : Bool)
  /-- The output of a script or the value of a parameter, which is split when it is not quoted. -/
  | value (bytes : Bytes) (quoted : Bool)
  /-- All arguments, each a word of its own. -/
  | arguments (words : List Bytes)
deriving DecidableEq, Repr

/-- White space at which values are split. -/
def isSplit (b : UInt8) : Bool :=
  b == 32 || b == 9 || b == 10

/-- Words under way: those that are finished, and the one that is being put together. -/
structure Fields where
  finished : List Bytes := []
  current : Option Bytes := none
deriving DecidableEq, Repr

namespace Fields

/-- Bytes added to the word being put together. -/
def add (fields : Fields) (bytes : Bytes) : Fields :=
  { fields with current := some (fields.current.getD [] ++ bytes) }

/-- The word being put together is finished. -/
def close (fields : Fields) : Fields :=
  { finished := fields.finished ++ fields.current.toList, current := none }

/-- A value that is split at white space. -/
def addSplit (fields : Fields) (bytes : Bytes) : Fields :=
  bytes.foldl (fun fields b => if isSplit b then fields.close else fields.add [b]) fields

/-- Several words: the first one goes on with what was begun, and the last one may go on. -/
def addWords (fields : Fields) : List Bytes → Fields
  | [] => fields
  | [word] => fields.add word
  | word :: words => addWords (fields.add word).close words

/-- One part added. -/
def addFilled (fields : Fields) : Filled → Fields
  | .text bytes quoted => if bytes.isEmpty && !quoted then fields else fields.add bytes
  | .value bytes quoted => if quoted then fields.add bytes else fields.addSplit bytes
  | .arguments words => fields.addWords words

end Fields

/-- The opening of a quoted text that only holds all arguments is no word when there are none. -/
def isBareArguments (parts : List Filled) : Bool :=
  parts.any (fun part => part matches .arguments []) &&
    parts.all fun part =>
      match part with
      | .text bytes _ => bytes.isEmpty
      | .value _ _ => false
      | .arguments words => words.isEmpty

/-- The words that parts make. -/
def wordsOf (parts : List Filled) : List Bytes :=
  if isBareArguments parts then [] else (parts.foldl Fields.addFilled {}).close.finished

/-- The bytes that parts make when they are not split. -/
def joined (parts : List Filled) : Bytes :=
  parts.flatMap fun part =>
    match part with
    | .text bytes _ | .value bytes _ => bytes
    | .arguments words => [(32 : UInt8)].intercalate words

/-- The bytes that parts make, each with whether it was quoted. -/
def patternOf (parts : List Filled) : List PatternByte :=
  parts.flatMap fun part =>
    match part with
    | .text bytes quoted | .value bytes quoted => bytes.map fun b => ⟨b, quoted⟩
    | .arguments words => ([(32 : UInt8)].intercalate words).map fun b => ⟨b, true⟩

/-- Some end of the bytes passes a test. -/
def someEnd (test : Bytes → Bool) : Bytes → Bool
  | [] => test []
  | b :: rest => test (b :: rest) || someEnd test rest

/-- A text fits a pattern: a star that is not quoted stands for anything, a question mark for one byte. -/
def fits : List PatternByte → Bytes → Bool
  | [], bytes => bytes.isEmpty
  | unit :: pattern, bytes =>
    if unit.byte == 42 && !unit.quoted then
      someEnd (fits pattern) bytes
    else
      match bytes with
      | [] => false
      | b :: rest =>
        (unit.byte == b || (unit.byte == 63 && !unit.quoted)) && fits pattern rest

/-- Output without the ends of lines at its end. -/
def dropLineEnds (bytes : Bytes) : Bytes :=
  (bytes.reverse.dropWhile (· == 10)).reverse

/-- The streams of a command sent elsewhere, one after the other. What goes to a file is gone. -/
def sendStreams (redirects : List Redirect) (out err : Bytes) : Bytes × Bytes :=
  redirects.foldl
    (fun streams redirect =>
      match redirect.stream, redirect.target with
      | 1, .same 2 => ([], streams.2 ++ streams.1)
      | 2, .same 1 => (streams.1 ++ streams.2, [])
      | 1, .file _ => ([], streams.2)
      | 2, .file _ => (streams.1, [])
      | _, _ => streams)
    (out, err)

/-- What a command reads: the file that is named for it, or what comes in. -/
def inputName? (redirects : List Redirect) : Option Word :=
  redirects.findSome? fun redirect =>
    match redirect.stream, redirect.target with
    | 0, .file name => some name
    | _, _ => none

/-- A name as characters. -/
def nameOf (bytes : Bytes) : String :=
  Text.Utf8.decodeLossy bytes

mutual

/-- The parts of a word, and the shell after the scripts in it were run. -/
def fill : (fuel : Nat) → Word → Shell → List Filled × Shell
  | 0, _, shell => ([], shell)
  | fuel + 1, pieces, shell =>
    pieces.foldl
      (fun (parts, shell) piece =>
        match piece with
        | .literal text quoted => (parts ++ [.text (bytesOf text) quoted], shell)
        | .parameter name quoted =>
          if name == "@" && quoted then (parts ++ [.arguments (shell.arguments.drop 1)], shell)
          else (parts ++ [.value (shell.parameter name) quoted], shell)
        | .output script quoted =>
          let child := runText fuel script [] shell.fork
          (parts ++ [.value (dropLineEnds child.out) quoted], shell.join child))
      ([], shell)

/-- The words of a command, and the shell after the scripts in them were run. -/
def fillWords : (fuel : Nat) → List Word → Shell → List Bytes × Shell
  | 0, _, shell => ([], shell)
  | fuel + 1, words, shell =>
    words.foldl
      (fun (filled, shell) word =>
        let (parts, shell) := fill fuel word shell
        (filled ++ wordsOf parts, shell))
      ([], shell)

/-- A script by its text. -/
def runText : (fuel : Nat) → List Char → Bytes → Shell → Shell
  | 0, _, _, shell => { shell with status := 2, stop := some .exited }
  | fuel + 1, text, input, shell =>
    match read? text with
    | some script => runSteps fuel script input shell
    | none =>
      { shell with
        err := shell.err ++ textBytes "sh: 1: Syntax error\n", status := 2, stop := some .exited }

/-- Steps, one after the other. -/
def runSteps : (fuel : Nat) → List Step → Bytes → Shell → Shell
  | 0, _, _, shell => { shell with status := 2, stop := some .exited }
  | fuel + 1, script, input, shell =>
    script.foldl
      (fun shell step =>
        match step with
        | .mk link stages background =>
          let wanted :=
            match link with
            | .always => true
            | .onSuccess => shell.status == 0
            | .onFailure => shell.status != 0
          if shell.stop.isSome || !wanted then shell
          else if background then
            let child := runStages fuel stages [] shell.fork
            { shell with
              out := shell.out ++ child.out
              err := shell.err ++ child.err
              status := 0
              held := max shell.held child.clock
              stop := if child.stop == some .killed then some .killed else shell.stop }
          else runStages fuel stages input shell)
      shell

/-- Commands that pass bytes on. -/
def runStages : (fuel : Nat) → List Cmd → Bytes → Shell → Shell
  | 0, _, _, shell => { shell with status := 2, stop := some .exited }
  | fuel + 1, stages, input, shell =>
    match stages with
    | [] => shell
    | [single] => runCommand fuel single input shell
    | first :: rest =>
      let pass := fun (passed : Bytes × Shell) (stage : Cmd) =>
        let child := runCommand fuel stage passed.1 shell.fork
        (child.out, passed.2.join child)
      let (out, last) := rest.foldl pass (pass (input, shell) first)
      { last with out := last.out ++ out }

/-- A command. -/
def runCommand : (fuel : Nat) → Cmd → Bytes → Shell → Shell
  | 0, _, _, shell => { shell with status := 2, stop := some .exited }
  | fuel + 1, command, input, shell =>
    match command with
    | .group body separate redirects =>
      let child := runSteps fuel body input shell.fork
      let (out, err) := sendStreams redirects child.out child.err
      if separate then
        let joined := shell.join { child with err := err }
        { joined with out := joined.out ++ out }
      else { child with out := shell.out ++ out, err := shell.err ++ err }
    | .branch condition body otherwise =>
      let tested := runSteps fuel condition input shell
      if tested.stop.isSome then tested
      else if tested.status == 0 then runSteps fuel body input tested
      else runSteps fuel otherwise input { tested with status := 0 }
    | .choice subject arms =>
      let (parts, shell) := fill fuel subject shell
      let value := joined parts
      let (body, shell) := arms.foldl
        (fun (found, shell) (patterns, body) =>
          match found with
          | some _ => (found, shell)
          | none =>
            patterns.foldl
              (fun (found, shell) pattern =>
                match found with
                | some _ => (found, shell)
                | none =>
                  let (parts, shell) := fill fuel pattern shell
                  (if fits (patternOf parts) value then some body else none, shell))
              (none, shell))
        ((none : Option (List Step)), { shell with status := 0 })
      match body with
      | some body => runSteps fuel body input shell
      | none => shell
    | .simple assignments words redirects =>
      let start := { shell with status := 0 }
      let (args, filled) := fillWords fuel words { start with status := shell.status }
      let assigned := assignments.foldl
        (fun (shell : Shell) (name, value) =>
          let (parts, shell) := fill fuel value shell
          shell.assign name (joined parts))
        (if assignments.isEmpty then filled else { filled with status := 0 })
      match args with
      | [] => { assigned with status := if assignments.isEmpty then 0 else assigned.status }
      | name :: args =>
        let (input, assigned) :=
          match inputName? redirects with
          | none => (input, assigned)
          | some word =>
            let (parts, shell) := fill fuel word assigned
            ((fileBytes? shell.files 0 (joined parts)).getD [], shell)
        let done := runProgram fuel (nameOf name) args input assigned.fork
        let (out, err) := sendStreams redirects done.out done.err
        { done with out := assigned.out ++ out, err := assigned.err ++ err }

/-- A program or one of the commands that change the shell itself. -/
def runProgram : (fuel : Nat) → (name : String) → List Bytes → Bytes → Shell → Shell
  | 0, _, _, _, shell => { shell with status := 2, stop := some .exited }
  | fuel + 1, name, args, input, shell =>
    match name with
    | "exit" =>
      { shell with
        status := (match args with
          | [] => shell.status
          | code :: _ => ((number? code).getD 2) % 256)
        stop := some .exited }
    | "exec" =>
      match args with
      | [] => shell
      | program :: rest =>
        let done := runProgram fuel (nameOf program) rest input shell
        { done with stop := done.stop.or (some .exited) }
    | "kill" =>
      if args.getLast? == some (shell.parameter "$") then
        { shell with stop := some .killed }
      else { shell with status := 1, err := shell.err ++ textBytes "sh: 1: kill: No such process\n" }
    | "sh" =>
      match args with
      | [45, 99] :: script :: rest =>
        let child := runText fuel (nameOf script).toList input
          { shell with
            arguments := if rest.isEmpty then [textBytes "sh"] else rest, bindings := [] }
        { child with arguments := shell.arguments, bindings := shell.bindings
                     stop := if child.stop == some .killed then child.stop else shell.stop }
      | _ => shell
    | "shift" => { shell with arguments := shell.arguments.take 1 ++ shell.arguments.drop 2, status := 0 }
    | _ =>
      match runTool? shell.files name args input with
      | some result => shell.after result
      | none =>
        { shell with
          err := shell.err ++ textBytes ("sh: 1: " ++ name ++ ": not found\n"), status := 127 }

end

/-- The shell after a script was run with arguments; a script nests no deeper than it is long. -/
def runScript (files : StoredFiles) (script : String) (arguments : List Bytes) : Shell :=
  runText (16 * (script.length + 8)) script.toList []
    { files, arguments := if arguments.isEmpty then [textBytes "sh"] else arguments }

end SourceRecovery.Script
