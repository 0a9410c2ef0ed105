/-
Module: SourceRecovery.Script.Tools
Layer: Script
Purpose: The programs that scripts call: printing, cutting, replacing and comparing bytes. A program reads
  bytes and arguments and gives its output, its complaints, its status and the time it takes.
Imports: SourceRecovery.Script.Basic
Trusted boundary: none
Main exports: Script.ToolResult, Script.StoredFiles, Script.runTool?
Open obligations: none
-/
import SourceRecovery.Script.Basic

namespace SourceRecovery.Script

/-- What a program has done. -/
structure ToolResult where
  out : Bytes := []
  err : Bytes := []
  status : Nat := 0
  /-- The time it takes, in milliseconds. -/
  time : Nat := 0
deriving DecidableEq, Repr, Inhabited

/-- The files that programs can read. -/
abbrev StoredFiles := List (Bytes × Bytes)

/-- The bytes of a text. -/
def textBytes (s : String) : Bytes :=
  Text.Utf8.encode s

/-- Bytes as characters, one for each. -/
def rawChars (bytes : Bytes) : List Char :=
  bytes.map fun b => Char.ofNat b.toNat

/-- The value of decimal digits. -/
def number? (bytes : Bytes) : Option Nat :=
  let cs := rawChars bytes
  if cs.isEmpty || !cs.all Char.isDigit then none else some (Nat.ofDigitChars 10 cs 0)

/-- The value of decimal digits with an optional sign. -/
def signed? (bytes : Bytes) : Option Int :=
  match rawChars bytes with
  | '-' :: _ => (number? bytes.tail).map fun n => -(n : Int)
  | '+' :: _ => (number? bytes.tail).map fun n => (n : Int)
  | _ => (number? bytes).map fun n => (n : Int)

/-! Escapes -/

/-- A digit of base eight. -/
def isOctal (b : UInt8) : Bool :=
  48 ≤ b.toNat && b.toNat ≤ 55

/-- The byte of up to `width` octal digits, and what comes after them. -/
def octal (width : Nat) (bytes : Bytes) : UInt8 × Bytes :=
  let digits := (bytes.take width).takeWhile isOctal
  let value := digits.foldl (fun n d => 8 * n + (d.toNat - 48)) 0
  (UInt8.ofNat value, bytes.drop digits.length)

/-- The byte that a letter after a backslash stands for. -/
def escape? (b : UInt8) : Option UInt8 :=
  match Char.ofNat b.toNat with
  | 'a' => some 7
  | 'b' => some 8
  | 't' => some 9
  | 'n' => some 10
  | 'v' => some 11
  | 'f' => some 12
  | 'r' => some 13
  | '\\' => some 92
  | _ => none

/-- What stands behind a backslash at the front of bytes, and what comes after it. -/
def escaped (bytes : Bytes) : Bytes × Bytes :=
  match bytes with
  | [] => ([92], [])
  | b :: rest =>
    match escape? b with
    | some value => ([value], rest)
    | none =>
      if isOctal b then
        let (value, after) := octal 3 bytes
        ([value], after)
      else ([92, b], rest)

/-- Bytes with their escapes, where a zero may stand before octal digits; `false` when the output stops
    there. -/
def unescape : (fuel : Nat) → Bytes → Bytes × Bool
  | 0, _ => ([], true)
  | fuel + 1, bytes =>
    match bytes with
    | [] => ([], true)
    | 92 :: 99 :: _ => ([], false)
    | 92 :: 48 :: rest =>
      let (value, after) := octal 3 rest
      let (more, goesOn) := unescape fuel after
      (value :: more, goesOn)
    | 92 :: rest =>
      let (found, after) := escaped rest
      let (more, goesOn) := unescape fuel after
      (found ++ more, goesOn)
    | b :: rest =>
      let (more, goesOn) := unescape fuel rest
      (b :: more, goesOn)

/-! Printing -/

/-- The arguments with blanks between them and the end of a line; without it after the option `-n`. -/
def echo (args : List Bytes) : ToolResult :=
  let (plain, args) :=
    match args with
    | [45, 110] :: rest => (true, rest)
    | _ => (false, args)
  let text := [(32 : UInt8)].intercalate args
  let (out, goesOn) := unescape (text.length + 1) text
  { out := if plain || !goesOn then out else out ++ [10] }

/-- A place in a format: how wide, on which side, and how much of the argument. -/
structure Place where
  left : Bool
  zeros : Bool
  width : Nat
  precision : Option Nat
deriving DecidableEq, Repr

/-- Bytes filled up to the width of a place. -/
def Place.pad (place : Place) (bytes : Bytes) : Bytes :=
  let fill := place.width - bytes.length
  if place.left then bytes ++ List.replicate fill 32
  else List.replicate fill (if place.zeros then 48 else 32) ++ bytes

/-- An argument at a place of a kind; nothing for a kind that is not known. -/
def Place.show? (place : Place) (kind : UInt8) (arg : Bytes) : Option Bytes :=
  let cut := match place.precision with
    | some n => arg.take n
    | none => arg
  match Char.ofNat kind.toNat with
  | 's' => some (place.pad cut)
  | 'b' => some (place.pad (unescape (arg.length + 1) arg).1)
  | 'c' => some (place.pad (arg.take 1))
  | 'd' | 'i' | 'u' => some (place.pad (textBytes (toString ((signed? arg).getD 0))))
  | _ => none

/-- The place after a percent sign, and what comes after its kind. -/
def place (bytes : Bytes) : Place × Option UInt8 × Bytes :=
  let flags := bytes.takeWhile fun b => b == 45 || b == 48
  let rest := bytes.drop flags.length
  let isDigit := fun (b : UInt8) => 48 ≤ b.toNat && b.toNat ≤ 57
  let width := rest.takeWhile isDigit
  let rest := rest.drop width.length
  let (precision, rest) :=
    match rest with
    | 46 :: more =>
      let digits := more.takeWhile isDigit
      (some ((number? digits).getD 0), more.drop digits.length)
    | _ => (none, rest)
  (⟨flags.contains 45, flags.contains 48, (number? width).getD 0, precision⟩, rest.head?, rest.tail)

/-- One pass over a format: what it prints, and the arguments that are left. -/
def formatOnce : (fuel : Nat) → Bytes → List Bytes → Bytes × List Bytes
  | 0, _, args => ([], args)
  | fuel + 1, format, args =>
    match format with
    | [] => ([], args)
    | 92 :: rest =>
      let (found, after) := escaped rest
      let (more, left) := formatOnce fuel after args
      (found ++ more, left)
    | 37 :: 37 :: rest =>
      let (more, left) := formatOnce fuel rest args
      (37 :: more, left)
    | 37 :: rest =>
      match place rest with
      | (spot, some kind, after) =>
        let (more, left) := formatOnce fuel after args.tail
        ((spot.show? kind (args.headD [])).getD [] ++ more, left)
      | (_, none, _) => ([37], args)
    | b :: rest =>
      let (more, left) := formatOnce fuel rest args
      (b :: more, left)

/-- Passes over a format as long as they use up arguments. -/
def formatAll : (fuel : Nat) → Bytes → List Bytes → Bytes
  | 0, _, _ => []
  | fuel + 1, format, args =>
    let (out, left) := formatOnce (format.length + 1) format args
    if left.isEmpty || left.length == args.length then out else out ++ formatAll fuel format left

/-- A format filled with arguments. -/
def printf (args : List Bytes) : ToolResult :=
  match args with
  | [] => { err := textBytes "printf: usage: printf format [arg ...]\n", status := 2 }
  | format :: rest => { out := formatAll (rest.length + 1) format rest }

/-! Files and streams -/

/-- A message about a file that is missing. -/
def missingFile (program : String) (name : Bytes) : Bytes :=
  textBytes (program ++ ": ") ++ name ++ textBytes ": No such file or directory\n"

/-- The bytes of a file, of which `room` at most are needed. A file of zeros without end and an empty file are
    always there. -/
def fileBytes? (files : StoredFiles) (room : Nat) (name : Bytes) : Option Bytes :=
  if name == textBytes "/dev/zero" then some (List.replicate room 0)
  else if name == textBytes "/dev/null" then some []
  else files.lookup name

/-- The bytes of files, or what comes in when there are none. -/
def readAll (program : String) (files : StoredFiles) (room : Nat) (names : List Bytes) (input : Bytes) :
    ToolResult :=
  let add := fun (result : ToolResult) (name : Bytes) =>
    if name == [45] then { result with out := result.out ++ input }
    else
      match fileBytes? files room name with
      | some bytes => { result with out := result.out ++ bytes }
      | none => { result with err := result.err ++ missingFile program name, status := 1 }
  if names.isEmpty then { out := input } else names.foldl add {}

/-- The number of bytes or lines that an option asks for: whether bytes are meant, the number, and the other
    arguments. -/
def amount (args : List Bytes) : Bool × Nat × List Bytes :=
  let value := fun (bytes : Bytes) => (number? bytes).getD 0
  match args with
  | [45, 99] :: count :: rest => (true, value count, rest)
  | [45, 110] :: count :: rest => (false, value count, rest)
  | (45 :: 99 :: count) :: rest => (true, value count, rest)
  | (45 :: 110 :: count) :: rest => (false, value count, rest)
  | (45 :: count) :: rest => if count.isEmpty then (false, 10, args) else (false, value count, rest)
  | _ => (false, 10, args)

/-- Lines with their ends. -/
def splitLines (bytes : Bytes) : List Bytes :=
  let step := fun (b : UInt8) (lines : List Bytes) =>
    match lines with
    | [] => [[b]]
    | line :: rest => if b == 10 then [b] :: line :: rest else (b :: line) :: rest
  bytes.foldr step []

/-- The front of bytes. -/
def head (files : StoredFiles) (args : List Bytes) (input : Bytes) : ToolResult :=
  let (inBytes, count, names) := amount args
  let all := readAll "head" files count names input
  { all with out := if inBytes then all.out.take count else ((splitLines all.out).take count).flatten }

/-- The end of bytes. -/
def tail (files : StoredFiles) (args : List Bytes) (input : Bytes) : ToolResult :=
  let (inBytes, count, names) := amount args
  let all := readAll "tail" files 0 names input
  let lines := splitLines all.out
  { all with
    out :=
      if inBytes then all.out.drop (all.out.length - count)
      else (lines.drop (lines.length - count)).flatten }

/-- The bytes of a set: escapes, ranges and bytes by themselves. -/
def expandSet : (fuel : Nat) → Bytes → Bytes
  | 0, _ => []
  | fuel + 1, bytes =>
    match bytes with
    | [] => []
    | 92 :: rest =>
      let (found, after) := escaped rest
      let found := if found.length == 2 then found.drop 1 else found
      found ++ expandSet fuel after
    | low :: 45 :: high :: rest =>
      (List.range (high.toNat + 1 - low.toNat)).map (fun i => UInt8.ofNat (low.toNat + i))
        ++ expandSet fuel rest
    | b :: rest => b :: expandSet fuel rest

/-- The byte that replaces a byte: the one at the same place of the second set, or the last one. -/
def replaceByte (source target : Bytes) (b : UInt8) : UInt8 :=
  match source.idxOf? b with
  | some i => target[i]?.getD (target.getLastD b)
  | none => b

/-- Bytes replaced or taken away by sets. -/
def tr (args : List Bytes) (input : Bytes) : ToolResult :=
  let set := fun (bytes : Bytes) => expandSet (bytes.length + 1) bytes
  match args with
  | [45, 100] :: gone :: _ => { out := input.filter fun b => !(set gone).contains b }
  | source :: target :: _ =>
    let from' := set source
    let to' := set target
    { out := input.map (replaceByte from' to') }
  | _ => { err := textBytes "tr: missing operand\n", status := 1 }

/-- Bytes without separators at their end. -/
def dropSlashes (bytes : Bytes) : Bytes :=
  (bytes.reverse.dropWhile (· == 47)).reverse

/-- The last name of a path, without an ending unless the ending is all of it. -/
def basename (args : List Bytes) : ToolResult :=
  match args with
  | [] => { err := textBytes "basename: missing operand\n", status := 1 }
  | path :: rest =>
    let trimmed := dropSlashes path
    let name :=
      if trimmed.isEmpty && !path.isEmpty then [47]
      else (trimmed.reverse.takeWhile (· != 47)).reverse
    let ending := rest.headD []
    let name :=
      if ending.isSuffixOf name && ending != name then name.take (name.length - ending.length)
      else name
    { out := name ++ [10] }

/-- The path above the last name. -/
def dirname (args : List Bytes) : ToolResult :=
  match args with
  | [] => { err := textBytes "dirname: missing operand\n", status := 1 }
  | path :: _ =>
    let trimmed := dropSlashes path
    let front := dropSlashes (trimmed.reverse.dropWhile (· != 47)).reverse
    let above :=
      if !front.isEmpty then front
      else if path.head? == some 47 then [47]
      else [46]
    { out := above ++ [10] }

/-- The truth of a test. -/
def testTruth (files : StoredFiles) : List Bytes → Option Bool
  | [] => some false
  | [word] => some (!word.isEmpty)
  | [op, word] =>
    if op == [33] then some word.isEmpty
    else if op == textBytes "-n" then some (!word.isEmpty)
    else if op == textBytes "-z" then some word.isEmpty
    else if op == textBytes "-f" || op == textBytes "-e" || op == textBytes "-r" then
      some (files.lookup word).isSome
    else none
  | [a, op, b] =>
    let compare := fun (holds : Int → Int → Bool) => do
      let x ← signed? a
      let y ← signed? b
      return holds x y
    if op == textBytes "=" then some (a == b)
    else if op == textBytes "!=" then some (a != b)
    else if op == textBytes "-eq" then compare fun x y => x == y
    else if op == textBytes "-ne" then compare fun x y => x != y
    else if op == textBytes "-lt" then compare fun x y => x < y
    else if op == textBytes "-le" then compare fun x y => x ≤ y
    else if op == textBytes "-gt" then compare fun x y => y < x
    else if op == textBytes "-ge" then compare fun x y => y ≤ x
    else if a == [33] then (testTruth files [op, b]).map (!·)
    else none
  | not :: rest => if not == [33] then (testTruth files rest).map (!·) else none

/-- The status of a test. -/
def test (files : StoredFiles) (args : List Bytes) : ToolResult :=
  match testTruth files args with
  | some true => {}
  | some false => { status := 1 }
  | none => { err := textBytes "test: unexpected operator\n", status := 2 }

/-- The time of a number of seconds with an optional fraction, in milliseconds. -/
def milliseconds (bytes : Bytes) : Nat :=
  let cs := rawChars bytes
  let whole := cs.takeWhile Char.isDigit
  let fraction := ((cs.drop (whole.length + 1)).takeWhile Char.isDigit ++ ['0', '0', '0']).take 3
  Nat.ofDigitChars 10 whole 0 * 1000 + Nat.ofDigitChars 10 fraction 0

/-- A program by its name. -/
def runTool? (files : StoredFiles) (name : String) (args : List Bytes) (input : Bytes) :
    Option ToolResult :=
  match name with
  | "true" | ":" => some {}
  | "false" => some { status := 1 }
  | "echo" => some (echo args)
  | "printf" => some (printf args)
  | "cat" => some (readAll "cat" files 0 args input)
  | "head" => some (head files args input)
  | "tail" => some (tail files args input)
  | "tr" => some (tr args input)
  | "basename" => some (basename args)
  | "dirname" => some (dirname args)
  | "test" => some (test files args)
  | "[" => some (test files args.dropLast)
  | "sleep" => some { time := args.foldl (fun total arg => total + milliseconds arg) 0 }
  | _ => none

end SourceRecovery.Script
