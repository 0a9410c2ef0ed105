/-
Module: SourceRecovery.Listing.Reader
Layer: Listing
Purpose: Reading listings. Blank lines carry nothing; the block of a line is what follows it further in.
  A block of fields and sections is a unit, sections that are not known are passed over, and what the
  constants hold is read as literals, one a line, where a bracket alone on a line opens a container. A line
  that is no literal is kept raw. Every unit keeps its own lines as they stand in the listing.
Imports: SourceRecovery.Bytecode.CodeUnit, SourceRecovery.Value.Literal, SourceRecovery.Failure
Trusted boundary: none
Main exports: Listing.Line, Listing.ReaderState, Listing.Loaded, Listing.read
Open obligations: none
-/
import SourceRecovery.Bytecode.CodeUnit
import SourceRecovery.Value.Literal
import SourceRecovery.Failure

namespace SourceRecovery.Listing

/-- A line that is not blank: as it stands, without white space at its ends, and the bytes of white space
    before it. -/
structure Line where
  indent : Nat
  text : String
  raw : String
deriving DecidableEq, Repr, Inhabited

/-- The lines of a listing that are not blank. -/
def linesOf (listing : String) : List Line :=
  ((Text.lines listing).filter fun raw => !Text.isBlankText raw).map fun raw =>
    ⟨Text.indentWidth raw, Text.trim raw, raw⟩

/-- Where a reader stands: the lines that remain, and the units read so far with their lines. -/
structure ReaderState where
  rest : List Line
  units : List CodeUnit := []
  slices : List String := []

/-- Units nest too deep; `left` lines remained. -/
structure ReaderFault where
  left : Nat

/-- A reader of a listing. -/
abbrev Reader := StateT ReaderState (Except ReaderFault)

/-- Units may nest this deep. -/
def maxDepth : Nat :=
  200

/-- The next line, when it stands further in than `indent`. -/
def nextInside? (indent : Nat) (s : ReaderState) : Option (Line × ReaderState) :=
  match s.rest with
  | line :: rest => if indent < line.indent then some (line, { s with rest }) else none
  | [] => none

/-- All lines up to the next one that does not stand further in than `indent`. -/
def takeBlock (indent : Nat) : Reader (List Line) :=
  fun s =>
    let inside := fun (line : Line) => decide (indent < line.indent)
    .ok (s.rest.takeWhile inside, { s with rest := s.rest.dropWhile inside })

/-- The text of a literal text. -/
def textOfLiteral? (cs : List Char) : Option String :=
  match Literal.readWhole cs with
  | .ok (.str s) => some s
  | _ => none

/-- The name in an entry of a name table: a quoted name, possibly with a remark after it; without readable
    quotes the first word stripped of quotes. -/
def nameOfEntry (text : String) : String :=
  let head := Text.Chars.firstWord text.toList
  let isQuote := fun (c : Char) => c == '\'' || c == '"'
  match textOfLiteral? text.toList with
  | some name => name
  | none =>
    match textOfLiteral? head with
    | some name => name
    | none => String.ofList (Text.Chars.dropEndWhile isQuote (head.dropWhile isQuote))

/-- A number of 32 bits. -/
def readWord? (cs : List Char) : Option UInt32 :=
  match readUnsigned 10 (Nat.pow 2 32) cs with
  | .ok n => some (UInt32.ofNat n)
  | .error _ => none

/-- The number at the front of a field; zero when there is none. -/
def fieldNumber (value : List Char) : UInt32 :=
  (readWord? (Text.Chars.firstWord value)).getD 0

/-- The flags at the front of a field, in hexadecimal; zero when they cannot be read. -/
def fieldFlags (value : List Char) : UInt32 :=
  let word := Text.Chars.firstWord value
  let digits := Text.Chars.dropRepeated ['0', 'X'] word.length
    (Text.Chars.dropRepeated ['0', 'x'] word.length word)
  match readUnsigned 16 (Nat.pow 2 32) digits with
  | .ok n => UInt32.ofNat n
  | .error _ => 0

/-- The instruction on a line: offset, mnemonic and argument; a line that does not start with an offset and
    a mnemonic holds none. -/
def instructionOf? (text : String) : Option Instruction :=
  match Text.Chars.words text.toList with
  | offset :: mnemonic :: rest =>
    (readWord? offset).map fun start =>
      let argument := rest.head?.bind fun word => readWord? (Text.Chars.dropEndWhile (· == ':') word)
      ⟨start, Opcode.ofName (String.ofList mnemonic), argument.getD 0⟩
  | _ => none

/-- A unit under way. A qualified name is only known once a field gives it. -/
structure Draft where
  unit : CodeUnit
  qualname : Option String := none

/-- The unit with a field set; keys that are not known change nothing. -/
def Draft.setField (draft : Draft) (key : String) (value : List Char) : Draft :=
  let u := draft.unit
  match key with
  | "File Name" => { draft with unit := { u with filename := String.ofList value } }
  | "Object Name" => { draft with unit := { u with name := String.ofList value } }
  | "Qualified Name" => { draft with qualname := some (String.ofList value) }
  | "Arg Count" => { draft with unit := { u with argCount := fieldNumber value } }
  | "Pos Only Arg Count" => { draft with unit := { u with posOnlyCount := fieldNumber value } }
  | "KW Only Arg Count" => { draft with unit := { u with kwOnlyCount := fieldNumber value } }
  | "Stack Size" => { draft with unit := { u with stackSize := fieldNumber value } }
  | "First Line" => { draft with unit := { u with firstLine := fieldNumber value } }
  | "Flags" => { draft with unit := { u with flags := fieldFlags value } }
  | _ => draft

/-- The unit with the field of a line set; a line without a colon has no field. -/
def Draft.readField (draft : Draft) (text : String) : Draft :=
  match Text.Chars.splitOnce ':' text.toList with
  | some (key, value) => draft.setField (Text.trim (String.ofList key)) (Text.Chars.trim value)
  | none => draft

/-- The unit with the table of a section set; sections that are not known change nothing. -/
def Draft.setTable (draft : Draft) (title : String) (block : List Line) : Draft :=
  let u := draft.unit
  let names := block.map fun entry => nameOfEntry entry.text
  match title with
  | "Names" => { draft with unit := { u with names } }
  | "Var Names" | "Locals+Names" => { draft with unit := { u with varNames := names } }
  | "Free Vars" => { draft with unit := { u with freeVars := names } }
  | "Cell Vars" => { draft with unit := { u with cellVars := names } }
  | "Disassembly" =>
    let instructions := block.filterMap fun entry => instructionOf? entry.text
    { draft with unit := { u with instructions } }
  | _ => draft

/-- The finished unit: its size is where an instruction after the last one would start. -/
def Draft.finish (draft : Draft) : CodeUnit :=
  let u := draft.unit
  { u with
    qualname := draft.qualname.getD u.name
    codeSize := (u.instructions.getLast?.map fun ins => ins.offset + 2).getD 0
    children := u.consts.filterMap Value.code? }

/-- The title of a section line. -/
def sectionTitle? (text : String) : Option String :=
  match text.toList with
  | '[' :: rest =>
    if rest.getLast? == some ']' && !rest.dropLast.isEmpty then some (String.ofList rest.dropLast)
    else none
  | _ => none

/-- The container that a bracket alone on a line opens, and the line that closes it. -/
def container? : String → Option ((List Value → Value) × String)
  | "(" => some (.tuple, ")")
  | "[" => some (.list, "]")
  | "\x7b" => some (.set, "\x7d")
  | "frozenset(\x7b" => some (.frozenset, "\x7d)")
  | _ => none

/-- The value on a line of its own; a line that is no literal stays raw. -/
def valueOfLine (text : String) : Value :=
  match Literal.readWhole text.toList with
  | .ok value => value
  | .error _ => .raw text

/-- The lines of a block moved out to the margin of its first line. A line that is not long enough for
    that, or whose margin ends inside a character, is taken without white space at its ends. -/
def sliceOf (indent : Nat) (lines : List Line) : String :=
  Text.join (lines.map fun line =>
    match Text.Chars.dropBytes? indent line.raw.toList with
    | some cs => String.ofList cs
    | none => line.text)

/-- A unit and its lines go to the end of the lists; the position of the unit is the result. -/
def addUnit (unit : CodeUnit) (slice : String) : Reader Nat :=
  fun s => .ok (s.units.length, { s with units := s.units ++ [unit], slices := s.slices ++ [slice] })

/-- The closing line of a container is passed over wherever it stands. -/
def skipClosing (closing : String) : Reader Unit :=
  modify fun s =>
    match s.rest with
    | line :: rest => if line.text = closing then { s with rest } else s
    | [] => s

/-- Units nest too deep here. -/
def tooDeep {α : Type} : Reader α :=
  fun s => .error ⟨s.rest.length⟩

mutual

/-- The unit whose first line comes next, with room for `room` levels of nesting. -/
def readUnit (version : Version) : (fuel room : Nat) → Reader Nat
  | 0, _ => tooDeep
  | _ + 1, 0 => tooDeep
  | fuel + 1, room + 1 => do
    let before := (← get).rest
    match before with
    | [] => tooDeep
    | line :: rest =>
      modify fun s => { s with rest }
      let draft ← readFields version fuel room line.indent ⟨.empty "" version, none⟩
      let used := before.length - (← get).rest.length
      addUnit draft.finish (sliceOf line.indent (before.take used))

/-- The fields and sections of a unit, up to the end of its block. -/
def readFields (version : Version) : (fuel room : Nat) → (indent : Nat) → Draft → Reader Draft
  | 0, _, _, _ => tooDeep
  | fuel + 1, room, indent, draft => do
    match nextInside? indent (← get) with
    | none => return draft
    | some (line, next) =>
      set next
      match sectionTitle? line.text with
      | none => readFields version fuel room indent (draft.readField line.text)
      | some title =>
        if title = "Constants" then
          let consts ← readConsts version fuel room line.indent
          readFields version fuel room indent { draft with unit := { draft.unit with consts } }
        else
          let block ← takeBlock line.indent
          readFields version fuel room indent (draft.setTable title block)

/-- The values of a block. -/
def readConsts (version : Version) : (fuel room : Nat) → (indent : Nat) → Reader (List Value)
  | 0, _, _ => tooDeep
  | fuel + 1, room, indent => do
    match nextInside? indent (← get) with
    | none => return []
    | some (line, next) =>
      let first ← readConst version fuel room line next
      return first :: (← readConsts version fuel room indent)

/-- The value that starts with `line`; `next` is the place after that line. -/
def readConst (version : Version) : (fuel room : Nat) → Line → ReaderState → Reader Value
  | 0, _, _, _ => tooDeep
  | fuel + 1, room, line, next => do
    if line.text = "[Code]" then return .code (← readUnit version fuel room)
    else
      set next
      match container? line.text with
      | none => return valueOfLine line.text
      | some (make, closing) =>
        let items ← readConsts version fuel room line.indent
        skipClosing closing
        return make items

end

/-- The version in a banner that starts here: the name, two numbers and a point between. -/
def bannerHere? (cs : List Char) : Option (List Char × List Char) := do
  let rest ← Text.Chars.dropPattern? "(Python ".toList cs
  let major := rest.takeWhile Text.isDecimalDigit
  match rest.dropWhile Text.isDecimalDigit with
  | '.' :: rest =>
    let minor := rest.takeWhile Text.isDecimalDigit
    if major.isEmpty || minor.isEmpty then none else some (major, minor)
  | _ => none

/-- The numbers of the first banner in a line. -/
def bannerIn? : List Char → Option (List Char × List Char)
  | [] => none
  | c :: cs =>
    match bannerHere? (c :: cs) with
    | some found => some found
    | none => bannerIn? cs

/-- The version of the first banner line; its numbers have eight bits. -/
def bannerVersion? (lines : List Line) : Option Version :=
  match lines.findSome? fun line => bannerIn? line.text.toList with
  | none => none
  | some (major, minor) =>
    match readUnsigned 10 256 major, readUnsigned 10 256 minor with
    | .ok a, .ok b => some ⟨UInt8.ofNat a, UInt8.ofNat b⟩
    | _, _ => none

/-- The version is one whose listings are known. -/
def isKnownVersion (v : Version) : Bool :=
  v.atLeast 3 6 && !v.atLeast 3 14

/-- What a listing holds: a module, and for every unit its own lines. -/
structure Loaded where
  module : CompiledModule
  slices : List String

/-- The module whose first line comes first in `body`; `before` lines of the listing precede it. -/
def readModule (version : Version) (before : Nat) (body : List Line) : Except Failure Loaded :=
  match (readUnit version (4 * body.length + 4) maxDepth).run { rest := body } with
  | .error fault =>
    .error (.corrupt ("code objects nested too deep near report line "
      ++ toString (before + body.length - fault.left + 1)))
  | .ok (root, final) => .ok ⟨{ version, units := final.units, root }, final.slices⟩

/-- The module in a listing. -/
def read (listing : String) : Except Failure Loaded :=
  let all := linesOf listing
  let isFirst := fun (line : Line) => line.text == "[Code]"
  let header := all.takeWhile fun line => !isFirst line
  let body := all.dropWhile fun line => !isFirst line
  if body.isEmpty then .error (.corrupt "report contains no code objects")
  else
    match bannerVersion? header with
    | none => .error (.unsupported "report has no (Python X.Y) banner")
    | some version =>
      if isKnownVersion version then readModule version header.length body
      else
        .error (.unsupported ("report is for Python " ++ version.text ++ ", expected 3.6..=3.13"))

end SourceRecovery.Listing
