/-
Module: SourceRecovery.Source.Statement
Layer: Source
Purpose: The grammar of statements, and from it the syntax tree of a text. A block belongs to what stands
  before its colon as long as its lines do not start left of its first one; a colon without a block has an
  empty one. Lines may stand further in than their block.
Imports: SourceRecovery.Source.CasePattern, SourceRecovery.Source.SimpleStatement
Trusted boundary: none
Main exports: Tree.ofText?
Open obligations: none
-/
import SourceRecovery.Source.CasePattern
import SourceRecovery.Source.SimpleStatement

namespace SourceRecovery.Source

open Parse

namespace Statement

/-- Before a statement of a block. -/
def opening (column : Nat) : Stand :=
  { column, text := true, dedented := 0 < column }

/-- The parser of the statements of a line, or of one compound statement, in a block that starts at a column;
    the gaps between the statements before are given, the last first. -/
abbrev Lines := (gaps : List Nat) → (column : Nat) → Parse (List Tree)

/-- Where a statement stands: how nested parts and the lines of inner blocks are read, where its block starts,
    and the gaps from it to the front of the block. -/
structure Frame where
  nested : Nested
  lines : Lines
  column : Nat
  gaps : List Nat

namespace Frame

/-- In the header of a statement. -/
def header (frame : Frame) : Context :=
  { column := frame.column }

/-- Before the next statement. -/
def next (frame : Frame) : Stand :=
  opening frame.column

/-- Before the next statement or another handler. -/
def afterHandler (frame : Frame) : Stand :=
  { frame.next with handler := true }

/-- After the colon before a block. -/
def bodyStand (frame : Frame) : Stand :=
  { column := frame.column, text := true, lineEnd := true, indented := true }

/-- An expression in the header of a statement. -/
def expression (frame : Frame) : Parse Tree :=
  frame.nested.expression frame.header

/-- Expressions in the header of a statement. -/
def expressions (frame : Frame) : Parse (List Tree) :=
  Operand.expressions frame.nested frame.header

end Frame

/-! Blocks -/

/-- The statements of a block after the first, up to the token that ends it, with the line continuations
    between. -/
def moreLines (lines : Lines) (column : Nat) (last : Lexeme) :
    (fuel : Nat) → (gaps : List Nat) → Parse (List Tree)
  | 0, _ => failure
  | fuel + 1, gaps => do
    let before ← joints
    if ← sees last then return before
    else
      let gaps := (← peek).notes :: gaps
      let found ← lines gaps column
      return before ++ found ++ (← moreLines lines column last fuel gaps)

/-- A block: statements on the line of the colon, a block further in, or nothing. The colon has been taken;
    `next` is what may stand after the block. -/
def body (frame : Frame) (next : Stand) : Parse Tree := do
  match ← lexeme with
  | .lineEnd => leaf .block next
  | .indent width =>
    let _ ← take (opening width)
    let start ← here
    if ← takeIf .dedent next then node .block start []
    else
      let first ← frame.lines [] width
      let rest ← moreLines frame.lines width .dedent (← get).room []
      expect .dedent next
      node .block start (first ++ rest)
  | _ =>
    let start ← here
    let position : Position := { gaps := frame.gaps, lone := false, next }
    node .block start (← SimpleStatement.line frame.nested frame.column position)

/-- A colon with a block. -/
def suite (frame : Frame) (next : Stand) : Parse Tree := do
  sign ":" frame.bodyStand
  body frame next

/-- A colon with a block that another statement may follow. -/
def block (frame : Frame) : Parse Tree :=
  suite frame frame.next

/-! Clauses -/

/-- A part alone. -/
def alone (p : Parse Tree) : Parse (List Tree) := do
  return [← p]

/-- A clause: a word, with `stand` after it, what stands before the colon, and a block. -/
def clause (stand : Stand) (before : Parse (List Tree)) (block : Parse Tree) : Parse Tree := do
  let start ← here
  let _ ← take stand
  let parts ← before
  node .compound start (parts ++ [← block])

/-- A clause of a single word, when it is there. -/
def wordClause (frame : Frame) (text : String) : Parse (List Tree) := do
  if ← seesWord text then alone (clause frame.header.bare (pure []) (block frame)) else return []

/-! Compound statements -/

/-- A conditional statement. -/
def ifStatement (frame : Frame) : Parse Tree := do
  let start ← here
  let stand := frame.header.operand
  word "if" stand
  let condition ← frame.expression
  let body ← block frame
  let alternatives ← many (seesWord "elif") (clause stand (alone frame.expression) (block frame))
  let last ← wordClause frame "else"
  node .compound start (condition :: body :: alternatives ++ last)

/-- A loop with a condition. -/
def whileStatement (frame : Frame) : Parse Tree := do
  let start ← here
  word "while" frame.header.operand
  let condition ← frame.expression
  let body ← block frame
  let last ← wordClause frame "else"
  node .compound start (condition :: body :: last)

/-- A loop over values, after the word that may stand before it. -/
def forStatement (frame : Frame) (start : Place) : Parse Tree := do
  let ctx := frame.header
  word "for" ctx.operand
  let targets ← frame.nested.targets { ctx with words := ["in"] }
  word "in" ctx.operand
  let source ← frame.expressions
  let body ← block frame
  let last ← wordClause frame "else"
  node .compound start (targets :: source ++ body :: last)

/-- A context statement, after the word that may stand before it. -/
def withStatement (frame : Frame) (start : Place) : Parse Tree := do
  word "with" frame.header.operand
  let items ← frame.expressions
  node .compound start (items ++ [← block frame])

/-- What stands before the colon of a handler: nothing, an exception, or an exception and a target. -/
def handled (frame : Frame) : Parse (List Tree) := do
  if ← seesSign ":" then return []
  else
    let items ← strictRow frame.header.operand frame.expression
    require (items.length ≤ 2)
    return items

/-- A handler of groups: the star follows its word directly. -/
def seesGroupHandler : Parse Bool := do
  return (← seesWord "except") && ((← get).text.drop 6).head? == some '*'

/-- A handler of groups. -/
def groupHandler (frame : Frame) : Parse Tree := do
  let start ← here
  skip 7
  resume frame.header.operand
  let group ← frame.expression
  node .compound start [group, ← suite frame frame.afterHandler]

/-- A guarded statement: handlers of one form, or a final clause alone. -/
def tryStatement (frame : Frame) : Parse Tree := do
  let start ← here
  word "try" frame.header.bare
  let body ← suite frame { column := frame.column, handler := true }
  let groups ← many seesGroupHandler (groupHandler frame)
  let handlers ←
    if groups.isEmpty then
      many (seesWord "except")
        (clause frame.header.operand (handled frame) (suite frame frame.afterHandler))
    else pure groups
  let otherwise ← if handlers.isEmpty then pure [] else wordClause frame "else"
  let last ← wordClause frame "finally"
  require (!handlers.isEmpty || !last.isEmpty)
  node .compound start (body :: handlers ++ otherwise ++ last)

/-! Definitions -/

/-- Types in square brackets, when they are there. -/
def typeParameters (frame : Frame) : Parse (List Tree) := do
  if ← seesSign "[" then
    alone (TypeHint.parameters (SimpleStatement.typeHint frame.nested) frame.header)
  else return []

/-- The parameters of a function in parentheses. -/
def parameters (frame : Frame) : Parse Tree := do
  let start ← here
  let inside := frame.header.inside
  let hint := SimpleStatement.typeHint frame.nested inside
  sign "(" inside.after
  let more := do return !(← seesSign ")")
  let params ←
    if ← more then row inside.after more (Parameter.one frame.nested (some hint) inside) else pure []
  sign ")" frame.header.bare
  node .parameters start params

/-- The body of a function after the type of its result. A statement on the line of the colon must not start
    like a type that is no expression. -/
def resultBody (frame : Frame) : Parse Tree := do
  sign ":" frame.bodyStand
  require !(← TypeHint.seesType { frame.header with lineEnd := true })
  body frame frame.next

/-- A definition of a function, after the word that may stand before it. -/
def functionDefinition (frame : Frame) (start : Place) : Parse Tree := do
  let ctx := frame.header
  word "def" ctx.bare
  let given ← name ctx.bare
  let types ← typeParameters frame
  let params ← parameters frame
  let rest ←
    if ← signIf "->" ctx.operand then
      let type ← TypeHint.hint frame.nested (← get).room false ctx
      pure [type, ← resultBody frame]
    else alone (block frame)
  node .functionDefinition start (given :: types ++ params :: rest)

/-- A definition of a class. -/
def classDefinition (frame : Frame) : Parse Tree := do
  let start ← here
  let ctx := frame.header
  word "class" ctx.bare
  let given ← name ctx.bare
  let types ← typeParameters frame
  let bases ← if ← seesSign "(" then alone (Operand.arguments frame.nested ctx false) else pure []
  let body ← block frame
  node .classDefinition start (given :: types ++ bases ++ [body])

/-- A definition with decorators before it. -/
def decorated (frame : Frame) : Parse Tree := do
  let start ← here
  let ctx := frame.header
  let decorators ← many (seesSign "@") (do
    sign "@" ctx.operand
    let given ← frame.nested.expression { ctx with lineEnd := true }
    expect .lineEnd ctx.bare
    return given)
  let definition ←
    if ← seesWord "class" then classDefinition frame
    else
      let place ← here
      let _ ← wordIf "async" ctx.bare
      functionDefinition frame place
  node .decoratedDefinition start (decorators ++ [definition])

/-! Cases -/

/-- A case of a match statement. -/
def caseClause (frame : Frame) : Parse Tree := do
  let start ← here
  let ctx := frame.header
  word "case" ctx.operand
  let more := do return !((← seesWord "if") || (← seesSign ":"))
  let patterns ← row ctx.operand more (CasePattern.pattern frame.nested (← get).room ctx)
  let guards ← if ← wordIf "if" ctx.operand then alone frame.expression else pure []
  let body ← suite frame { column := frame.column, dedented := true }
  node .other start (patterns ++ guards ++ [body])

/-- The cases of a match statement, or nothing. The colon has been taken. -/
def cases (frame : Frame) : Parse Tree := do
  match ← lexeme with
  | .lineEnd => leaf .block frame.next
  | .indent width =>
    let start ← here
    let _ ← take { column := width, dedented := true }
    let clauses ← many (return !(← sees .dedent)) (caseClause { frame with column := width })
    expect .dedent frame.next
    node .block start clauses
  | _ => failure

/-- A match statement: subjects, and a block of cases. -/
def matchStatement (frame : Frame) : Parse Tree := do
  let start ← here
  let ctx := frame.header
  word "match" { ctx.operand with lineEnd := true }
  require ((← seesWord "not") || (← Operand.startsAfterWord ctx))
  let subjects ← frame.expressions
  sign ":" { column := frame.column, lineEnd := true, indented := true }
  node .other start (subjects ++ [← cases frame])

/-- Statements are read on until they reach a place; nothing comes of it where they fail before. The result
    has the gaps before them, the last first. -/
def reaches (frame : Frame) (stop : Place) : (fuel : Nat) → (gaps : List Nat) → Parse (List Nat)
  | 0, _ => failure
  | fuel + 1, gaps => do
    if (← get).last.offset < stop.offset then
      let gaps := (← peek).notes :: gaps
      let _ ← frame.lines (gaps ++ frame.gaps) frame.column
      reaches frame stop fuel gaps
    else return gaps

/-- A line that starts with the word for a match: a match statement, or a simple statement with the word as a
    name. The match holds where it leads further; otherwise what follows the simple statement decides. -/
def matchOrLine (frame : Frame) (statement line : Parse (List Tree)) : Parse (List Tree) :=
  fun s =>
    match statement s, line s with
    | some (a, matched), some (b, plain) =>
      if plain.last.offset < matched.last.offset then some (a, matched)
      else
        let lone := matched.last.offset < plain.last.offset
        let position : Position := { gaps := frame.gaps, lone, next := frame.next }
        let rest := s.text.drop (plain.last.offset - s.token.start.offset)
        let goesOn := lone && (SimpleStatement.goesOn frame.nested frame.column position s).any Prod.fst
        let sequel := { Sequel.afterLine frame.next rest plain.last s.room with goesOn }
        match reaches frame plain.last s.room [] matched with
        | some (gaps, _) =>
          if sequel.prefersSeveral position { gaps } then
            some (a, matched)
          else some (b, plain)
        | none => some (b, plain)
    | some a, none => some a
    | none, b => b

/-- A line of simple statements. Where it takes the word for a guarded statement on the next line as a name,
    and the next line can be such a statement, what follows that statement decides. -/
def lineOrGuarded (frame : Frame) : Parse (List Tree) :=
  let position : Position := { gaps := frame.gaps, lone := true, next := frame.next }
  fun s =>
    match SimpleStatement.line frame.nested frame.column position s with
    | some (b, plain) =>
      let apart := do
        let first ← SimpleStatement.line frame.nested frame.column { position with apart := true }
        require ((← get).last.offset < plain.last.offset)
        let gap := (← peek).notes
        let guarded ← tryStatement { frame with gaps := gap :: frame.gaps }
        return (gap, first ++ [guarded])
      if plain.last.row == s.token.start.row then some (b, plain)
      else
        match apart s with
        | some ((gap, a), guarded) =>
          let rest := s.text.drop (guarded.last.offset - s.token.start.offset)
          let sequel := Sequel.afterLine frame.next rest guarded.last s.room
          match reaches frame guarded.last s.room [] plain with
          | some (gaps, _) =>
            if sequel.prefersApart true .single (gaps ++ frame.gaps) (gap :: frame.gaps) then some (a, guarded)
            else some (b, plain)
          | none => some (a, guarded)
        | none => some (b, plain)
    | none => none

/-! Statements -/

/-- The word before a loop, context statement or function that is a coroutine. -/
def asyncStatement (frame : Frame) : Parse Tree := do
  let start ← here
  word "async" { column := frame.column, lineEnd := true }
  match ← lexeme with
  | .word "for" => forStatement frame start
  | .word "with" => withStatement frame start
  | .word "def" => functionDefinition frame start
  | _ => failure

/-- The statements of a line, or one compound statement. -/
def statement (frame : Frame) : Parse (List Tree) := do
  let position : Position := { gaps := frame.gaps, lone := true, next := frame.next }
  let line := SimpleStatement.line frame.nested frame.column position
  match ← lexeme with
  | .word "if" => alone (ifStatement frame)
  | .word "while" => alone (whileStatement frame)
  | .word "for" => alone (do forStatement frame (← here))
  | .word "with" => alone (do withStatement frame (← here))
  | .word "try" => alone (tryStatement frame)
  | .word "def" => alone (do functionDefinition frame (← here))
  | .word "class" => alone (classDefinition frame)
  | .sign "@" => alone (decorated frame)
  | .word "async" => alone (asyncStatement frame) <|> line
  | .word "match" => matchOrLine frame (alone (matchStatement frame)) line
  | _ => lineOrGuarded frame

/-- The statements of a line, or one compound statement, with room for `depth` levels of blocks. -/
def linesAt (nested : Nested) : (depth : Nat) → Lines
  | 0, _, _ => failure
  | depth + 1, gaps, column => statement ⟨nested, linesAt nested depth, column, gaps⟩

/-- All statements of a text. -/
def wholeText : Parse Tree := do
  let room := (← get).room
  resume (opening 0)
  let start ← here
  let lines := linesAt (Nested.at room) room
  if ← sees .finish then node .module start []
  else
    let first ← lines [] 0
    node .module start (first ++ (← moreLines lines 0 .finish room []))

end Statement

/-- The reading of a text before any of it has been read. -/
def Reading.ofText (text : String) : Reading :=
  let cs := text.toList
  ⟨{ lexeme := .unreadable, start := {}, stop := {} }, cs, {}, false, cs.length + 2⟩

/-- The syntax tree of a text, when the text has one. -/
def Tree.ofText? (text : String) : Option Tree :=
  (Statement.wholeText.run (Reading.ofText text)).map Prod.fst

end SourceRecovery.Source
