/-
Module: SourceRecovery.Source.Margin
Layer: Source
Purpose: What the margin of the next line means. A line end is a token only where a statement may end, and a
  line further in or further out only where a block may begin or end; everywhere else line ends are blanks,
  except that a line left of the block around it breaks off whatever is unfinished outside brackets.
Imports: SourceRecovery.Source.Token
Trusted boundary: none
Main exports: Stand, Margin, marginToken?
Open obligations: none
-/
import SourceRecovery.Source.Token

namespace SourceRecovery.Source

/-- What may stand at a place, as far as the margin asks for it. -/
structure Stand where
  /-- How far in the block around the place starts. -/
  column : Nat
  /-- A line end may end a statement. -/
  lineEnd : Bool := false
  /-- A closing bracket may stand here. -/
  closing : Bool := false
  /-- A string may start here. -/
  text : Bool := false
  /-- A block may begin. -/
  indented : Bool := false
  /-- A block may end. -/
  dedented : Bool := false
  /-- The word of a handler may stand here. -/
  handler : Bool := false

/-- Lines that only hold a comment are passed over when the margin is looked at. -/
def Stand.passesComments (stand : Stand) : Bool :=
  stand.lineEnd || stand.indented || stand.dedented || stand.handler

/-- The margin of the next line. -/
structure Margin where
  /-- A line ends before it. -/
  broken : Bool := false
  /-- The width of its white space. -/
  width : Nat := 0
  /-- The width before the first comment that was passed over. -/
  comment : Option Nat := none

namespace Margin

/-- The margin at the front of a text, and the text after it. `inComment` holds inside a comment. A tab
    counts for eight columns, and a carriage return or form feed starts the count anew; a backslash takes
    the line end after it away, and no margin can be told where it stands before anything else or where a
    comment ends the line. The end of the text ends a line. -/
def scan? (comments : Bool) : (inComment : Bool) → Margin → List Char → Option (Margin × List Char)
  | _, m, [] => some ({ m with broken := true, width := 0 }, [])
  | true, m, c :: rest => scan? comments (c != '\n') m rest
  | false, m, '\\' :: '\n' :: rest => scan? comments false m rest
  | false, m, '\\' :: '\r' :: '\n' :: rest => scan? comments false m rest
  | false, m, ['\\'] => some ({ m with broken := true, width := 0 }, [])
  | false, m, ['\\', '\r'] => some ({ m with broken := true, width := 0 }, [])
  | false, m, c :: rest =>
    if c == '\n' then scan? comments false { m with broken := true, width := 0 } rest
    else if c == ' ' then scan? comments false { m with width := m.width + 1 } rest
    else if c == '\t' then scan? comments false { m with width := m.width + 8 } rest
    else if c == '\r' || c == '\x0c' then scan? comments false { m with width := 0 } rest
    else if c == '\\' then none
    else if c == '#' && comments then
      if m.broken then
        scan? comments true { m with width := 0, comment := m.comment.or (some m.width) } rest
      else none
    else some (m, c :: rest)

/-- The next line starts left of the block, and so does the first comment before it. -/
def isLeftOf (m : Margin) (column : Nat) : Bool :=
  m.width < column && m.comment.all (· < column)

end Margin

/-- A quote that opens a string. -/
def isOpeningQuote (c : Char) : Bool :=
  c == '\'' || c == '"' || c == '`'

/-- The token without text at the front of a text, if there is one. Inside a field of a string no block
    ends. -/
def marginToken? (stand : Stand) (inField : Bool) (cs : List Char) : Option Lexeme :=
  match Margin.scan? stand.passesComments false {} cs with
  | none => none
  | some (m, rest) =>
    let continued :=
      stand.lineEnd || stand.closing || (stand.text && rest.head?.any isOpeningQuote)
    if !m.broken then none
    else if stand.indented && stand.column < m.width then some (.indent m.width)
    else if (stand.dedented || !continued) && m.isLeftOf stand.column && !inField then some .dedent
    else if stand.lineEnd then some .lineEnd
    else none

end SourceRecovery.Source
