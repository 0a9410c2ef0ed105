/-
Module: SourceRecovery.Source.StringLiteral
Layer: Source
Purpose: Strings. The contents of a string are read in pieces: stretches of text, escapes, and fields, whose
  expressions are made of tokens like all others. Outside triple quotes a line may end only right after the
  quotes, an escape or a field.
Imports: SourceRecovery.Source.Parse
Trusted boundary: none
Main exports: StringLiteral.one, StringLiteral.row
Open obligations: none
-/
import SourceRecovery.Source.Parse

namespace SourceRecovery.Source.StringLiteral

open Parse

/-! Pieces -/

/-- What comes next in a string, with its length. -/
inductive Piece where
  | content (length : Nat)
  /-- The closing quotes, or the closing brace of a field. -/
  | closing (length : Nat)
  /-- The opening brace of a field, with what is passed over before it. -/
  | field (length : Nat)
  | broken

/-- How many characters a backslash in a raw string takes with it: the quote or a backslash, and a line
    end. -/
def rawEscape (d : Delimiter) (cs : List Char) : Nat :=
  let quoted := if cs.head? == some d.quote || cs.head? == some '\\' then 1 else 0
  match cs.drop quoted with
  | '\r' :: '\n' :: _ => quoted + 2
  | '\r' :: _ | '\n' :: _ => quoted + 1
  | _ => quoted

/-- The stretch of text at the front, of which `taken` characters have been passed; `skipped` more are passed
    unseen. `filled` holds once there is text in it. Nothing comes of it at an escape or brace right at its
    start, or where a line ends in it. -/
def stretch (d : Delimiter) : (filled : Bool) → (skipped taken : Nat) → List Char → Piece
  | _, _, _, [] => .broken
  | filled, skipped + 1, taken, _ :: rest => stretch d filled skipped (taken + 1) rest
  | filled, 0, taken, c :: rest =>
    let stopped := if filled then Piece.content taken else .broken
    if d.format && (c == '\x7b' || c == '\x7d') then stopped
    else if c == '\\' then
      if d.raw then stretch d filled (rawEscape d rest) (taken + 1) rest
      else if d.bytes && rest.head?.any (['N', 'u', 'U'].contains ·) then
        stretch d true 2 (taken + 1) rest
      else stopped
    else if c == d.quote then
      if d.triple then
        if Text.Chars.startsWith [d.quote, d.quote] rest then
          if filled then stopped else .closing (taken + 3)
        else if Text.Chars.startsWith [d.quote] rest then .content (taken + 2)
        else .content (taken + 1)
      else if filled then stopped
      else .closing (taken + 1)
    else if c == '\n' && filled && !d.triple then .broken
    else stretch d true 0 (taken + 1) rest

/-- The character is a hexadecimal digit. -/
def isHexDigit (c : Char) : Bool :=
  Text.isAsciiDigit c || ('a' ≤ c && c ≤ 'f') || ('A' ≤ c && c ≤ 'F')

/-- The text starts with `count` hexadecimal digits. -/
def startsWithHex (count : Nat) (cs : List Char) : Bool :=
  (cs.take count).length == count && (cs.take count).all isHexDigit

/-- The length of the escape after a backslash; zero when there is none. -/
def escaped : List Char → Nat
  | '\r' :: '\n' :: _ => 2
  | 'N' :: '\x7b' :: rest =>
    let named := rest.takeWhile (· != '\x7d')
    if !named.isEmpty && named.length < rest.length then named.length + 3 else 0
  | c :: rest =>
    if ['\n', '\'', '"', 'a', 'b', 'f', 'r', 'n', 't', 'v', '\\'].contains c then 1
    else if c == 'u' && startsWithHex 4 rest then 5
    else if c == 'U' && startsWithHex 8 rest then 9
    else if c == 'x' && startsWithHex 2 rest then 3
    else (((c :: rest).take 3).takeWhile Text.isAsciiDigit).length
  | [] => 0

/-- The piece at the front where there is no stretch of text: an escape, or a field, comment or line
    continuation after separators. -/
def escapeOrField (cs : List Char) : Piece :=
  let blanks := (cs.takeWhile isSeparator).length
  match cs, cs.drop blanks with
  | '\\' :: rest, _ => .content (escaped rest + 1)
  | _, '\x7b' :: _ => .field (blanks + 1)
  | _, rest =>
    if rest.head? == some '#' then .content (blanks + (rest.takeWhile (· != '\n')).length)
    else
      match jointLength rest with
      | 0 => .broken
      | length => .content (blanks + length)

/-- The next piece of a string. A doubled brace is text where there are fields. -/
def piece (d : Delimiter) (cs : List Char) : Piece :=
  match d.format, cs with
  | true, '\x7b' :: rest => if rest.head? == some '\x7b' then .content 2 else .field 1
  | true, '\x7d' :: rest => if rest.head? == some '\x7d' then .content 2 else .broken
  | _, _ =>
    match stretch d false 0 0 cs with
    | .broken => escapeOrField cs
    | found => found

/-- The next piece of the format of a field. -/
def formatPiece (cs : List Char) : Piece :=
  let ends := (cs.takeWhile (· == '\n')).length
  match cs.drop ends with
  | '\x7b' :: _ => .field (ends + 1)
  | '\x7d' :: _ => .closing (ends + 1)
  | [] => .broken
  | rest =>
    .content (ends + (rest.takeWhile fun c => c != '\x7b' && c != '\x7d' && c != '\n').length)

/-! Strings -/

/-- Pieces up to the closing one; the nodes are those of the fields. -/
def pieces (next : List Char → Piece) (field : (length : Nat) → Parse (List Tree)) :
    (fuel : Nat) → Parse (List Tree)
  | 0 => failure
  | fuel + 1 => do
    match next (← get).text with
    | .content length =>
      skip length
      pieces next field fuel
    | .closing length =>
      skip length
      return []
    | .field length =>
      let shown ← field length
      return shown ++ (← pieces next field fuel)
    | .broken => failure

/-- A field of a string, whose opening brace ends `length` characters on: values, a mark to show their text,
    a conversion, and a format, which may hold fields again. -/
def field (values : Context → Parse (List Tree)) (ctx : Context) :
    (fuel : Nat) → (length : Nat) → Parse (List Tree)
  | 0, _ => failure
  | fuel + 1, length => do
    skip length
    resume ctx.operand
    let shown ← values ctx.inside
    let _ ← signIf "=" ctx.inside.after
    let _ ← takeIf .conversion ctx.inside.after
    if ← seesOneOf [":", ":="] then
      skip 1
      return shown ++ (← pieces formatPiece (field values ctx fuel) (← get).room)
    else
      require (← seesSign "\x7d")
      skip 1
      return shown

/-- One string, with what may stand after it. -/
def one (values : Context → Parse (List Tree)) (ctx : Context) (stand : Stand) : Parse (List Tree) := do
  let token ← peek
  match token.lexeme with
  | .quote d =>
    modify fun s => { s with inField := d.format }
    skip (token.stop.offset - token.start.offset)
    let shown ← pieces (piece d) (field values ctx (← get).room) (← get).room
    modify fun s => { s with inField := false }
    resume stand
    return shown
  | _ => failure

/-- The next token opens a string. -/
def seesQuote : Parse Bool := do
  match ← lexeme with
  | .quote _ => return true
  | _ => return false

/-- Strings in a row. -/
def row (values : Context → Parse (List Tree)) (ctx : Context) : Parse Tree := do
  let start ← here
  let first ← one values ctx ctx.afterText
  let more ← many seesQuote (one values ctx ctx.afterText)
  node .other start (first ++ more.flatten)

end SourceRecovery.Source.StringLiteral
