/-
Module: SourceRecovery.Source.Parse
Layer: Source
Purpose: Parsers with one token of look-ahead. A token is taken together with what may stand after it, since
  the next token is read under that; whether a word is a keyword is decided where it is met. The end of the
  last token taken is kept, so that every node knows the text it covers.
Imports: SourceRecovery.Source.Lexer, SourceRecovery.Source.Tree
Trusted boundary: none
Main exports: Reading, Parse, Context
Open obligations: none
-/
import SourceRecovery.Source.Lexer
import SourceRecovery.Source.Tree

namespace SourceRecovery.Source

/-- How far a text has been read: the next token, the text from its start on, where the last token taken
    ended, whether the innermost string left open has fields, and a bound on all repetition. -/
structure Reading where
  token : Token
  text : List Char
  last : Place
  inField : Bool
  room : Nat

/-- A parser: it gives a result and how far the text has been read, or nothing. -/
abbrev Parse := StateT Reading Option

/-- What may follow an expression or target: the column of the block around it, whether its line or a bracket
    may end there, which words may follow, and whether it may end in a choice. -/
structure Context where
  column : Nat
  lineEnd : Bool := false
  closing : Bool := false
  words : List String := []
  choice : Bool := true

namespace Context

/-- Nothing but what continues it may follow. -/
def inner (ctx : Context) : Context :=
  { column := ctx.column }

/-- A closing bracket may follow. -/
def inside (ctx : Context) : Context :=
  { column := ctx.column, closing := true }

/-- A closing bracket or the loop of a comprehension may follow. -/
def first (ctx : Context) : Context :=
  { column := ctx.column, closing := true, words := ["for", "async"] }

/-- After something finished. -/
def after (ctx : Context) : Stand :=
  { column := ctx.column, lineEnd := ctx.lineEnd, closing := ctx.closing }

/-- After something finished that a string may follow. -/
def afterText (ctx : Context) : Stand :=
  { ctx.after with text := true }

/-- Before an operand. -/
def operand (ctx : Context) : Stand :=
  { column := ctx.column, text := true }

/-- Before an operand or a closing bracket. -/
def element (ctx : Context) : Stand :=
  { column := ctx.column, text := true, closing := true }

/-- Before a given sign, word or name. -/
def bare (ctx : Context) : Stand :=
  { column := ctx.column }

end Context

namespace Parse

/-- The condition has to hold. -/
def require (condition : Bool) : Parse Unit :=
  if condition then pure () else failure

/-- The next token. -/
def peek : Parse Token := do
  return (← get).token

/-- What the next token is. -/
def lexeme : Parse Lexeme := do
  return (← get).token.lexeme

/-- The next token is read at a place of a text, under what may stand there. -/
def readAt (stand : Stand) (cs : List Char) (place : Place) : Parse Unit :=
  modify fun s =>
    let (token, text) := Token.next stand s.inField s.room cs place
    { s with token, text, last := place }

/-- The next `count` characters are taken, whatever they are; no token is read after them. -/
def skip (count : Nat) : Parse Unit :=
  modify fun s =>
    let start := s.token.start
    let stop := start.past (s.text.take count)
    { s with token := { lexeme := .unreadable, start := stop, stop }, text := s.text.drop count, last := stop }

/-- A token is read again after characters were taken. -/
def resume (stand : Stand) : Parse Unit := do
  let s ← get
  readAt stand s.text s.token.start

/-- The next token is taken, and what may stand after it is said. -/
def take (stand : Stand) : Parse Token := do
  let s ← get
  let token := s.token
  readAt stand (s.text.drop (token.stop.offset - token.start.offset)) token.stop
  return token

/-- The next token is the given one. -/
def sees (l : Lexeme) : Parse Bool := do
  return (← lexeme) == l

/-- The next token is the sign. -/
def seesSign (text : String) : Parse Bool :=
  sees (.sign text)

/-- The next token is one of the signs. -/
def seesOneOf (signs : List String) : Parse Bool := do
  match ← lexeme with
  | .sign text => return signs.contains text
  | _ => return false

/-- The next token is the word. -/
def seesWord (text : String) : Parse Bool :=
  sees (.word text)

/-- The given token is taken. -/
def expect (l : Lexeme) (stand : Stand) : Parse Unit := do
  require (← sees l)
  let _ ← take stand

/-- A sign is taken. -/
def sign (text : String) (stand : Stand) : Parse Unit :=
  expect (.sign text) stand

/-- A word is taken. -/
def word (text : String) (stand : Stand) : Parse Unit :=
  expect (.word text) stand

/-- The given token is taken when it is there. -/
def takeIf (l : Lexeme) (stand : Stand) : Parse Bool := do
  if ← sees l then
    let _ ← take stand
    return true
  else return false

/-- A sign is taken when it is there. -/
def signIf (text : String) (stand : Stand) : Parse Bool :=
  takeIf (.sign text) stand

/-- A word is taken when it is there. -/
def wordIf (text : String) (stand : Stand) : Parse Bool :=
  takeIf (.word text) stand

/-- What a parser would give, if anything, with nothing taken. -/
def attempt {α : Type} (p : Parse α) : Parse (Option α) :=
  fun s => some ((p s).map Prod.fst, s)

/-- What a parser would tell, with nothing taken. -/
def ahead (p : Parse Bool) : Parse Bool := do
  return (← attempt p) == some true

/-- Parts for as long as the condition holds before each. -/
def whileSeen {α : Type} (condition : Parse Bool) (p : Parse α) : (fuel : Nat) → Parse (List α)
  | 0 => return []
  | fuel + 1 => do
    if ← condition then
      let first ← p
      return first :: (← whileSeen condition p fuel)
    else return []

/-- Parts for as long as the condition holds before each; every part takes a token. -/
def many {α : Type} (condition : Parse Bool) (p : Parse α) : Parse (List α) := do
  whileSeen condition p (← get).room

/-- The line continuations before the next token, as nodes. -/
def joints : Parse (List Tree) := do
  return (← peek).joints.map fun span => .node .joint span []

/-- The place where the next token starts. -/
def here : Parse Place := do
  return (← peek).start

/-- A node from a place to the end of the last token taken. -/
def node (kind : NodeKind) (start : Place) (children : List Tree) : Parse Tree := do
  return .node kind ⟨start, (← get).last⟩ children

/-- A node of one token. -/
def leaf (kind : NodeKind) (stand : Stand) : Parse Tree := do
  let token ← take stand
  return .node kind ⟨token.start, token.stop⟩ []

/-- Any word as a name. -/
def name (stand : Stand) : Parse Tree := do
  match ← lexeme with
  | .word _ => leaf .identifier stand
  | _ => failure

/-- Names with points between. -/
def dottedName (ctx : Context) : Parse Tree := do
  let start ← here
  let _ ← name ctx.after
  let _ ← many (seesSign ".") (do sign "." ctx.bare; name ctx.after)
  node .dottedName start []

/-- Parts after commas. `more` tells whether a part follows a comma; where none does, the row ends with the
    comma. -/
def afterCommas (comma : Stand) (more : Parse Bool) (p : Parse Tree) : (fuel : Nat) → Parse (List Tree)
  | 0 => return []
  | fuel + 1 => do
    if ← signIf "," comma then
      if ← more then
        let part ← p
        return part :: (← afterCommas comma more p fuel)
      else return []
    else return []

/-- Parts with commas between, and possibly one after the last. -/
def row (comma : Stand) (more : Parse Bool) (p : Parse Tree) : Parse (List Tree) := do
  let first ← p
  return first :: (← afterCommas comma more p (← get).room)

/-- Parts with commas between and none after the last. -/
def strictRow (comma : Stand) (p : Parse Tree) : Parse (List Tree) :=
  row comma (pure true) p

/-- Parts in brackets whose opening one has been taken, up to the closing one; there may be none. -/
def bracketed (ctx : Context) (closing : String) (after : Stand) (p : Parse Tree) : Parse (List Tree) := do
  let parts ←
    if ← seesSign closing then pure []
    else row ctx.element (return !(← seesSign closing)) p
  sign closing after
  return parts

end Parse

end SourceRecovery.Source
