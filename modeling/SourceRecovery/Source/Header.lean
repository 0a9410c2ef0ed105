/-
Module: SourceRecovery.Source.Header
Layer: Source
Purpose: Headers of definitions as lines of text, in text that need not be acceptable source: what a line
  defines, its header up to the colon, and the bases of a class.
Imports: SourceRecovery.Text.Basic
Trusted boundary: none
Main exports: ItemKind, Header, Header.ofLine?, Header.text, Header.bases
Open obligations: none
-/
import SourceRecovery.Text.Basic

namespace SourceRecovery

/-- What a definition defines. -/
inductive ItemKind where
  | function
  | cls
deriving DecidableEq, Repr, Inhabited

namespace ItemKind

/-- The word for a kind. -/
def label : ItemKind → String
  | .function => "function"
  | .cls => "class"

end ItemKind

/-- What a line defines: the bytes of white space before it, the kind and the name. -/
structure Header where
  indent : Nat
  kind : ItemKind
  name : String
deriving DecidableEq, Repr

namespace Header

open Text

/-- The text after a word and the white space that has to follow it. -/
def afterWord? (word : String) (cs : List Char) : Option (List Char) :=
  match Chars.dropPattern? word.toList cs with
  | some (c :: rest) => if isBlank c then some (Chars.trimStart rest) else none
  | _ => none

/-- The kind and name of a definition that starts a text. -/
def definition? (cs : List Char) : Option (ItemKind × List Char) :=
  match afterWord? "def" cs, afterWord? "class" cs with
  | some rest, _ => some (.function, rest.takeWhile isWord)
  | none, some rest => some (.cls, rest.takeWhile isWord)
  | none, none => none

/-- What a line defines, if it defines anything: white space, possibly the word for coroutines, one of the
    two words for definitions, and a name. -/
def ofLine? (line : String) : Option Header :=
  let cs := Chars.trimStart line.toList
  let start := (afterWord? "async" cs).getD cs
  match definition? start with
  | some (kind, name) =>
    if name.isEmpty then none else some ⟨Text.indentWidth line, kind, String.ofList name⟩
  | none => none

/-- A bracket that opens. -/
def opens (c : Char) : Bool :=
  c == '(' || c == '[' || c == '\x7b'

/-- A bracket that closes. -/
def closes (c : Char) : Bool :=
  c == ')' || c == ']' || c == '\x7d'

/-- The text before the first colon that stands neither in brackets nor in quotes. -/
def beforeColon? : (depth : Int) → (quote : Option Char) → List Char → Option (List Char)
  | _, _, [] => none
  | depth, some q, c :: rest =>
    (beforeColon? depth (if c == q then none else some q) rest).map (c :: ·)
  | depth, none, c :: rest =>
    if c == '\'' || c == '"' then (beforeColon? depth (some c) rest).map (c :: ·)
    else if opens c then (beforeColon? (depth + 1) none rest).map (c :: ·)
    else if closes c then (beforeColon? (depth - 1) none rest).map (c :: ·)
    else if c == ':' && depth == 0 then some []
    else (beforeColon? depth none rest).map (c :: ·)

/-- The header on a line, without the colon that opens the body and what follows it. -/
def text (line : String) : String :=
  let cs := Chars.trim line.toList
  match beforeColon? 0 none cs with
  | some before => String.ofList (Chars.trimEnd before)
  | none => String.ofList (Chars.dropEndWhile (· == ':') cs)

/-- The pieces of a text between the commas outside brackets; `piece` holds the characters of the piece
    under way, last one first. -/
def splitTop : (depth : Int) → (piece : List Char) → List Char → List (List Char)
  | _, piece, [] => [piece.reverse]
  | depth, piece, c :: rest =>
    if opens c then splitTop (depth + 1) (c :: piece) rest
    else if closes c then splitTop (depth - 1) (c :: piece) rest
    else if c == ',' && depth == 0 then piece.reverse :: splitTop depth [] rest
    else splitTop depth (c :: piece) rest

/-- The text between the first opening and the last closing parenthesis. -/
def parenthesized? (cs : List Char) : Option (List Char) :=
  match Chars.splitOnce '(' cs with
  | none => none
  | some (_, rest) =>
    match Chars.splitOnce ')' rest.reverse with
    | none => none
    | some (_, inner) => some inner.reverse

/-- The bases in the header of a class; keyword arguments are none. -/
def bases (header : String) : List String :=
  match parenthesized? header.toList with
  | none => []
  | some inner =>
    (((splitTop 0 [] inner).map Chars.trim).filter fun base => !base.isEmpty && !base.contains '=').map
      String.ofList

end Header

end SourceRecovery
