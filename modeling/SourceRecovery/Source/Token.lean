/-
Module: SourceRecovery.Source.Token
Layer: Source
Purpose: Tokens of source text and their places. The end of a line and the two changes of margin are tokens
  without text: they stand where the text before them ends.
Imports: none
Trusted boundary: none
Main exports: Place, Span, Delimiter, Lexeme, Token
Open obligations: none
-/

namespace SourceRecovery.Source

/-- A place in a text: the line, counted from zero, and the number of characters before it. -/
structure Place where
  row : Nat := 0
  offset : Nat := 0
deriving DecidableEq, Repr, Inhabited

namespace Place

/-- The place after a character. -/
def after (place : Place) (c : Char) : Place :=
  if c == '\n' then ⟨place.row + 1, place.offset + 1⟩ else ⟨place.row, place.offset + 1⟩

/-- The place after `count` characters of one line. -/
def along (place : Place) (count : Nat) : Place :=
  ⟨place.row, place.offset + count⟩

/-- The place after characters. -/
def past (place : Place) (cs : List Char) : Place :=
  cs.foldl after place

end Place

/-- A stretch of text. -/
structure Span where
  start : Place
  stop : Place
deriving DecidableEq, Repr, Inhabited

/-- How a string is delimited, and what its letters say about its contents. -/
structure Delimiter where
  quote : Char
  triple : Bool := false
  raw : Bool := false
  format : Bool := false
  bytes : Bool := false
deriving DecidableEq, Repr

/-- What a token is. -/
inductive Lexeme where
  /-- A name or a keyword: which of them is for the grammar to say. -/
  | word (text : String)
  | number
  /-- An operator, a bracket or a separator. -/
  | sign (text : String)
  /-- The letters and quotes that open a string. -/
  | quote (d : Delimiter)
  /-- The conversion of a field in a string. -/
  | conversion
  /-- The end of a line that ends a statement. -/
  | lineEnd
  /-- The next line starts further in, at a width. -/
  | indent (width : Nat)
  /-- The next line starts left of the block. -/
  | dedent
  /-- A place where no token can be read. -/
  | unreadable
  /-- The end of the text. -/
  | finish
deriving DecidableEq, Repr

/-- A token with its place, the line continuations in the gap before it, and the number of comments and line
    continuations there. -/
structure Token where
  lexeme : Lexeme
  start : Place
  stop : Place
  joints : List Span := []
  notes : Nat := 0
deriving Repr

end SourceRecovery.Source
