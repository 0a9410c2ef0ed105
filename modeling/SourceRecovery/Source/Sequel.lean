/-
Module: SourceRecovery.Source.Sequel
Layer: Source
Purpose: Lines that can be read in two ways, as one statement or as several, and what decides between the two
  readings: what follows them, and how many comments stand between the statements of their block.
Imports: SourceRecovery.Source.Parse
Trusted boundary: none
Main exports: Position, Opening, Splits, Sequel
Open obligations: none
-/
import SourceRecovery.Source.Parse

namespace SourceRecovery.Source

/-- Where a statement stands. -/
structure Position where
  /-- The number of comments and line continuations before it and before the statements between it and the
      front of its block, the nearest first; there are none at the front. -/
  gaps : List Nat
  /-- It starts a line of its own. -/
  lone : Bool
  /-- It stands after another one on its line. -/
  later : Bool := false
  /-- It ends with its line, also where it could go on. -/
  apart : Bool := false
  /-- What may stand after its line. -/
  next : Stand

/-- What the last of several statements starts with. -/
inductive Opening where
  /-- One target, or expressions. -/
  | single
  /-- Several targets. -/
  | several
  /-- Targets in square brackets, which are a subscript where the statements are read as one. -/
  | subscript
deriving DecidableEq, Repr

/-- Several statements in the place of one: the gaps between them, the last first, and how the last one
    starts. -/
structure Splits where
  gaps : List Nat
  opening : Opening := .single

/-- What follows a statement or a line of them. -/
structure Sequel where
  /-- Another statement on the same line. -/
  goesOn : Bool
  /-- Nothing but comments. -/
  finished : Bool
  /-- A comment or line continuation that belongs to the same block. -/
  noted : Bool
  /-- A line left of the block. -/
  left : Bool
  /-- A line left of the block, with a comment or line continuation before it. -/
  notedLeft : Bool

namespace Sequel

/-- A comment or line continuation comes next. -/
def isNoted (cs : List Char) (place : Place) : Bool :=
  let (rest, _) := afterSeparators cs place
  rest.head? == some '#' || jointLength rest != 0

/-- What follows a line that ends at a place, in the text from there on; `next` is what may stand after the
    line, and `fuel` bounds the number of comments. -/
def afterLine (next : Stand) (cs : List Char) (place : Place) (fuel : Nat) : Sequel :=
  let (token, text) := Token.next next false fuel cs place
  let (last, _) := Token.next { column := 0, text := true } false fuel cs place
  let left := token.lexeme == .dedent
  { goesOn := false
    finished := last.lexeme == .finish
    noted := isNoted cs place && !(left && token.start == place)
    left
    notedLeft := left && isNoted text token.start }

/-- What follows a statement; `next` is what may stand after its line. -/
def after (next : Stand) (s : Reading) : Sequel :=
  { afterLine next s.text s.token.start s.room with goesOn := s.token.lexeme != .lineEnd }

/-- Of two readings of one statement, as an assignment and as expressions, the second holds. It does not
    where nothing follows, and before a comment or on a line that goes on only after another statement. -/
def prefersExpressions (position : Position) (sequel : Sequel) : Bool :=
  if sequel.goesOn || sequel.noted then position.later else !sequel.finished || sequel.notedLeft

/-- The first of two rows of numbers has the smaller number where they first differ. -/
def isSmaller : List Nat → List Nat → Bool
  | a :: as, b :: bs => a < b || (a == b && isSmaller as bs)
  | _, _ => false

/-- Of two readings of lines that differ in where statements start the second holds; `joined` and `apart` are
    the gaps of the readings, and `opening` is how the last statement of the second one starts. Where their
    block ends, or a statement follows and the readings have the same gap before their last statement, the
    opening decides; elsewhere, and for several targets at the start of a line, the second reading holds if it
    has the smaller gaps. -/
def prefersApart (lone : Bool) (opening : Opening) (joined apart : List Nat) (sequel : Sequel) : Bool :=
  let alike := !joined.isEmpty && apart.head? == joined.head?
  let settled :=
    if sequel.goesOn || (lone && sequel.noted) then false
    else if sequel.notedLeft then alike
    else if sequel.finished then false
    else sequel.left || alike
  let smaller := isSmaller apart joined
  match settled, opening with
  | true, .single => true
  | true, .subscript => false
  | true, .several => smaller || !lone
  | false, _ => smaller

/-- Of two readings of lines, as one statement and as several, the second holds. -/
def prefersSeveral (position : Position) (splits : Splits) (sequel : Sequel) : Bool :=
  prefersApart position.lone splits.opening position.gaps (splits.gaps ++ position.gaps) sequel

end Sequel

end SourceRecovery.Source
