/-
Module: SourceRecovery.Agent.Response
Layer: Agent
Purpose: Code in the free text of an agent: the contents of a fenced block, or everything from the first
  definition on, moved out to the margin, and only when it is acceptable source. Among several such codes
  the one with the highest score is taken, and of equals the first.
Imports: SourceRecovery.Source.Problem, SourceRecovery.Text.Basic
Trusted boundary: none
Main exports: dedent, extractCode, scoreCode, selectBest
Open obligations: none
-/
import SourceRecovery.Source.Problem
import SourceRecovery.Text.Basic

namespace SourceRecovery.Response

open Text

/-- The front that two texts share. -/
def sharedFront : List Char → List Char → List Char
  | a :: as, b :: bs => if a == b then a :: sharedFront as bs else []
  | _, _ => []

/-- The white space before a line. -/
def margin (line : List Char) : List Char :=
  line.takeWhile isBlank

/-- The white space that all lines of a text start with, blank lines aside. -/
def commonMargin (cs : List Char) : List Char :=
  match ((Chars.lines cs).filter fun line => !Chars.allBlank line).map margin with
  | [] => []
  | first :: rest => rest.foldl sharedFront first

/-- A line without the margin; a line that does not start with it loses all white space before it. -/
def dropMargin (common line : List Char) : List Char :=
  (Chars.dropPattern? common line).getD (Chars.trimStart line)

/-- A text moved out to the margin. -/
def dedent (text : String) : String :=
  match commonMargin text.toList with
  | [] => text
  | common => String.ofList (['\n'].intercalate ((text.toList.splitOn '\n').map (dropMargin common)))

/-- The text between the first opening line and the next closing fence. -/
def between? (opening : List Char) (cs : List Char) : Option (List Char) := do
  let (_, rest) ← Chars.splitAt? opening cs
  let (inner, _) ← Chars.splitAt? "```".toList rest
  return inner

/-- A text without blank lines at its front and white space at its end; the white space before its first
    line stays. -/
def trimEdges (cs : List Char) : List Char :=
  let cs := Chars.trimEnd cs
  let blank := cs.takeWhile isBlank
  let indent := (blank.reverse.takeWhile (· != '\n')).reverse
  indent ++ cs.drop blank.length

/-- The contents of the first fenced block that is marked as code of the language, or else of the first
    block without a mark. -/
def fenced? (cs : List Char) : Option (List Char) :=
  match between? "```python\n".toList cs with
  | some inner => some (trimEdges inner)
  | none => (between? "```\n".toList cs).map trimEdges

/-- The ways in which a definition may start. -/
def definitionStarts : List String :=
  ["def ", "class ", "async def ", "@"]

/-- A line that opens a definition. -/
def opensDefinition (line : List Char) : Bool :=
  definitionStarts.any fun start => Chars.startsWith start.toList (Chars.trimStart line)

/-- Everything from the first line that opens a definition on. -/
def fromDefinition? (cs : List Char) : Option (List Char) :=
  match (Chars.lines cs).dropWhile fun line => !opensDefinition line with
  | [] => none
  | lines => some (trimEdges (['\n'].intercalate lines))

/-- The code in an answer. -/
def extractCode [Source.Grammar] (answer : String) : Option String :=
  let found :=
    match fenced? answer.toList with
    | some code => some code
    | none => fromDefinition? answer.toList
  match found with
  | none => none
  | some code =>
    if Chars.allBlank code then none
    else
      let text := dedent (String.ofList code)
      if Source.isValid text then some text else none

/-- The number of lines that hold more than a comment. -/
def codeLines (code : String) : Nat :=
  ((lines code).filter fun line => !isBlankText line && !startsWith (trim line) "#").length

/-- The score of a code: ten for a line, five for a return of a value, two for an attribute of the instance;
    a code of two lines or less that does nothing loses fifty. -/
def scoreCode (code : String) : Int :=
  let count := codeLines code
  let score : Int := count * 10 + occurrences code "return " * 5 + occurrences code "self." * 2
  if contains code "pass" && count ≤ 2 then score - 50 else score

/-- The better of the best so far and one more code; only a higher score replaces. -/
def better (best : Option String) (code : String) : Option String :=
  match best with
  | none => some code
  | some top => if scoreCode top < scoreCode code then some code else some top

/-- The code with the highest score; of equals the first. -/
def selectBest (codes : List String) : Option String :=
  codes.foldl better none

end SourceRecovery.Response
