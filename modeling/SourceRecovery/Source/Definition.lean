/-
Module: SourceRecovery.Source.Definition
Layer: Source
Purpose: Definitions in a text that may be unfinished: those whose header is followed by a gap marker within
  a few lines, found line by line in any text, and those whose body is a single pass statement, found in the
  syntax tree of acceptable text.
Imports: SourceRecovery.Source.Scan, SourceRecovery.Source.Problem
Trusted boundary: none
Main exports: Definition, flaggedDefinitions, passOnlyDefinitions
Open obligations: none
-/
import SourceRecovery.Source.Scan
import SourceRecovery.Source.Problem

namespace SourceRecovery

/-- A definition in a text. Lines are counted from zero; `stop` is exclusive and covers a marker that trails
    the definition. -/
structure Definition where
  name : String
  kind : ItemKind
  start : Nat
  stop : Nat
  indent : Nat
  enclosing : Option String
  header : String
  bases : List String
  /-- A gap marker follows the header. -/
  flagged : Bool
  /-- The body is the placeholder of a stub. -/
  placeholder : Bool
deriving DecidableEq, Repr

namespace Definition

/-- The other definition lies within this one. -/
def covers (outer inner : Definition) : Bool :=
  outer.start ≤ inner.start && inner.stop ≤ outer.stop

/-- A marker belongs to a header at most this many lines before it. -/
def markerReach : Nat :=
  3

/-- The closest header among lines before a place, the nearest first. -/
def closestHeader? : (place : Nat) → List String → Option (Nat × Header)
  | _, [] => none
  | place, line :: rest =>
    match Header.ofLine? line with
    | some header => some (place - 1, header)
    | none => closestHeader? (place - 1) rest

/-- The header that a marker line belongs to. -/
def headerOfMarker? (lines : List String) (place : Nat) : Option (Nat × Header) :=
  closestHeader? place ((lines.take place).reverse.take markerReach)

/-- The definition with the header at `start` and a marker at `place`. -/
def ofMarker (lines : List String) (marker : String) (place start : Nat) (header : Header) :
    Definition :=
  let text := Header.text (lines[start]?.getD "")
  { name := header.name
    kind := header.kind
    start
    stop := Scan.markerEnd lines (max (Scan.blockEnd lines start) (place + 1)) marker
    indent := header.indent
    enclosing := Scan.enclosingClass lines start
    header := text
    bases := if header.kind = .cls then Header.bases text else []
    flagged := true
    placeholder := false }

/-- The definitions found so far, with that of a line when the line holds a marker and its header was not
    found before. -/
def addFlagged (lines : List String) (marker : String) (found : List Definition) (place : Nat)
    (line : String) : List Definition :=
  if Text.contains line marker then
    match headerOfMarker? lines place with
    | some (start, header) =>
      if found.any fun d => d.start == start then found
      else found ++ [ofMarker lines marker place start header]
    | none => found
  else found

/-- The definitions found in the lines from `place` on. -/
def flaggedFrom (lines : List String) (marker : String) :
    (place : Nat) → (rest : List String) → (found : List Definition) → List Definition
  | _, [], found => found
  | place, line :: rest, found =>
    flaggedFrom lines marker (place + 1) rest (addFlagged lines marker found place line)

/-- The line is the placeholder of a stub. -/
def isPlaceholder (placeholder line : String) : Bool :=
  placeholder != "" && Text.trim line == Text.trim placeholder

/-- What is needed to describe a definition of a tree. -/
structure Setting where
  source : String
  lines : List String
  marker : String
  placeholder : String

/-- The bases of a class: its arguments without keywords. -/
def basesOf (source : String) (t : Source.Tree) : List String :=
  match t.kind, t.child? .arguments with
  | .classDefinition, some arguments =>
    (arguments.children.filter fun arg => arg.kind != .keywordArgument).map
      (Source.Tree.textIn source)
  | _, _ => []

/-- The definition of a node whose body is a single pass statement. -/
def ofPass? (setting : Setting) (enclosing : Option String) (t : Source.Tree) : Option Definition :=
  match t.body?.map Source.Tree.children, t.name? with
  | some [only], some name =>
    if only.kind == .passStatement then
      let line := setting.lines[t.startRow]?.getD ""
      some
        { name := name.textIn setting.source
          kind := if t.kind == .classDefinition then .cls else .function
          start := t.startRow
          stop := Scan.markerEnd setting.lines (t.endRow + 1) setting.marker
          indent := Text.indentWidth line
          enclosing
          header := Header.text line
          bases := basesOf setting.source t
          flagged := false
          placeholder :=
            only.startRow != t.startRow
              && (setting.lines[only.startRow]?.any (isPlaceholder setting.placeholder)) }
    else none
  | _, _ => none

/-- The class that the definitions directly inside a node belong to: only the body of a class and a
    decorated definition in it pass one on. -/
def classFor (source : String) (owner : Option Source.Tree) (enclosing : Option String)
    (t : Source.Tree) : Option String :=
  match t.kind with
  | .block =>
    match owner with
    | some cls => if cls.kind == .classDefinition then cls.name?.map (Source.Tree.textIn source) else none
    | none => none
  | .decoratedDefinition => enclosing
  | _ => none

mutual

/-- The pass-only definitions of a tree, a node before the nodes in it. `owner` is the node around it, and
    `enclosing` the class whose body directly holds it. -/
def inTree (setting : Setting) (owner : Option Source.Tree) (enclosing : Option String) :
    Source.Tree → List Definition
  | .node kind span children =>
    let t := Source.Tree.node kind span children
    let own := if t.isDefinition then (ofPass? setting enclosing t).toList else []
    own ++ inTrees setting (some t) (classFor setting.source owner enclosing t) children

/-- The pass-only definitions of trees in a row, those of the last tree first. -/
def inTrees (setting : Setting) (owner : Option Source.Tree) (enclosing : Option String) :
    List Source.Tree → List Definition
  | [] => []
  | t :: rest => inTrees setting owner enclosing rest ++ inTree setting owner enclosing t

end

end Definition

/-- The definitions of a text whose header is followed by a gap marker. -/
def flaggedDefinitions (source marker : String) : List Definition :=
  let lines := Text.lines source
  Definition.flaggedFrom lines marker 0 lines []

/-- The definitions of an acceptable text whose body is a single pass statement, by line. -/
def passOnlyDefinitions [Source.Grammar] (source marker placeholder : String) : List Definition :=
  match Source.check source with
  | .ok tree =>
    (Definition.inTree ⟨source, Text.lines source, marker, placeholder⟩ none none tree).mergeSort
      fun a b => a.start ≤ b.start
  | .error _ => []

end SourceRecovery
