/-
Module: SourceRecovery.Source.Tree
Layer: Source
Purpose: Syntax trees. A node has a kind, the stretch of text it covers, and the nodes inside it in the
  order of the text. Only what later stages ask about has a kind of its own.
Imports: SourceRecovery.Source.Token
Trusted boundary: none
Main exports: NodeKind, Tree
Open obligations: none
-/
import SourceRecovery.Source.Token

namespace SourceRecovery.Source

/-- The kinds of nodes. -/
inductive NodeKind where
  | module
  /-- The body of a definition or of a clause; it has no children when it is missing. -/
  | block
  | functionDefinition
  | classDefinition
  | decoratedDefinition
  | expressionStatement
  /-- Targets, and then what is assigned, if anything is. -/
  | assignment
  | passStatement
  /-- An import of modules by name. -/
  | importStatement
  /-- An import of names from a module. -/
  | importFromStatement
  /-- An imported name and the name it is given. -/
  | aliasedImport
  /-- A dotted name. -/
  | dottedName
  /-- A conditional, loop, guard or context statement or one of its clauses: its blocks belong to the scope
      around it. -/
  | compound
  | parameters
  /-- A parameter without a default. -/
  | plainParameter
  /-- A parameter with a default. -/
  | defaultParameter
  /-- A star, with or without a name. -/
  | starParameter
  | arguments
  | keywordArgument
  /-- A starred expression or target. -/
  | splat
  /-- A mapping unpacked with two stars. -/
  | mappingSplat
  | identifier
  | attribute
  | subscript
  /-- Expressions or targets in parentheses, or in a row without any. -/
  | tuple
  /-- One expression in parentheses, without a comma. -/
  | parenthesized
  /-- Expressions or targets in square brackets. -/
  | list
  /-- A line continuation, where it stands among the parts of a call, a block or a line. -/
  | joint
  /-- Any other node. -/
  | other
deriving DecidableEq, Repr, Inhabited

/-- A syntax tree. -/
inductive Tree where
  | node (kind : NodeKind) (span : Span) (children : List Tree)
deriving Repr, Inhabited

namespace Tree

/-- The kind of a node. -/
def kind : Tree → NodeKind
  | node kind _ _ => kind

/-- The stretch of text that a node covers. -/
def span : Tree → Span
  | node _ span _ => span

/-- The nodes inside a node. -/
def children : Tree → List Tree
  | node _ _ children => children

/-- The line on which a node starts. -/
def startRow (t : Tree) : Nat :=
  t.span.start.row

/-- The line on which a node ends. -/
def endRow (t : Tree) : Nat :=
  t.span.stop.row

/-- The text that a node covers. -/
def textIn (source : String) (t : Tree) : String :=
  String.ofList
    ((source.toList.drop t.span.start.offset).take (t.span.stop.offset - t.span.start.offset))

/-- The first child of a kind. -/
def child? (t : Tree) (kind : NodeKind) : Option Tree :=
  t.children.find? fun child => child.kind == kind

/-- The body of a definition. -/
def body? (t : Tree) : Option Tree :=
  t.child? .block

/-- The name of a definition. -/
def name? (t : Tree) : Option Tree :=
  t.child? .identifier

/-- The node is a definition of a function or class. -/
def isDefinition (t : Tree) : Bool :=
  t.kind == .functionDefinition || t.kind == .classDefinition

/-- The node is a starred expression in parentheses. -/
def isWrappedSplat : Tree → Bool
  | node .parenthesized _ [inner] => inner.kind == .splat || inner.isWrappedSplat
  | _ => false

/-- A starred expression in parentheses stands at the front of the node. -/
def startsWrapped : Tree → Bool
  | node kind span children =>
    isWrappedSplat (node kind span children)
      || match children with
        | first :: _ => first.span.start == span.start && first.startsWrapped
        | [] => false

end Tree

end SourceRecovery.Source
