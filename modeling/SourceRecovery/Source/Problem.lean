/-
Module: SourceRecovery.Source.Problem
Layer: Source
Purpose: Whether a text is acceptable source, and the first reason why it is not. A text has to have a
  syntax tree, every body has to hold a statement, and parameters and arguments have to be in order. The
  reasons of a tree are looked for in the order of the text, outer nodes before inner ones.
Imports: SourceRecovery.Source.Statement
Trusted boundary: none
Main exports: Problem, Problem.message, Grammar, check, isValid
Open obligations: none
-/
import SourceRecovery.Source.Statement

namespace SourceRecovery.Source

/-- Why a text is not acceptable; most reasons know their line, counted from zero. -/
inductive Problem where
  /-- The text has no syntax tree. -/
  | unreadable
  | missingBlock (row : Nat)
  | plainAfterDefault (row : Nat)
  | unpackingAfterMapping (row : Nat)
  | positionalAfterMapping (row : Nat)
  | positionalAfterKeyword (row : Nat)
deriving DecidableEq, Repr

namespace Problem

/-- A message with its line, counted from one. -/
def onLine (row : Nat) (message : String) : String :=
  "Line " ++ toString (row + 1) ++ ": " ++ message

/-- The wording of a problem. -/
def message : Problem → String
  | .unreadable => "<parse error>"
  | .missingBlock row => onLine row "expected an indented block"
  | .plainAfterDefault row => onLine row "non-default argument follows default argument"
  | .unpackingAfterMapping row =>
    onLine row "iterable argument unpacking follows keyword argument unpacking"
  | .positionalAfterMapping row =>
    onLine row "positional argument follows keyword argument unpacking"
  | .positionalAfterKeyword row => onLine row "positional argument follows keyword argument"

/-- The first parameter without a default after one with a default, up to the first star. -/
def inParameters : (defaulted : Bool) → List Tree → Option Problem
  | _, [] => none
  | defaulted, param :: rest =>
    match param.kind with
    | .starParameter => none
    | .defaultParameter => inParameters true rest
    | .plainParameter =>
      if defaulted then some (.plainAfterDefault param.startRow) else inParameters defaulted rest
    | _ => inParameters defaulted rest

/-- The first argument that stands after one it may not follow. -/
def inArguments : (keyword mapping : Bool) → List Tree → Option Problem
  | _, _, [] => none
  | keyword, mapping, arg :: rest =>
    match arg.kind with
    | .keywordArgument => inArguments true mapping rest
    | .mappingSplat => inArguments keyword true rest
    | .splat =>
      if mapping then some (.unpackingAfterMapping arg.startRow) else inArguments keyword mapping rest
    | _ =>
      if mapping then some (.positionalAfterMapping arg.startRow)
      else if keyword then some (.positionalAfterKeyword arg.startRow)
      else inArguments keyword mapping rest

/-- The definition has a body with a statement. -/
def hasBody (t : Tree) : Bool :=
  match t.body? with
  | some body => !body.children.isEmpty
  | none => false

/-- The problem of a node itself. -/
def ofNode (t : Tree) : Option Problem :=
  match t.kind with
  | .functionDefinition | .classDefinition =>
    if hasBody t then none else some (.missingBlock t.startRow)
  | .block => if t.children.isEmpty then some (.missingBlock t.startRow) else none
  | .parameters => inParameters false t.children
  | .arguments => inArguments false false t.children
  | _ => none

mutual

/-- The first problem of a tree. -/
def first? : Tree → Option Problem
  | .node kind span children =>
    match ofNode (.node kind span children) with
    | some problem => some problem
    | none => firstOf? children

/-- The first problem of trees in a row. -/
def firstOf? : List Tree → Option Problem
  | [] => none
  | t :: rest =>
    match first? t with
    | some problem => some problem
    | none => firstOf? rest

end

end Problem

/-- The grammar of a language: the syntax tree of every text that has one. All later stages are the same for
    any grammar. -/
class Grammar where
  tree? : String → Option Tree

/-- The grammar of statements. -/
instance statementGrammar : Grammar :=
  ⟨Tree.ofText?⟩

variable [Grammar]

/-- The syntax tree of an acceptable text, or why the text is not acceptable. -/
def check (text : String) : Except Problem Tree :=
  match Grammar.tree? text with
  | none => .error .unreadable
  | some tree =>
    match Problem.first? tree with
    | some problem => .error problem
    | none => .ok tree

/-- The text is acceptable source. -/
def isValid (text : String) : Bool :=
  match check text with
  | .ok _ => true
  | .error _ => false

end SourceRecovery.Source
