/-
Module: SourceRecovery.Source.Binding
Layer: Source
Purpose: The names a text binds at module level: its definitions, the targets of its assignments, also
  inside conditional, loop, guard and context statements, and every imported name wherever the import
  stands.
Imports: SourceRecovery.Source.Problem, SourceRecovery.Text.Basic
Trusted boundary: none
Main exports: boundNames, boundNames?
Open obligations: none
-/
import SourceRecovery.Source.Problem
import SourceRecovery.Text.Basic

namespace SourceRecovery.Source

namespace Binding

mutual

/-- The names among targets. -/
def targetNames (source : String) : Tree → List String
  | .node .identifier span children => [(Tree.node .identifier span children).textIn source]
  | .node .tuple _ items | .node .list _ items | .node .splat _ items => targetsNames source items
  | _ => []

/-- The names among targets in a row. -/
def targetsNames (source : String) : List Tree → List String
  | [] => []
  | t :: rest => targetNames source t ++ targetsNames source rest

end

mutual

/-- The names an assignment binds; what it assigns may be an assignment again. -/
def assignedNames (source : String) : Tree → List String
  | .node .assignment _ (left :: rest) => targetNames source left ++ lastAssigned source rest
  | _ => []

/-- The names that the last part of an assignment binds. -/
def lastAssigned (source : String) : List Tree → List String
  | [] => []
  | [right] => assignedNames source right
  | _ :: rest => lastAssigned source rest

end

/-- The name of a definition. -/
def definedName (source : String) (t : Tree) : List String :=
  (t.name?.map (Tree.textIn source)).toList

mutual

/-- The names a statement binds in the scope around it. -/
def scopeNames (source : String) : Tree → List String
  | .node .functionDefinition span children =>
    definedName source (.node .functionDefinition span children)
  | .node .classDefinition span children => definedName source (.node .classDefinition span children)
  | .node .decoratedDefinition _ parts =>
    match parts.getLast? with
    | some definition => definedName source definition
    | none => []
  | .node .expressionStatement _ parts => parts.flatMap (assignedNames source)
  | .node .compound _ parts | .node .block _ parts | .node .module _ parts => scopesNames source parts
  | _ => []

/-- The names that statements bind in the scope around them. -/
def scopesNames (source : String) : List Tree → List String
  | [] => []
  | t :: rest => scopeNames source t ++ scopesNames source rest

end

/-- The name that an import gives: the name after the word for it, or the name as it stands, of which only
    the part before the first point counts where modules are imported. -/
def importedName (source : String) (ofModule : Bool) (t : Tree) : String :=
  match t.kind, t.children with
  | .aliasedImport, [_, given] => given.textIn source
  | _, _ =>
    let text := (t.textIn source).toList
    let bound := if ofModule then text.takeWhile (· != '.') else text
    String.ofList (Text.Chars.trim bound)

mutual

/-- The imported names in a tree. -/
def importedNames (source : String) : Tree → List String
  | .node .importStatement _ names => names.map (importedName source true)
  | .node .importFromStatement _ names => names.map (importedName source false)
  | .node _ _ children => allImportedNames source children

/-- The imported names in trees in a row. -/
def allImportedNames (source : String) : List Tree → List String
  | [] => []
  | t :: rest => importedNames source t ++ allImportedNames source rest

end

end Binding

/-- The names that a tree of a text binds at module level. -/
def boundNames (source : String) (tree : Tree) : List String :=
  Binding.scopeNames source tree ++ Binding.importedNames source tree

/-- The names that an acceptable text binds at module level. -/
def boundNames? [Grammar] (source : String) : Option (List String) :=
  match check source with
  | .ok tree => some (boundNames source tree)
  | .error _ => none

end SourceRecovery.Source
