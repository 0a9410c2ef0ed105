/-
Module: SourceRecovery.Proofs.ModuleBindings
Layer: Proofs
Purpose: What a text binds at module level, said by rules over its tree: definitions and assignments in statements that
  share the scope of the module, and imports wherever they stand. The names that are collected from the tree are those.
Imports: SourceRecovery.Source.Binding
Trusted boundary: none
Main exports: Source.BindsInScope, Source.Imports, Source.Binds, Source.mem_boundNames_iff
Open obligations: none
-/
import SourceRecovery.Source.Binding

namespace SourceRecovery.Source

open Binding

variable {source name : String}

/-! ### Rules -/

/-- A name is a target: it stands alone, or somewhere in a row of targets. -/
inductive IsTarget (source : String) : Tree → String → Prop where
  | name (span : Span) (children : List Tree) :
      IsTarget source (.node .identifier span children) ((Tree.node .identifier span children).textIn source)
  | among {kind : NodeKind} {span : Span} {items : List Tree} {item : Tree} {name : String}
      (row : kind = .tuple ∨ kind = .list ∨ kind = .splat) (member : item ∈ items) (target : IsTarget source item name) :
      IsTarget source (.node kind span items) name

/-- An assignment assigns to a name, as one of its own targets or in the assignment that stands for its value. -/
inductive Assigns (source : String) : Tree → String → Prop where
  | target {span : Span} {left : Tree} {rest : List Tree} {name : String} (target : IsTarget source left name) :
      Assigns source (.node .assignment span (left :: rest)) name
  | chained {span : Span} {left right : Tree} {rest : List Tree} {name : String} (last : rest.getLast? = some right)
      (assigns : Assigns source right name) : Assigns source (.node .assignment span (left :: rest)) name

/-- The parts of the node bind their names in the scope around it. -/
def SharesScope (kind : NodeKind) : Prop :=
  kind = .compound ∨ kind = .block ∨ kind = .module

/-- A statement binds a name in the scope around it: as a definition, with or without decorators, as an assignment, or
    through a statement inside it that shares the scope. -/
inductive BindsInScope (source : String) : Tree → String → Prop where
  | definition {t identifier : Tree} (isDefinition : t.isDefinition = true) (named : t.name? = some identifier) :
      BindsInScope source t (identifier.textIn source)
  | decorated {span : Span} {parts : List Tree} {definition identifier : Tree}
      (last : parts.getLast? = some definition) (named : definition.name? = some identifier) :
      BindsInScope source (.node .decoratedDefinition span parts) (identifier.textIn source)
  | assignment {span : Span} {parts : List Tree} {part : Tree} {name : String} (member : part ∈ parts)
      (assigns : Assigns source part name) : BindsInScope source (.node .expressionStatement span parts) name
  | inner {kind : NodeKind} {span : Span} {parts : List Tree} {part : Tree} {name : String} (shares : SharesScope kind)
      (member : part ∈ parts) (binds : BindsInScope source part name) : BindsInScope source (.node kind span parts) name

/-- The node is an import statement. -/
def IsImport (kind : NodeKind) : Prop :=
  kind = .importStatement ∨ kind = .importFromStatement

/-- An import somewhere in a tree gives a name. -/
inductive Imports (source : String) : Tree → String → Prop where
  | modules {span : Span} {names : List Tree} {t : Tree} (member : t ∈ names) :
      Imports source (.node .importStatement span names) (importedName source true t)
  | members {span : Span} {names : List Tree} {t : Tree} (member : t ∈ names) :
      Imports source (.node .importFromStatement span names) (importedName source false t)
  | inside {kind : NodeKind} {span : Span} {children : List Tree} {child : Tree} {name : String}
      (notImport : ¬ IsImport kind) (member : child ∈ children) (imports : Imports source child name) :
      Imports source (.node kind span children) name

/-- The tree of a text binds a name: in the scope of the module, or by an import anywhere. -/
def Binds (source : String) (tree : Tree) (name : String) : Prop :=
  BindsInScope source tree name ∨ Imports source tree name

/-! ### Trees and rows of trees -/

/-- What holds of a node when it holds of the nodes inside it holds of every tree. -/
@[elab_as_elim]
theorem Tree.childInduction {motive : Tree → Prop}
    (node : ∀ kind span children, (∀ child ∈ children, motive child) → motive (.node kind span children)) (t : Tree) :
    motive t := by
  obtain ⟨kind, span, children⟩ := t
  apply node
  intro child member
  exact childInduction node child
termination_by t
decreasing_by
  have smaller := List.sizeOf_lt_of_mem member
  simp only [Tree.node.sizeOf_spec]
  omega

theorem targetsNames_eq_flatMap (items : List Tree) : targetsNames source items = items.flatMap (targetNames source) := by
  induction items with
  | nil =>
      rw [targetsNames, List.flatMap_nil]
  | cons item items ih =>
      rw [targetsNames, ih, List.flatMap_cons]

theorem scopesNames_eq_flatMap (parts : List Tree) : scopesNames source parts = parts.flatMap (scopeNames source) := by
  induction parts with
  | nil =>
      rw [scopesNames, List.flatMap_nil]
  | cons part parts ih =>
      rw [scopesNames, ih, List.flatMap_cons]

theorem allImportedNames_eq_flatMap (children : List Tree) :
    allImportedNames source children = children.flatMap (importedNames source) := by
  induction children with
  | nil =>
      rw [allImportedNames, List.flatMap_nil]
  | cons child children ih =>
      rw [allImportedNames, ih, List.flatMap_cons]

theorem mem_lastAssigned_iff (parts : List Tree) :
    name ∈ lastAssigned source parts ↔ ∃ right, parts.getLast? = some right ∧ name ∈ assignedNames source right := by
  induction parts with
  | nil =>
      simp [lastAssigned]
  | cons part parts ih =>
      cases parts with
      | nil =>
          simp [lastAssigned]
      | cons next parts =>
          rw [lastAssigned, ih, List.getLast?_cons_cons]
          simp

/-! ### Targets and assignments -/

theorem mem_targetNames_iff {t : Tree} : name ∈ targetNames source t ↔ IsTarget source t name := by
  induction t using Tree.childInduction with
  | node kind span items ih =>
      constructor
      · intro member
        unfold targetNames at member
        split at member
        case h_1 equal =>
            obtain ⟨rfl, rfl, rfl⟩ := Tree.node.inj equal
            rw [List.mem_singleton.mp member]
            exact .name span items
        case h_5 =>
            cases member
        all_goals
          rename_i equal
          obtain ⟨rfl, rfl, rfl⟩ := Tree.node.inj equal
          rw [targetsNames_eq_flatMap] at member
          obtain ⟨item, isItem, inItem⟩ := List.mem_flatMap.mp member
          exact .among (by simp) isItem ((ih item isItem).mp inItem)
      · intro target
        cases target with
        | name =>
            rw [targetNames, List.mem_singleton]
        | among row member target =>
            have inItem := (ih _ member).mpr target
            rcases row with rfl | rfl | rfl
            all_goals
              rw [targetNames, targetsNames_eq_flatMap]
              exact List.mem_flatMap.mpr ⟨_, member, inItem⟩

theorem mem_assignedNames_iff {t : Tree} : name ∈ assignedNames source t ↔ Assigns source t name := by
  induction t using Tree.childInduction with
  | node kind span parts ih =>
      constructor
      · intro member
        unfold assignedNames at member
        split at member
        case h_1 left rest equal =>
            obtain ⟨rfl, rfl, rfl⟩ := Tree.node.inj equal
            rcases List.mem_append.mp member with isTarget | inLast
            · exact .target (mem_targetNames_iff.mp isTarget)
            · obtain ⟨right, last, assigned⟩ := (mem_lastAssigned_iff rest).mp inLast
              have isPart : right ∈ left :: rest := List.mem_cons_of_mem left (List.mem_of_getLast? last)
              exact .chained last ((ih right isPart).mp assigned)
        case h_2 =>
            cases member
      · intro assigns
        cases assigns with
        | target target =>
            rw [assignedNames]
            exact List.mem_append_left _ (mem_targetNames_iff.mpr target)
        | chained last assigns =>
            rw [assignedNames]
            apply List.mem_append_right
            have assigned := (ih _ (List.mem_cons_of_mem _ (List.mem_of_getLast? last))).mpr assigns
            exact (mem_lastAssigned_iff _).mpr ⟨_, last, assigned⟩

/-! ### Scopes and imports -/

theorem mem_definedName_iff {t : Tree} :
    name ∈ definedName source t ↔ ∃ identifier, t.name? = some identifier ∧ identifier.textIn source = name := by
  simp [definedName]

theorem bindsInScope_of_mem_scopeNames {kind : NodeKind} {span : Span} {parts : List Tree}
    (ih : ∀ part ∈ parts, name ∈ scopeNames source part → BindsInScope source part name)
    (member : name ∈ scopeNames source (.node kind span parts)) : BindsInScope source (.node kind span parts) name := by
  unfold scopeNames at member
  split at member
  case h_1 equal =>
      obtain ⟨rfl, rfl, rfl⟩ := Tree.node.inj equal
      obtain ⟨identifier, named, rfl⟩ := mem_definedName_iff.mp member
      exact .definition rfl named
  case h_2 equal =>
      obtain ⟨rfl, rfl, rfl⟩ := Tree.node.inj equal
      obtain ⟨identifier, named, rfl⟩ := mem_definedName_iff.mp member
      exact .definition rfl named
  case h_3 equal =>
      obtain ⟨rfl, rfl, rfl⟩ := Tree.node.inj equal
      split at member
      case h_1 definition last =>
          obtain ⟨identifier, named, rfl⟩ := mem_definedName_iff.mp member
          exact .decorated last named
      case h_2 =>
          cases member
  case h_4 equal =>
      obtain ⟨rfl, rfl, rfl⟩ := Tree.node.inj equal
      obtain ⟨part, isPart, assigned⟩ := List.mem_flatMap.mp member
      exact .assignment isPart (mem_assignedNames_iff.mp assigned)
  case h_8 =>
      cases member
  all_goals
    rename_i equal
    obtain ⟨rfl, rfl, rfl⟩ := Tree.node.inj equal
    rw [scopesNames_eq_flatMap] at member
    obtain ⟨part, isPart, inPart⟩ := List.mem_flatMap.mp member
    exact .inner (by simp [SharesScope]) isPart (ih part isPart inPart)

theorem mem_scopeNames_of_bindsInScope {t : Tree} (binds : BindsInScope source t name) : name ∈ scopeNames source t := by
  induction binds with
  | @definition t identifier isDefinition named =>
      obtain ⟨kind, span, parts⟩ := t
      have defined : identifier.textIn source ∈ definedName source (.node kind span parts) :=
        mem_definedName_iff.mpr ⟨identifier, named, rfl⟩
      rw [Tree.isDefinition, Bool.or_eq_true, beq_iff_eq, beq_iff_eq] at isDefinition
      rcases isDefinition with isFunction | isClass
      · cases isFunction
        rw [scopeNames]
        exact defined
      · cases isClass
        rw [scopeNames]
        exact defined
  | decorated last named =>
      rw [scopeNames, last]
      exact mem_definedName_iff.mpr ⟨_, named, rfl⟩
  | assignment member assigns =>
      rw [scopeNames]
      exact List.mem_flatMap.mpr ⟨_, member, mem_assignedNames_iff.mpr assigns⟩
  | inner shares member _ ih =>
      rcases shares with rfl | rfl | rfl
      all_goals
        rw [scopeNames, scopesNames_eq_flatMap]
        exact List.mem_flatMap.mpr ⟨_, member, ih⟩

theorem mem_scopeNames_iff {t : Tree} : name ∈ scopeNames source t ↔ BindsInScope source t name := by
  -- one direction follows the tree, the other one the rules
  refine ⟨?_, mem_scopeNames_of_bindsInScope⟩
  induction t using Tree.childInduction with
  | node kind span parts ih =>
      exact bindsInScope_of_mem_scopeNames ih

theorem mem_importedNames_iff {t : Tree} : name ∈ importedNames source t ↔ Imports source t name := by
  induction t using Tree.childInduction with
  | node kind span children ih =>
      constructor
      · intro member
        unfold importedNames at member
        split at member
        case h_1 equal =>
            obtain ⟨rfl, rfl, rfl⟩ := Tree.node.inj equal
            obtain ⟨t, isName, rfl⟩ := List.mem_map.mp member
            exact .modules isName
        case h_2 equal =>
            obtain ⟨rfl, rfl, rfl⟩ := Tree.node.inj equal
            obtain ⟨t, isName, rfl⟩ := List.mem_map.mp member
            exact .members isName
        case h_3 notModules notMembers equal =>
            obtain ⟨rfl, rfl, rfl⟩ := Tree.node.inj equal
            rw [allImportedNames_eq_flatMap] at member
            obtain ⟨child, isChild, inChild⟩ := List.mem_flatMap.mp member
            have notImport : ¬ IsImport kind := not_or.mpr ⟨notModules, notMembers⟩
            exact .inside notImport isChild ((ih child isChild).mp inChild)
      · intro imports
        cases imports with
        | modules member =>
            rw [importedNames]
            exact List.mem_map.mpr ⟨_, member, rfl⟩
        | members member =>
            rw [importedNames]
            exact List.mem_map.mpr ⟨_, member, rfl⟩
        | inside notImport member imports =>
            have inChild := List.mem_flatMap.mpr ⟨_, member, (ih _ member).mpr imports⟩
            rw [← allImportedNames_eq_flatMap] at inChild
            unfold importedNames
            split
            case h_1 equal =>
                exact absurd (.inl (Tree.node.inj equal).1) notImport
            case h_2 equal =>
                exact absurd (.inr (Tree.node.inj equal).1) notImport
            case h_3 equal =>
                rwa [← (Tree.node.inj equal).2.2]

/-- The names that are collected from a tree are the ones it binds. -/
theorem mem_boundNames_iff {tree : Tree} : name ∈ boundNames source tree ↔ Binds source tree name := by
  rw [boundNames, List.mem_append, mem_scopeNames_iff, mem_importedNames_iff, Binds]

end SourceRecovery.Source
