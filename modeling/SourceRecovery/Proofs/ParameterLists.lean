/-
Module: SourceRecovery.Proofs.ParameterLists
Layer: Proofs
Purpose: The parameters of a unit as they were written. A unit has the number of its parameters in each group, their
  names at the front of its variables, and a flag for each of the two collected parameters. The collected positional
  parameter is printed before the keyword-only ones and stored behind them; the list that is read off a unit is the one
  that was written, in whatever shape.
Imports: Mathlib.Data.Nat.Bitwise, SourceRecovery.Bytecode.CodeUnit
Trusted boundary: none
Main exports: Parameters, Parameters.stored, Parameters.written, Parameters.LaidOut, parameterList_of_laidOut
Open obligations: none
-/
import Mathlib.Data.Nat.Bitwise
import SourceRecovery.Bytecode.CodeUnit

namespace SourceRecovery

/-- The parameters of a definition by group. -/
structure Parameters where
  posOnly : List String
  positional : List String
  kwOnly : List String
  /-- The parameter that collects further positional arguments. -/
  varArgs : Option String
  /-- The parameter that collects further keyword arguments. -/
  varKeywords : Option String

namespace Parameters

/-- The positional parameters, whether or not they can be given by name. -/
def positionals (p : Parameters) : List String :=
  p.posOnly ++ p.positional

/-- The order in which a unit has the parameters among its variables: the collected ones come last. -/
def stored (p : Parameters) : List String :=
  p.positionals ++ p.kwOnly ++ p.varArgs.toList ++ p.varKeywords.toList

/-- The slash behind parameters that cannot be given by name. -/
def slash (p : Parameters) : List String :=
  if p.posOnly = [] then [] else ["/"]

/-- The star with the name of the collected positional arguments, or alone when keyword-only parameters follow. -/
def star (p : Parameters) : List String :=
  match p.varArgs with
  | some name => ["*" ++ name]
  | none => if p.kwOnly = [] then [] else ["*"]

/-- The order in which the parameters stand between the parentheses of a definition. -/
def written (p : Parameters) : List String :=
  p.posOnly ++ p.slash ++ p.positional ++ p.star ++ p.kwOnly ++ p.varKeywords.toList.map ("**" ++ ·)

/-- A unit has the parameters: it counts them, its variables start with them, and the bits of its flags say which of
    the collected ones there are. -/
structure LaidOut (p : Parameters) (u : CodeUnit) : Prop where
  argCount : u.argCount.toNat = p.posOnly.length + p.positional.length
  posOnlyCount : u.posOnlyCount.toNat = p.posOnly.length
  kwOnlyCount : u.kwOnlyCount.toNat = p.kwOnly.length
  varNames : p.stored <+: u.varNames
  varArgs : u.flags.toNat.testBit 2 = p.varArgs.isSome
  varKeywords : u.flags.toNat.testBit 3 = p.varKeywords.isSome

end Parameters

namespace CodeUnit

variable {u : CodeUnit}

/-! ### Flags -/

/-- A flag is a bit of the flags. -/
theorem flag_eq_testBit (flags : UInt32) {mask : UInt32} {bit : Nat} (isMask : mask.toNat = 2 ^ bit) :
    (flags &&& mask != 0) = flags.toNat.testBit bit := by
  rw [Bool.eq_iff_iff, bne_iff_ne, ne_eq, ← UInt32.toNat_inj, UInt32.toNat_and, isMask, Nat.and_two_pow]
  cases flags.toNat.testBit bit with
  | true =>
      simp
  | false =>
      simp

theorem hasVarArgs_eq_testBit : u.hasVarArgs = u.flags.toNat.testBit 2 :=
  flag_eq_testBit u.flags rfl

theorem hasVarKeywords_eq_testBit : u.hasVarKeywords = u.flags.toNat.testBit 3 :=
  flag_eq_testBit u.flags rfl

/-! ### Names among the variables -/

/-- A row of variables is named when it stands behind a front of known length. -/
theorem map_varNameOr_range {front row : List String} (laid : front ++ row <+: u.varNames) (fallback : Nat → String) :
    (List.range row.length).map (fun i => u.varNameOr (front.length + i) (fallback i)) = row := by
  obtain ⟨locals, whole⟩ := laid
  apply List.ext_getElem
  · rw [List.length_map, List.length_range]
  · intro i _ inRow
    rw [List.getElem_map, List.getElem_range, varNameOr, ← whole, List.append_assoc,
      List.getElem?_append_right (Nat.le_add_right _ _), Nat.add_sub_cancel_left,
      List.getElem?_append_left inRow, List.getElem?_eq_getElem inRow]
    rfl

theorem varNameOr_behind {front : List String} {name : String} (laid : front ++ [name] <+: u.varNames)
    (fallback : String) : u.varNameOr front.length fallback = name :=
  List.head_eq_of_cons_eq (map_varNameOr_range laid fun _ => fallback)

end CodeUnit

/-! ### The groups of a list -/

namespace Parameters.LaidOut

variable {p : Parameters} {u : CodeUnit}

theorem argCount_eq (laid : p.LaidOut u) : u.argCount.toNat = p.positionals.length := by
  rw [laid.argCount, positionals, List.length_append]

theorem keywords_front (laid : p.LaidOut u) : p.positionals ++ p.kwOnly <+: u.varNames := by
  refine List.IsPrefix.trans ?_ laid.varNames
  rw [stored, List.append_assoc]
  exact List.prefix_append _ _

theorem positionalParameters_eq (laid : p.LaidOut u) :
    u.positionalParameters = p.posOnly ++ p.slash ++ p.positional := by
  have names : (List.range u.argCount.toNat).map (fun i => u.varNameOr i ("arg" ++ toString i)) = p.positionals := by
    have front : [] ++ p.positionals <+: u.varNames := (List.prefix_append _ _).trans laid.keywords_front
    have row := CodeUnit.map_varNameOr_range front fun i => "arg" ++ toString i
    simp only [List.length_nil, Nat.zero_add] at row
    rw [laid.argCount_eq]
    exact row
  have fewer : min u.posOnlyCount.toNat u.argCount.toNat = p.posOnly.length := by
    rw [laid.posOnlyCount, laid.argCount]
    exact Nat.min_eq_left (Nat.le_add_right _ _)
  unfold CodeUnit.positionalParameters slash
  dsimp only
  rw [names, fewer, positionals, List.take_left, List.drop_left]
  simp only [List.length_eq_zero_iff]
  split
  case isTrue none =>
      rw [none]
      rfl
  case isFalse =>
      rw [List.append_assoc, List.singleton_append]

theorem starParameter_eq (laid : p.LaidOut u) : u.starParameter = p.star := by
  unfold CodeUnit.starParameter star
  rw [CodeUnit.hasVarArgs_eq_testBit, laid.varArgs]
  cases isName : p.varArgs with
  | some name =>
      have front : p.positionals ++ p.kwOnly ++ [name] <+: u.varNames := by
        refine List.IsPrefix.trans ?_ laid.varNames
        rw [stored, isName]
        exact List.prefix_append _ _
      have named := CodeUnit.varNameOr_behind front "args"
      rw [List.length_append] at named
      rw [laid.argCount_eq, laid.kwOnlyCount, named]
      rfl
  | none =>
      have some : 0 < u.kwOnlyCount ↔ ¬ p.kwOnly = [] := by
        rw [UInt32.lt_iff_toNat_lt, laid.kwOnlyCount]
        exact List.length_pos_iff
      simp [some]

theorem keywordParameters_eq (laid : p.LaidOut u) : u.keywordParameters = p.kwOnly := by
  have row := CodeUnit.map_varNameOr_range laid.keywords_front fun i => "kwarg" ++ toString i
  rw [← laid.argCount_eq, ← laid.kwOnlyCount] at row
  exact row

theorem doubleStarParameter_eq (laid : p.LaidOut u) :
    u.doubleStarParameter = p.varKeywords.toList.map ("**" ++ ·) := by
  unfold CodeUnit.doubleStarParameter
  rw [CodeUnit.hasVarKeywords_eq_testBit, laid.varKeywords]
  cases isName : p.varKeywords with
  | some name =>
      have front : p.positionals ++ p.kwOnly ++ p.varArgs.toList ++ [name] <+: u.varNames := by
        have stored := laid.varNames
        rwa [Parameters.stored, isName] at stored
      have place : u.argCount.toNat + u.kwOnlyCount.toNat + (if u.hasVarArgs then 1 else 0) =
          (p.positionals ++ p.kwOnly ++ p.varArgs.toList).length := by
        rw [laid.argCount_eq, laid.kwOnlyCount, CodeUnit.hasVarArgs_eq_testBit, laid.varArgs, List.length_append,
          List.length_append]
        cases p.varArgs with
        | some _ => rfl
        | none => rfl
      rw [place]
      dsimp only
      rw [CodeUnit.varNameOr_behind front]
      rfl
  | none =>
      rfl

end Parameters.LaidOut

/-- The parameter list of a unit is the one that was written. -/
theorem parameterList_of_laidOut {p : Parameters} {u : CodeUnit} (laid : p.LaidOut u) :
    u.parameterList = Text.joinWith ", " p.written := by
  rw [CodeUnit.parameterList, laid.positionalParameters_eq, laid.starParameter_eq, laid.keywordParameters_eq,
    laid.doubleStarParameter_eq, Parameters.written]

/-- Parameters of every group. -/
def sampleParameters : Parameters where
  posOnly := ["a"]
  positional := ["b"]
  kwOnly := ["c"]
  varArgs := some "rest"
  varKeywords := some "options"

/-- A unit with these parameters and a variable of its own. -/
def sampleUnit : CodeUnit where
  name := "f"
  qualname := "f"
  version := ⟨3, 8⟩
  argCount := 2
  posOnlyCount := 1
  kwOnlyCount := 1
  flags := 0x4f
  varNames := ["a", "b", "c", "rest", "options", "found"]

theorem parameterList_sampleUnit :
    sampleParameters.LaidOut sampleUnit ∧ sampleUnit.parameterList = "a, /, b, *rest, c, **options" := by
  have laid : sampleParameters.LaidOut sampleUnit :=
    { argCount := rfl
      posOnlyCount := rfl
      kwOnlyCount := rfl
      varNames := ⟨["found"], rfl⟩
      varArgs := by decide
      varKeywords := by decide }
  exact ⟨laid, (parameterList_of_laidOut laid).trans (by decide)⟩

end SourceRecovery
