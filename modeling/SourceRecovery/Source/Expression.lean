/-
Module: SourceRecovery.Source.Expression
Layer: Source
Purpose: The grammar of expressions. Operators of all ranks are read in one row, since ranks decide neither
  what is accepted nor the order of the nodes. The recursion through nested parts is tied here, with a bound
  on the depth of nesting.
Imports: SourceRecovery.Source.Parameter
Trusted boundary: none
Main exports: Expression.full, Nested.at
Open obligations: none
-/
import SourceRecovery.Source.Parameter

namespace SourceRecovery.Source

open Parse

namespace Expression

/-! Comparisons -/

/-- The signs between operands. -/
def operatorSigns : List String :=
  ["+", "-", "*", "/", "%", "@", "//", "**", "<<", ">>", "&", "|", "^", "<", "<=", "==", "!=", ">=", ">",
   "<>"]

/-- An operator between operands. -/
def seesOperator : Parse Bool := do
  match ← lexeme with
  | .sign text => return operatorSigns.contains text
  | .word text => return text == "in" || text == "is" || text == "not"
  | _ => return false

/-- An operator between operands is taken: a sign, or one or two words. -/
def operator (ctx : Context) : Parse Unit := do
  if ← wordIf "not" ctx.bare then word "in" ctx.operand
  else if ← wordIf "is" ctx.operand then
    let _ ← wordIf "not" ctx.operand
  else
    let _ ← take ctx.operand

/-- Operands with operators between. -/
def comparison (nested : Nested) (ctx : Context) : Parse (List Tree) := do
  let first ← Operand.operand nested ctx
  let rest ← many seesOperator (do
    operator ctx
    Operand.operand nested ctx)
  return first :: rest

/-! Units -/

/-- The parameters of an anonymous function, up to its colon. -/
def lambdaHeader (nested : Nested) (ctx : Context) : Parse (List Tree) := do
  word "lambda" ctx.bare
  if ← signIf ":" ctx.operand then return []
  else
    let start ← here
    let more := do return !(← seesSign ":")
    let params ← row ctx.bare more (Parameter.one nested none ctx.inner)
    let parameters ← node .parameters start params
    sign ":" ctx.operand
    return [parameters]

/-- A name that is bound inside an expression starts here. -/
def seesBinding (ctx : Context) : Parse Bool := do
  match ← lexeme with
  | .word text =>
    if Operand.constants.contains text then return false
    else
      ahead do
        let _ ← Operand.nameAtom ctx
        seesSign ":="
  | _ => return false

/-- What stands before a comparison: a negation, the header of an anonymous function, or a name to bind. -/
inductive Lead where
  | negation
  | function
  | binding

/-- What stands before a comparison here, if anything does. -/
def lead? (ctx : Context) : Parse (Option Lead) := do
  if ← seesWord "not" then return some .negation
  else if ← seesWord "lambda" then return some .function
  else if ← seesBinding ctx then return some .binding
  else return none

/-- A comparison with all that stands before it, and whether an anonymous function is among that. -/
def unit (nested : Nested) (ctx : Context) : (fuel : Nat) → Parse (List Tree × Bool)
  | 0 => failure
  | fuel + 1 => do
    match ← lead? ctx with
    | some .negation =>
      word "not" ctx.operand
      unit nested ctx fuel
    | some .function =>
      let header ← lambdaHeader nested ctx
      let (parts, _) ← unit nested ctx fuel
      return (header ++ parts, true)
    | some .binding =>
      let given ← Operand.nameAtom ctx
      sign ":=" ctx.operand
      let (parts, function) ← unit nested ctx fuel
      return (given :: parts, function)
    | none => return (← comparison nested ctx, false)

/-! Expressions -/

/-- The logical words, and the word before a target. -/
def seesJoin : Parse Bool := do
  return (← seesWord "and") || (← seesWord "or") || (← seesWord "as")

/-- What follows the first unit: units after words, and choices where `choice` allows them. The body of an
    anonymous function reaches as far as it can, so that choices are allowed after one. -/
def tail (nested : Nested) (ctx : Context) : (fuel : Nat) → (choice : Bool) → Parse (List Tree)
  | 0, _ => failure
  | fuel + 1, choice => do
    if ← seesJoin then
      let _ ← take ctx.operand
      let (parts, function) ← unit nested ctx (← get).room
      return parts ++ (← tail nested ctx fuel (choice || function))
    else if choice && (← seesWord "if") then
      let _ ← take ctx.operand
      let condition ← nested.expression { ctx.inner with words := ["else"] }
      word "else" ctx.operand
      let (parts, function) ← unit nested ctx (← get).room
      return condition :: parts ++ (← tail nested ctx fuel (choice || function))
    else return []

/-- An expression. -/
def full (nested : Nested) (ctx : Context) : Parse Tree := do
  let start ← here
  let room := (← get).room
  let (first, function) ← unit nested ctx room
  let rest ← tail nested ctx room (ctx.choice || function)
  match first ++ rest with
  | [only] => if only.span.start == start then return only else node .other start [only]
  | parts => node .other start parts

/-- What a comprehension goes through: an expression, or anonymous functions that give one without a choice
    of its own. -/
def source (nested : Nested) (ctx : Context) : Parse Tree := do
  if ← seesWord "lambda" then
    let start ← here
    let header ← lambdaHeader nested ctx
    let body ← nested.source ctx
    node .other start (header ++ [body])
  else full nested ctx

end Expression

/-- The parsers of nested parts, with room for `depth` levels. -/
def Nested.at : (depth : Nat) → Nested
  | 0 => ⟨fun _ => failure, fun _ => failure, fun _ => failure, fun _ => failure⟩
  | depth + 1 =>
    ⟨fun ctx => Expression.full (Nested.at depth) ctx,
     fun ctx => Expression.source (Nested.at depth) ctx,
     fun ctx => Target.row (Nested.at depth) false ctx ctx,
     fun ctx => Target.several (Nested.at depth) ctx⟩

end SourceRecovery.Source
