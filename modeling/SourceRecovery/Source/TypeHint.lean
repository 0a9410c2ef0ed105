/-
Module: SourceRecovery.Source.TypeHint
Layer: Source
Purpose: Types in annotations: expressions, names with parameters, starred names, and types joined by a bar,
  a point or a colon. A name with parameters is no operand: only another type may follow it.
Imports: SourceRecovery.Source.Expression
Trusted boundary: none
Main exports: TypeHint.hint, TypeHint.parameters
Open obligations: none
-/
import SourceRecovery.Source.Expression

namespace SourceRecovery.Source.TypeHint

open Parse

/-- The words that cannot be given parameters. -/
def plainWords : List String :=
  ["not", "lambda", "print", "exec", "async", "await", "match"] ++ Operand.constants

/-- A name that can be given parameters. -/
def typeName (stand : Stand) : Parse Tree := do
  match ← lexeme with
  | .word text =>
    require !(plainWords.contains text)
    leaf .identifier stand
  | _ => failure

/-- A name with parameters starts here. -/
def seesParameterized (ctx : Context) : Parse Bool :=
  ahead do
    let _ ← typeName ctx.after
    seesSign "["

/-- A starred name with one of the signs after it starts here. -/
def seesStarred (ctx : Context) (signs : List String) : Parse Bool := do
  if ← seesSign "**" then return true
  else
    ahead do
      sign "*" ctx.operand
      let _ ← typeName ctx.after
      seesOneOf signs

/-- A type that is no expression starts here. -/
def seesType (ctx : Context) : Parse Bool := do
  return (← seesParameterized ctx) || (← seesStarred ctx [".", "|", ":"])

/-- Types in square brackets; `item` reads one. -/
def parameters (item : Context → Parse Tree) (ctx : Context) : Parse Tree := do
  let start ← here
  sign "[" ctx.operand
  let more := do return !(← seesSign "]")
  let items ← row ctx.element more (item ctx.inside)
  sign "]" ctx.after
  node .other start items

/-- What follows a type: names after points, and then a type after a bar or, where `bounded` allows it, after
    a colon. Where `closed` holds only the colon may follow. -/
def tail (item : Context → Parse Tree) (bounded closed : Bool) (ctx : Context) : Parse (List Tree) := do
  if !closed then
    let _ ← many (seesSign ".") (do sign "." ctx.bare; name ctx.after)
  if (!closed && (← seesSign "|")) || (bounded && (← seesSign ":")) then
    let _ ← take ctx.operand
    return [← item ctx]
  else return []

/-- A type, with room for `fuel` levels. Where `bounded` holds a type may follow after a colon. -/
def hint (nested : Nested) : (fuel : Nat) → (bounded : Bool) → Context → Parse Tree
  | 0, _, _ => failure
  | fuel + 1, bounded, ctx => do
    let start ← here
    if ← seesStarred ctx [".", "|"] then
      let _ ← take ctx.operand
      let given ← name ctx.after
      node .other start (given :: (← tail (hint nested fuel bounded) bounded false ctx))
    else if ← seesParameterized ctx then
      let given ← typeName ctx.after
      let items ← parameters (hint nested fuel true) ctx
      node .other start (given :: items :: (← tail (hint nested fuel bounded) bounded false ctx))
    else
      let shown ← nested.expression ctx
      node .other start (shown :: (← tail (hint nested fuel bounded) bounded true ctx))

end SourceRecovery.Source.TypeHint
