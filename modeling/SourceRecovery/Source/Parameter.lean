/-
Module: SourceRecovery.Source.Parameter
Layer: Source
Purpose: The parameters of functions: names with their types and defaults, brackets of targets, the star and
  the slash that part them, and the names that take what is left.
Imports: SourceRecovery.Source.Target
Trusted boundary: none
Main exports: Parameter.one
Open obligations: none
-/
import SourceRecovery.Source.Target

namespace SourceRecovery.Source.Parameter

open Parse

/-- The type of a parameter, where parameters may have one: `hint` reads it after the colon. -/
def typed (hint : Option (Parse Tree)) (ctx : Context) : Parse (List Tree) := do
  match hint with
  | some read => if ← signIf ":" ctx.operand then return [← read] else return []
  | none => return []

/-- What stands after a star or two. -/
def rest (nested : Nested) (hint : Option (Parse Tree)) (ctx : Context) (start : Place) :
    Parse Tree := do
  let count ← Operand.stars ctx
  let chain ← Operand.chain nested ctx
  require (chain.isTarget && chain.carries (count + 1))
  let type ← typed hint ctx
  node .starParameter start (chain.tree :: type)

/-- A parameter with its default, if it has one. -/
def defaulted (nested : Nested) (ctx : Context) (start : Place) (parts : List Tree) : Parse Tree := do
  if ← signIf "=" ctx.operand then
    let value ← nested.expression ctx
    node .defaultParameter start (parts ++ [value])
  else node .plainParameter start parts

/-- A parameter of a function. -/
def one (nested : Nested) (hint : Option (Parse Tree)) (ctx : Context) : Parse Tree := do
  let start ← here
  match ← lexeme with
  | .sign "*" =>
    let _ ← take ctx.afterText
    if ← Operand.starts ctx then rest nested hint ctx start else node .starParameter start []
  | .sign "**" =>
    let _ ← take ctx.operand
    rest nested hint ctx start
  | .sign "/" => leaf .other ctx.after
  | .sign "(" =>
    let room := (← get).room
    let item := fun keyed ctx => Target.one nested room keyed ctx ctx.after
    let targets ← Target.bracket item false ctx ctx.after .tuple "(" ")"
    defaulted nested ctx start [targets]
  | _ =>
    let given ← name ctx.after
    let type ← typed hint ctx
    defaulted nested ctx start (given :: type)

end SourceRecovery.Source.Parameter
