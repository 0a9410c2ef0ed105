/-
Module: SourceRecovery.Source.Target
Layer: Source
Purpose: What may be assigned to: names, attributes, subscripts, starred ones of these, and brackets of
  targets. A bracket that goes on with a call, attribute or subscript is an operand instead.
Imports: SourceRecovery.Source.Operand
Trusted boundary: none
Main exports: Target.row, Target.several, Target.bracket
Open obligations: none
-/
import SourceRecovery.Source.Operand

namespace SourceRecovery.Source.Target

open Parse

/-- The words that start an expression and are no operands. -/
def expressionWords : List String :=
  ["not", "lambda", "yield"]

/-- A name, an attribute or a subscript. -/
def plain (nested : Nested) (ctx : Context) : Parse Tree := do
  let chain ← Operand.chain nested ctx
  require chain.isTarget
  return chain.tree

/-- A starred target. -/
def starred (nested : Nested) (ctx : Context) : Parse Tree := do
  let start ← here
  let chain ← Operand.starred nested ctx
  require chain.isTarget
  node .splat start [chain.tree]

/-- Targets in a bracket; `item` reads one, `keyed` is for the first of them, and `filled` is what may stand
    after a bracket that is not empty. -/
def bracket (item : (keyed : Bool) → Context → Parse Tree) (keyed : Bool) (ctx : Context) (filled : Stand)
    (kind : NodeKind) (opening closing : String) : Parse Tree := do
  let start ← here
  sign opening ctx.element
  if ← signIf closing ctx.after then node kind start []
  else
    require !(keyed && (← Operand.seesStarredWord ctx))
    let first ← item keyed ctx.inside
    let more := do return !(← seesSign closing)
    let rest ← afterCommas ctx.element more (item false ctx.inside) (← get).room
    sign closing filled
    node kind start (first :: rest)

/-- A bracket of targets that does not go on, or an operand that starts with the bracket. -/
def bracketOrPlain (nested : Nested) (item : (keyed : Bool) → Context → Parse Tree) (ctx : Context)
    (filled : Stand) (kind : NodeKind) (opening closing : String) : Parse Tree :=
  (do
    let targets ← bracket item true ctx filled kind opening closing
    require !(← seesOneOf [".", "(", "["])
    return targets)
  <|> plain nested ctx

/-- A target, with room for `fuel` levels of brackets. `keyed` tells whether the words that start an
    expression are keywords before it, and `filled` is what may stand after a bracket that is not empty. -/
def one (nested : Nested) : (fuel : Nat) → (keyed : Bool) → Context → (filled : Stand) → Parse Tree
  | 0, _, _, _ => failure
  | fuel + 1, keyed, ctx, filled => do
    let item := fun keyed ctx => one nested fuel keyed ctx ctx.after
    match ← lexeme with
    | .sign "(" => bracketOrPlain nested item ctx filled .tuple "(" ")"
    | .sign "[" => bracketOrPlain nested item ctx filled .list "[" "]"
    | .sign "*" | .sign "**" => starred nested ctx
    | .word text =>
      require !(keyed && expressionWords.contains text)
      plain nested ctx
    | _ => plain nested ctx

/-- Targets after a first one. -/
def rest (nested : Nested) (later : Context) : Parse (List Tree) := do
  let room := (← get).room
  afterCommas later.afterText (Operand.starts later) (one nested room false later later.after) room

/-- Targets with commas between, and possibly one after the last; a single one without a comma stays as it
    is. What may follow the first target and what may follow the others is given apart, and no line ends
    after a first one that is a bracket with targets. -/
def row (nested : Nested) (keyed : Bool) (ctx later : Context) : Parse Tree := do
  let start ← here
  let first ← one nested (← get).room keyed ctx { ctx.after with lineEnd := false }
  if ← seesSign "," then node .tuple start (first :: (← rest nested later)) else return first

/-- Targets with a comma at least, as a value. -/
def several (nested : Nested) (ctx : Context) : Parse Tree := do
  let start ← here
  let first ← one nested (← get).room true ctx { ctx.after with lineEnd := false }
  require (← seesSign ",")
  node .other start (first :: (← rest nested ctx))

end SourceRecovery.Source.Target
