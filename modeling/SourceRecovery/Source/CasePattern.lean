/-
Module: SourceRecovery.Source.CasePattern
Layer: Source
Purpose: The patterns of case clauses. The lone underscore is no name here.
Imports: SourceRecovery.Source.Expression
Trusted boundary: none
Main exports: CasePattern.pattern
Open obligations: none
-/
import SourceRecovery.Source.Expression

namespace SourceRecovery.Source.CasePattern

open Parse

/-- A number, possibly negative, or the sum of two. -/
def number (ctx : Context) : Parse Tree := do
  let start ← here
  let _ ← signIf "-" ctx.bare
  expect .number ctx.after
  if ← seesOneOf ["+", "-"] then
    let _ ← take ctx.bare
    expect .number ctx.after
  node .other start []

/-- A star or two with a name. -/
def star (ctx : Context) : Parse Tree := do
  let start ← here
  let _ ← take ctx.bare
  let given ← name ctx.after
  node .other start [given]

/-- A dotted name, possibly with patterns for the parts of its instances. -/
def named (item : Context → Parse Tree) (ctx : Context) : Parse Tree := do
  let start ← here
  let given ← dottedName ctx
  if ← signIf "(" ctx.element then
    let parts ← bracketed ctx ")" ctx.after (item ctx.inside)
    node .other start (given :: parts)
  else return given

/-- An entry of a mapping: a pattern for the key and one for the value, or the rest. -/
def entry (key item : Context → Parse Tree) (ctx : Context) : Parse Tree := do
  let start ← here
  let rest ← ahead do
    if ← seesOneOf ["*", "**"] then
      let _ ← star ctx.inside
      return !(← seesOneOf [":", "|"])
    else return false
  if rest then star ctx.inside
  else
    let given ← key ctx.inner
    sign ":" ctx.operand
    node .other start [given, ← item ctx.inside]

/-- A pattern without alternatives. `key` reads the patterns of keys, `item` all patterns inside. -/
def closed (nested : Nested) (key item : Context → Parse Tree) (ctx : Context) : Parse Tree := do
  let start ← here
  match ← lexeme with
  | .number | .sign "-" => number ctx
  | .quote _ => StringLiteral.row (Operand.fieldValues nested) ctx
  | .sign "*" | .sign "**" => star ctx
  | .sign "(" =>
    let _ ← take ctx.element
    node .other start (← bracketed ctx ")" ctx.after (item ctx.inside))
  | .sign "[" =>
    let _ ← take ctx.element
    node .other start (← bracketed ctx "]" ctx.after (item ctx.inside))
  | .sign "\x7b" =>
    let _ ← take ctx.element
    node .other start (← bracketed ctx "\x7d" ctx.after (entry key item ctx))
  | .word text =>
    if ("_" :: Operand.constants).contains text then leaf .other ctx.after else named item ctx
  | _ => failure

/-- Patterns with bars between; `depth` bounds the levels of keys. -/
def simple (nested : Nested) (item : Context → Parse Tree) : (depth : Nat) → Context → Parse Tree
  | 0, _ => failure
  | depth + 1, ctx => do
    let start ← here
    let one := closed nested (simple nested item depth) item ctx
    let first ← one
    let rest ← many (seesSign "|") (do sign "|" ctx.operand; one)
    node .other start (first :: rest)

/-- A name with the sign before its pattern starts here. -/
def seesKeyword (ctx : Context) : Parse Bool := do
  match ← lexeme with
  | .word text =>
    if ("_" :: Operand.constants).contains text then return false
    else
      ahead do
        let _ ← name ctx.after
        seesSign "="
  | _ => return false

/-- A pattern, possibly after a name it is for, and possibly with names for what it matches. -/
def pattern (nested : Nested) : (depth : Nat) → Context → Parse Tree
  | 0, _ => failure
  | depth + 1, ctx => do
    let start ← here
    let keyword ← seesKeyword ctx
    if keyword then
      let _ ← name ctx.after
      sign "=" ctx.operand
    let inner ← simple nested (pattern nested depth) (depth + 1) ctx
    let names ← many (seesWord "as") (do word "as" ctx.bare; name ctx.after)
    node .other start (inner :: names)

end SourceRecovery.Source.CasePattern
