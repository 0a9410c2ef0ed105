/-
Module: SourceRecovery.Source.Operand
Layer: Source
Purpose: The grammar of operands: names, numbers, strings and brackets, with their calls, attributes and
  subscripts, after any signs or stars. The parsers of what may be nested in brackets are an argument; the
  recursion is tied in the module of expressions.
Imports: SourceRecovery.Source.StringLiteral
Trusted boundary: none
Main exports: Nested, Operand.operand, Operand.chain, Operand.arguments
Open obligations: none
-/
import SourceRecovery.Source.StringLiteral

namespace SourceRecovery.Source

open Parse

/-- The parsers of nested parts. -/
structure Nested where
  expression : Context → Parse Tree
  /-- What a comprehension goes through. -/
  source : Context → Parse Tree
  /-- The targets of a loop. -/
  targets : Context → Parse Tree
  /-- Targets with commas between, as a value. -/
  several : Context → Parse Tree

namespace Operand

/-! Starts -/

/-- The signs that an operand may start with. -/
def openingSigns : List String :=
  ["(", "[", "\x7b", "...", "+", "-", "~", "*"]

/-- An operand starts here; the words that may follow what stands before are no operands. -/
def starts (ctx : Context) : Parse Bool := do
  match ← lexeme with
  | .number | .quote _ => return true
  | .word text => return !ctx.words.contains text
  | .sign text => return openingSigns.contains text || text == "**"
  | _ => return false

/-- The words between the parts of an expression. -/
def operatorWords : List String :=
  ["and", "or", "not", "in", "is", "if", "as"]

/-- After a word that may be a name as well, an operand starts here. -/
def startsAfterWord (ctx : Context) : Parse Bool := do
  match ← lexeme with
  | .number | .quote _ => return true
  | .word text =>
    return !operatorWords.contains text && (text == "async" || !ctx.words.contains text)
  | .sign text => return openingSigns.contains text
  | _ => return false

/-- The word that waits for a value stands before an operand here, and is no name. -/
def seesAwait (ctx : Context) : Parse Bool := do
  if ← seesWord "await" then
    ahead do
      word "await" ctx.afterText
      startsAfterWord ctx
  else return false

/-- The words that are constants. -/
def constants : List String :=
  ["True", "False", "None"]

/-! Rows of expressions -/

/-- Expressions with commas between, and possibly one after the last. -/
def expressions (nested : Nested) (ctx : Context) : Parse (List Tree) :=
  row ctx.afterText (starts ctx) (nested.expression ctx)

/-- A value given away, or several. -/
def yielded (nested : Nested) (ctx : Context) : Parse Tree := do
  let start ← here
  word "yield" ctx.afterText
  if ← wordIf "from" ctx.operand then node .other start [← nested.expression ctx]
  else if ← starts ctx then node .other start (← expressions nested ctx)
  else node .other start []

/-- What a field of a string shows: expressions, a value given away, or targets. -/
def fieldValues (nested : Nested) (ctx : Context) : Parse (List Tree) := do
  if ← seesWord "yield" then return [← yielded nested ctx]
  else expressions nested ctx <|> (do return [← nested.several ctx])

/-! Comprehensions -/

/-- A loop of a comprehension starts here. -/
def seesLoop : Parse Bool := do
  return (← seesWord "for") || (← seesWord "async")

/-- A loop or a condition of a comprehension starts here. -/
def seesClause : Parse Bool := do
  return (← seesLoop) || (← seesWord "if")

/-- A loop or a condition of a comprehension. -/
def clause (nested : Nested) (ctx : Context) : Parse Tree := do
  let start ← here
  let part := { ctx.first with choice := false }
  if ← wordIf "if" ctx.operand then node .other start [← nested.expression part]
  else
    let _ ← wordIf "async" ctx.bare
    word "for" ctx.operand
    let targets ← nested.targets { ctx.inner with words := ["in"] }
    word "in" ctx.operand
    let more := do return (← starts ctx.inner) && !(← seesClause)
    let sources ← row ctx.element more (nested.source part)
    node .other start (targets :: sources)

/-- The loops and conditions of a comprehension, and its closing bracket. -/
def comprehension (nested : Nested) (ctx : Context) (closing : String) : Parse (List Tree) := do
  let clauses ← many seesClause (clause nested ctx)
  sign closing ctx.after
  return clauses

/-! Brackets -/

/-- One star is taken, also where two stand together. -/
def star (ctx : Context) : Parse Unit := do
  require (← seesOneOf ["*", "**"])
  skip 1
  resume ctx.operand

/-- A star stands here before a word that starts an expression, so that it belongs to no operand. -/
def seesStarredWord (ctx : Context) : Parse Bool :=
  ahead do
    star ctx
    return (← seesWord "not") || (← seesWord "lambda")

/-- A starred expression. Before a loop or a colon the star belongs to an operand. -/
def splat (nested : Nested) (ctx : Context) : Parse Tree := do
  let start ← here
  let before ← get
  star ctx
  let inner ← nested.expression ctx
  if (← seesLoop) || (← seesSign ":") then
    set before
    require !(← seesStarredWord ctx)
    nested.expression ctx
  else node .splat start [inner]

/-- A starred operand in parentheses, with room for `fuel` of them. -/
def wrappedOperand (nested : Nested) (ctx : Context) : (fuel : Nat) → Parse Unit
  | 0 => failure
  | fuel + 1 => do
    sign "(" ctx.element
    if ← seesSign "(" then wrappedOperand nested ctx fuel
    else
      require !(← seesStarredWord ctx)
      let _ ← nested.expression ctx.inside
    sign ")" ctx.after

/-- An expression as an element of a bracket. A starred expression in parentheses at its front is all of it,
    unless the star belongs to an operand. -/
def unwrapped (nested : Nested) (ctx : Context) : Parse Tree := do
  let before ← get
  let whole ← nested.expression ctx
  if whole.startsWrapped && (!whole.isWrappedSplat || (← seesLoop) || (← seesSign ":")) then
    let finished ← get
    set before
    wrappedOperand nested ctx finished.room
    set finished
  return whole

/-- An element of a bracket: a value given away, a starred expression or an expression. -/
def element (nested : Nested) (ctx : Context) : Parse Tree := do
  if ← seesWord "yield" then yielded nested { ctx with words := [] }
  else if ← seesOneOf ["*", "**"] then splat nested ctx
  else unwrapped nested ctx

/-- Elements after the first one, and the closing bracket. -/
def moreElements (nested : Nested) (ctx : Context) (closing : String) : Parse (List Tree) := do
  let more := do return !(← seesSign closing)
  let rest ← afterCommas ctx.element more (element nested ctx.inside) (← get).room
  sign closing ctx.after
  return rest

/-- What stands in parentheses or square brackets: nothing, one part, a row, or a comprehension. -/
def group (nested : Nested) (ctx : Context) (kind single : NodeKind) (opening closing : String) :
    Parse Tree := do
  let start ← here
  sign opening ctx.element
  if ← signIf closing ctx.after then node kind start []
  else
    let given ← seesWord "yield"
    let first ← element nested ctx.first
    if !given && (← seesLoop) then node .other start (first :: (← comprehension nested ctx closing))
    else if ← signIf closing ctx.after then node single start [first]
    else node kind start (first :: (← moreElements nested ctx closing))

/-- A mapping unpacked with two stars. -/
def mappingSplat (nested : Nested) (ctx : Context) : Parse Tree := do
  let start ← here
  sign "**" ctx.operand
  node .mappingSplat start [← nested.expression ctx.inside]

/-- An entry of a dictionary after the first one. -/
def entry (nested : Nested) (ctx : Context) : Parse Tree := do
  if ← seesSign "**" then mappingSplat nested ctx
  else
    let start ← here
    let key ← nested.expression ctx.inner
    sign ":" ctx.operand
    node .other start [key, ← nested.expression ctx.inside]

/-- Entries after the first one, and the closing brace. -/
def moreEntries (nested : Nested) (ctx : Context) : Parse (List Tree) := do
  let more := do return !(← seesSign "\x7d")
  let rest ← afterCommas ctx.element more (entry nested ctx) (← get).room
  sign "\x7d" ctx.after
  return rest

/-- What stands in braces: entries of a dictionary, elements of a set, or a comprehension of either. -/
def braces (nested : Nested) (ctx : Context) : Parse Tree := do
  let start ← here
  sign "\x7b" ctx.element
  if ← signIf "\x7d" ctx.after then node .other start []
  else if ← signIf "," ctx.inside.after then
    sign "\x7d" ctx.after
    node .other start []
  else if ← seesSign "**" then
    let first ← mappingSplat nested ctx
    node .other start (first :: (← moreEntries nested ctx))
  else
    let given ← seesWord "yield"
    let first ← element nested ctx.first
    if !given && (← seesSign ":") then
      sign ":" ctx.operand
      let value ← nested.expression ctx.first
      if ← seesLoop then node .other start (first :: value :: (← comprehension nested ctx "\x7d"))
      else node .other start (first :: value :: (← moreEntries nested ctx))
    else if !given && (← seesLoop) then
      node .other start (first :: (← comprehension nested ctx "\x7d"))
    else node .other start (first :: (← moreElements nested ctx "\x7d"))

/-! Atoms -/

/-- A word as a name; the word that waits for a value is one only where no operand follows. -/
def nameAtom (ctx : Context) : Parse Tree := do
  if ← seesWord "await" then
    let name ← leaf .identifier ctx.afterText
    require !(← startsAfterWord ctx)
    return name
  else name ctx.after

/-- A number, a string, a name or a bracket. -/
def atom (nested : Nested) (ctx : Context) : Parse Tree := do
  match ← lexeme with
  | .number | .sign "..." => leaf .other ctx.after
  | .quote _ => StringLiteral.row (fieldValues nested) ctx
  | .sign "(" => group nested ctx .tuple .parenthesized "(" ")"
  | .sign "[" => group nested ctx .list .list "[" "]"
  | .sign "\x7b" => braces nested ctx
  | .word text => if constants.contains text then leaf .other ctx.after else nameAtom ctx
  | _ => failure

/-! Calls, attributes and subscripts -/

/-- A name with the sign that gives an argument its name starts here. -/
def seesKeyword (ctx : Context) : Parse Bool := do
  match ← lexeme with
  | .word text =>
    if ("not" :: "lambda" :: constants).contains text then return false
    else
      ahead do
        let _ ← nameAtom ctx
        seesSign "="
  | _ => return false

/-- An argument of a call. -/
def argument (nested : Nested) (ctx : Context) : Parse Tree := do
  let start ← here
  if ← seesSign "**" then mappingSplat nested ctx
  else if ← seesSign "*" then splat nested ctx
  else if ← seesKeyword ctx then
    let _ ← nameAtom ctx
    sign "=" ctx.operand
    node .keywordArgument start [← nested.expression ctx.inside]
  else unwrapped nested ctx

/-- Arguments after the first one, up to the closing bracket, with the line continuations among them. -/
def moreArguments (nested : Nested) (ctx : Context) : (fuel : Nat) → Parse (List Tree)
  | 0 => return []
  | fuel + 1 => do
    let before ← joints
    if ← signIf "," ctx.element then
      let between ← joints
      if ← seesSign ")" then return before ++ between
      else
        let next ← argument nested ctx.inside
        return before ++ between ++ next :: (← moreArguments nested ctx fuel)
    else return before

/-- Arguments in parentheses. Where `alone` holds, a comprehension may stand in their place. -/
def arguments (nested : Nested) (ctx : Context) (alone : Bool) : Parse Tree := do
  let start ← here
  sign "(" ctx.element
  let before ← joints
  if ← signIf "," ctx.inside.after then
    let between ← joints
    sign ")" ctx.after
    node .arguments start (before ++ between)
  else if ← signIf ")" ctx.after then node .arguments start before
  else
    let first ← argument nested (if alone then ctx.first else ctx.inside)
    let plain := first.kind != .keywordArgument && first.kind != .mappingSplat
    if alone && plain && (← seesLoop) then
      node .other start (first :: (← comprehension nested ctx ")"))
    else
      let rest ← moreArguments nested ctx (← get).room
      sign ")" ctx.after
      node .arguments start (before ++ first :: rest)

/-- A part of a slice, when there is one. -/
def slicePart (nested : Nested) (ctx : Context) : Parse (List Tree) := do
  if ← starts ctx then return [← nested.expression ctx] else return []

/-- An entry of a subscript: an expression, or a slice of two or three parts. -/
def subscriptEntry (nested : Nested) (ctx : Context) : Parse Tree := do
  let start ← here
  let first ← slicePart nested ctx
  if ← signIf ":" ctx.element then
    let second ← slicePart nested ctx
    let third ← if ← signIf ":" ctx.element then slicePart nested ctx else pure []
    node .other start (first ++ second ++ third)
  else
    match first with
    | [entry] => return entry
    | _ => failure

/-- An operand without signs: its node, how many attributes and subscripts it has been given, and whether a
    name stands at its front. -/
structure Chain where
  tree : Tree
  steps : Nat
  named : Bool

/-- A chain may be assigned to: it is a name, or ends in an attribute or subscript. -/
def Chain.isTarget (chain : Chain) : Bool :=
  [NodeKind.identifier, .attribute, .subscript].contains chain.tree.kind

/-- A chain can stand after stars: each of them belongs to a name, an attribute or a subscript of its own. -/
def Chain.carries (chain : Chain) (stars : Nat) : Bool :=
  stars ≤ chain.steps + (if chain.named then 1 else 0)

/-- A chain with one more call, attribute or subscript. -/
def trailer (nested : Nested) (ctx : Context) (start : Place) (chain : Chain) : Parse Chain := do
  if ← signIf "." ctx.bare then
    let _ ← name ctx.after
    let tree ← node .attribute start [chain.tree]
    return { chain with tree, steps := chain.steps + 1 }
  else if ← seesSign "(" then
    let given ← arguments nested ctx true
    let tree ← node .other start [chain.tree, given]
    return { chain with tree }
  else
    sign "[" ctx.operand
    let more := do return !(← seesSign "]")
    let entries ← row ctx.element more (subscriptEntry nested ctx.inside)
    sign "]" ctx.after
    let tree ← node .subscript start (chain.tree :: entries)
    return { chain with tree, steps := chain.steps + 1 }

/-- A chain with all its calls, attributes and subscripts. -/
def trailers (nested : Nested) (ctx : Context) (start : Place) : (fuel : Nat) → Chain → Parse Chain
  | 0, chain => return chain
  | fuel + 1, chain => do
    if ← seesOneOf [".", "(", "["] then
      let longer ← trailer nested ctx start chain
      trailers nested ctx start fuel longer
    else return chain

/-- A name, number, string or bracket with its calls, attributes and subscripts. -/
def chain (nested : Nested) (ctx : Context) : Parse Chain := do
  let start ← here
  let front ← atom nested ctx
  trailers nested ctx start (← get).room ⟨front, 0, front.kind == .identifier⟩

/-! Operands -/

/-- The stars at the front are taken and counted. -/
def stars (ctx : Context) : Parse Nat := do
  let taken ← many (seesOneOf ["*", "**"]) (star ctx)
  return taken.length

/-- A chain after stars. -/
def starred (nested : Nested) (ctx : Context) : Parse Chain := do
  let count ← stars ctx
  let inner ← chain nested ctx
  require (inner.carries count)
  return inner

/-- A sign before an operand, or the word that waits for one, is taken. -/
def unarySign (ctx : Context) : Parse Unit := do
  let _ ← take (if ← seesWord "await" then ctx.afterText else ctx.operand)

/-- A sign before an operand, or the word that waits for one. -/
def seesUnary (ctx : Context) : Parse Bool := do
  return (← seesOneOf ["+", "-", "~"]) || (← seesAwait ctx)

/-- A chain after any signs and stars. -/
def operand (nested : Nested) (ctx : Context) : Parse Tree := do
  let start ← here
  let signs ← many (seesUnary ctx) (unarySign ctx)
  let inner ← starred nested ctx
  if signs.isEmpty then return inner.tree else node .other start [inner.tree]

end Operand

end SourceRecovery.Source
