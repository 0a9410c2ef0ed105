/-
Module: SourceRecovery.Source.SimpleStatement
Layer: Source
Purpose: The statements that fit on a line, and the lines made of them. Words such as those for output, for
  types and for waiting are names wherever the statement can be read with them as names.
Imports: SourceRecovery.Source.Sequel, SourceRecovery.Source.TypeHint
Trusted boundary: none
Main exports: SimpleStatement.line
Open obligations: none
-/
import SourceRecovery.Source.Sequel
import SourceRecovery.Source.TypeHint

namespace SourceRecovery.Source.SimpleStatement

open Parse

/-- A statement ends here. -/
def ended : Parse Bool := do
  return (← sees .lineEnd) || (← seesSign ";")

/-- A form that has to end the statement. -/
def whole (p : Parse Tree) : Parse Tree := do
  let t ← p
  require (← ended)
  return t

/-! Assignments -/

/-- The signs that assign after an operation. -/
def updateSigns : List String :=
  ["+=", "-=", "*=", "/=", "@=", "//=", "%=", "**=", ">>=", "<<=", "&=", "^=", "|="]

/-- The node of expressions in a row; a single one stays as it is. -/
def grouped (start : Place) : List Tree → Parse Tree
  | [only] => return only
  | items => node .other start items

/-- Expressions in a row. -/
def expressions (nested : Nested) (ctx : Context) : Parse Tree := do
  let start ← here
  grouped start (← Operand.expressions nested ctx)

/-- Expressions that are a whole statement, and whether a comma ends them. -/
def wholeExpressions (nested : Nested) (ctx : Context) : Parse (Tree × Bool) := do
  let start ← here
  let items ← Operand.expressions nested ctx
  let comma := items.getLast?.map (·.span.stop) != some (← get).last
  require (← ended)
  return (← grouped start items, comma)

/-- Types, wherever statements hold them. -/
def typeHint (nested : Nested) (ctx : Context) : Parse Tree := do
  TypeHint.hint nested (← get).room true ctx

/-- Of two readings the one that leads further, and the second where both lead equally far. -/
def furtherOf (first second : Parse Tree) : Parse Tree :=
  fun s =>
    match first s, second s with
    | some a, some b => if b.2.last.offset < a.2.last.offset then some a else some b
    | some a, none => some a
    | none, b => b

/-- An assignment: targets with an annotation, a value or both, or an operation on them. What is assigned may
    be an assignment again; `right` holds there, where targets alone are a value too. -/
def assignment (nested : Nested) (ctx : Context) : (fuel : Nat) → (right : Bool) → Parse Tree
  | 0, _ => failure
  | fuel + 1, right => do
    let start ← here
    let left ← Target.row nested true ctx { ctx with lineEnd := right }
    let value := do
      if ← seesWord "yield" then Operand.yielded nested ctx
      else
        furtherOf (whole (assignment nested ctx fuel true)) (whole (expressions nested ctx))
          <|> whole (Target.several nested ctx)
    if ← signIf "=" ctx.operand then node .assignment start [left, ← value]
    else if ← signIf ":" ctx.operand then
      let type ← typeHint nested ctx
      if ← signIf "=" ctx.operand then node .assignment start [left, type, ← value]
      else node .assignment start [left, type]
    else if ← seesOneOf updateSigns then
      let _ ← take ctx.operand
      node .other start [left, ← value]
    else failure

/-- An assignment that is a whole statement. -/
def wholeAssignment (nested : Nested) (ctx : Context) : Parse Tree :=
  whole do assignment nested ctx (← get).room false

/-- The words that start statements of other kinds. -/
def statementWords : List String :=
  ["import", "from", "pass", "break", "continue", "return", "raise", "del", "assert", "global", "nonlocal",
   "if", "while", "for", "with", "try", "def", "class"]

/-- What an assignment starts with, after expressions that end in a comma or not. -/
def opening (nested : Nested) (ctx : Context) (comma : Bool) : Parse Opening := do
  let target ← Target.one nested (← get).room true ctx { ctx.after with lineEnd := false }
  if ← seesSign "," then return .several
  else if target.kind == .list && !comma then return .subscript
  else return .single

/-- At the end of a line the statements that follow, expressions and at last perhaps an assignment, end at a
    place. The position is that of the statement before, `comma` tells whether a comma ends it, and the sequel
    is what follows them all. -/
def splits (nested : Nested) (ctx : Context) (sequel : Sequel) (stop : Place) :
    (fuel : Nat) → Position → (comma : Bool) → Parse Splits
  | 0, _, _ => failure
  | fuel + 1, position, comma => do
    require position.next.text
    expect .lineEnd position.next
    let gap := (← peek).notes
    match ← lexeme with
    | .word text => require !(statementWords.contains text)
    | _ => pure ()
    let position := { position with gaps := gap :: position.gaps, lone := true, later := false }
    let assigned ← attempt do
      let _ ← wholeAssignment nested ctx
      require ((← get).last == stop)
    let apart ← attempt do
      let (_, comma) ← wholeExpressions nested ctx
      if (← get).last == stop then return { gaps := [] }
      else splits nested ctx sequel stop fuel position comma
    let rest ←
      match assigned, apart with
      | none, none => failure
      | none, some found => pure found
      | some _, none => pure { gaps := [], opening := ← opening nested ctx comma }
      | some _, some found =>
        if found.gaps.isEmpty || sequel.prefersSeveral position found then pure found
        else pure { gaps := [], opening := ← opening nested ctx comma }
    return { rest with gaps := rest.gaps ++ [gap] }

/-- An assignment, or expressions; where a statement can be read as both, what follows it decides. -/
def assignmentOrExpressions (nested : Nested) (ctx : Context) (position : Position) : Parse Tree :=
  fun s =>
    match wholeAssignment nested ctx s, wholeExpressions nested ctx s with
    | some (a, assigned), some ((b, comma), valued) =>
      let sequel := Sequel.after position.next assigned
      if position.apart then some (b, valued)
      else if assigned.last == valued.last then
        if sequel.prefersExpressions position then some (b, valued) else some (a, assigned)
      else
        match splits nested ctx sequel assigned.last s.room position comma valued with
        | some (found, _) =>
          if sequel.prefersSeveral position found then some (b, valued) else some (a, assigned)
        | none => some (a, assigned)
    | some a, none => some a
    | none, b => b.map fun ((b, _), valued) => (b, valued)

/-- An assignment, a value given away, or expressions. -/
def plain (nested : Nested) (ctx : Context) (position : Position) : Parse Tree := do
  let start ← here
  let inner ←
    if ← seesWord "yield" then whole (Operand.yielded nested ctx)
    else assignmentOrExpressions nested ctx position
  node .expressionStatement start [inner]

/-! Statements with a word of their own -/

/-- A word with expressions that may be missing. -/
def withValues (nested : Nested) (ctx : Context) : Parse Tree := do
  let start ← here
  let _ ← take ctx.afterText
  if ← Operand.starts ctx then node .other start [← expressions nested ctx] else node .other start []

/-- A word with expressions. -/
def withRow (nested : Nested) (ctx : Context) : Parse Tree := do
  let start ← here
  let _ ← take ctx.operand
  node .other start [← expressions nested ctx]

/-- An exception raised, possibly with its cause. -/
def raiseStatement (nested : Nested) (ctx : Context) : Parse Tree := do
  let start ← here
  let raising := { ctx with words := ["from"] }
  word "raise" ctx.afterText
  let raised ← if ← Operand.starts raising then Operand.expressions nested raising else pure []
  if ← wordIf "from" ctx.operand then node .other start (raised ++ [← nested.expression ctx])
  else node .other start raised

/-- An assertion: a condition, and what to say when it fails. -/
def assertStatement (nested : Nested) (ctx : Context) : Parse Tree := do
  let start ← here
  word "assert" ctx.operand
  node .other start (← strictRow ctx.operand (nested.expression ctx))

/-- A word with names. -/
def withNames (ctx : Context) : Parse Tree := do
  let start ← here
  let _ ← take ctx.bare
  node .other start (← strictRow ctx.bare (name ctx.after))

/-! Imports -/

/-- An imported name, possibly with the name it is given. -/
def importedName (ctx : Context) : Parse Tree := do
  let start ← here
  let imported ← dottedName ctx
  if ← wordIf "as" ctx.bare then
    let given ← name ctx.after
    node .aliasedImport start [imported, given]
  else return imported

/-- Imported names in a row. -/
def importedNames (ctx : Context) : Parse (List Tree) := do
  let more := do
    match ← lexeme with
    | .word _ => return true
    | _ => return false
  row ctx.after more (importedName ctx)

/-- An import of modules. -/
def importStatement (ctx : Context) : Parse Tree := do
  let start ← here
  word "import" ctx.bare
  node .importStatement start (← importedNames ctx)

/-- The module that names are imported from: points, a name, or both. Whether all its names may be asked for
    at once comes with it. -/
def importSource (ctx : Context) : Parse Bool := do
  if ← wordIf "__future__" ctx.bare then return false
  else
    let points ← many (seesOneOf [".", "..."]) (take ctx.bare)
    if points.isEmpty || !(← seesWord "import") then
      let _ ← dottedName ctx.inner
    return true

/-- An import of names from a module. -/
def importFromStatement (ctx : Context) : Parse Tree := do
  let start ← here
  word "from" ctx.bare
  let whole ← importSource ctx
  word "import" ctx.bare
  if whole && (← seesSign "*") then
    sign "*" ctx.after
    node .importFromStatement start []
  else if ← signIf "(" ctx.bare then
    let names ← importedNames ctx.inside
    sign ")" ctx.after
    node .importFromStatement start names
  else node .importFromStatement start (← importedNames ctx)

/-! Statements with a word that may be a name -/

/-- What is put out starts here, right after the word for it. -/
def startsOutput (ctx : Context) : Parse Bool := do
  if ← seesWord "not" then
    return !(← ahead do
      word "not" ctx.operand
      seesWord "in")
  else Operand.startsAfterWord ctx

/-- Output in its statement form: the word with expressions, possibly after a target. -/
def printStatement (nested : Nested) (ctx : Context) : Parse Tree := do
  let start ← here
  word "print" ctx.afterText
  if !(← signIf ">>" ctx.operand) then require (← startsOutput ctx)
  node .other start (← Operand.expressions nested ctx)

/-- Execution in its statement form: a string or a name, possibly with scopes. -/
def execStatement (nested : Nested) (ctx : Context) : Parse Tree := do
  let start ← here
  word "exec" ctx.afterText
  let code ←
    match ← lexeme with
    | .quote _ => StringLiteral.one (Operand.fieldValues nested) ctx ctx.after
    | .word text =>
      require !(Operand.operatorWords.contains text)
      let given ← name ctx.after
      pure [given]
    | _ => failure
  if ← wordIf "in" ctx.operand then
    node .other start (code ++ (← strictRow ctx.operand (nested.expression ctx)))
  else node .other start code

/-- A name for a type. -/
def typeAlias (nested : Nested) (ctx : Context) : Parse Tree := do
  let start ← here
  word "type" ctx.afterText
  match ← lexeme with
  | .word text => require (text == "not" || !Operand.operatorWords.contains text)
  | _ => pure ()
  let left ← typeHint nested ctx.inner
  sign "=" ctx.operand
  node .other start [left, ← typeHint nested ctx]

/-- The word for output stands before its target here. -/
def seesOutputTarget (ctx : Context) : Parse Bool :=
  ahead do
    word "print" ctx.afterText
    seesSign ">>"

/-- A simple statement. -/
def one (nested : Nested) (ctx : Context) (position : Position) : Parse Tree := do
  match ← lexeme with
  | .word "import" => importStatement ctx
  | .word "from" => importFromStatement ctx
  | .word "pass" => leaf .passStatement ctx.after
  | .word "break" | .word "continue" => leaf .other ctx.after
  | .word "return" => withValues nested ctx
  | .word "raise" => raiseStatement nested ctx
  | .word "del" => withRow nested ctx
  | .word "assert" => assertStatement nested ctx
  | .word "global" | .word "nonlocal" => withNames ctx
  | .word "print" =>
    if ← seesOutputTarget ctx then printStatement nested ctx
    else plain nested ctx position <|> printStatement nested ctx
  | .word "exec" => whole (execStatement nested ctx) <|> plain nested ctx position
  | .word "type" => whole (typeAlias nested ctx) <|> plain nested ctx position
  | _ => plain nested ctx position

/-! Lines -/

/-- What follows a statement on its line, up to the end of the line, with the line continuations between. -/
def restOfLine (nested : Nested) (ctx : Context) (position : Position) : (fuel : Nat) → Parse (List Tree)
  | 0 => failure
  | fuel + 1 => do
    let before ← joints
    if ← signIf ";" ctx.afterText then
      let between ← joints
      if ← takeIf .lineEnd position.next then return before ++ between
      else
        let statement ← one nested ctx { position with lone := false, later := true }
        return before ++ between ++ statement :: (← restOfLine nested ctx position fuel)
    else
      expect .lineEnd position.next
      return before

/-- Simple statements on one line, with semicolons between and possibly one at the end. -/
def line (nested : Nested) (column : Nat) (position : Position) : Parse (List Tree) := do
  let ctx : Context := { column, lineEnd := true }
  let first ← one nested ctx position
  return first :: (← restOfLine nested ctx position (← get).room)

/-- The first statement of a line has a semicolon after it. -/
def goesOn (nested : Nested) (column : Nat) (position : Position) : Parse Bool := do
  let _ ← one nested { column, lineEnd := true } position
  let _ ← joints
  seesSign ";"

end SourceRecovery.Source.SimpleStatement
