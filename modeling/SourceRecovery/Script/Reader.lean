/-
Module: SourceRecovery.Script.Reader
Layer: Script
Purpose: Scripts from text.
Imports: SourceRecovery.Script.Basic, SourceRecovery.Text.CharClass
Trusted boundary: none
Main exports: Script.tokens?, Script.read?
Open obligations: none
-/
import SourceRecovery.Script.Basic
import SourceRecovery.Text.CharClass

namespace SourceRecovery.Script

/-! Words -/

/-- A letter, a digit or an underscore. -/
def isNameChar (c : Char) : Bool :=
  c.isAlphanum || c == '_'

/-- A parameter that is a single sign. -/
def isSpecial (c : Char) : Bool :=
  c.isDigit || "@*#?$!-".toList.contains c

/-- A sign that ends a word. -/
def endsWord (c : Char) : Bool :=
  " \t\n;&|<>()".toList.contains c

/-- What encloses a piece of text. -/
inductive Enclosure where
  | parens
  | quotes
deriving DecidableEq, Repr

/-- The text up to the end of what is open, and what comes after it; `verbatim` is set between single quotes,
    and `escaped` after a backslash. -/
def enclosed : (unclosed : List Enclosure) → (verbatim escaped : Bool) → (seen : List Char) →
    List Char → Option (List Char × List Char)
  | [], _, _, seen, cs => some (seen.tail.reverse, cs)
  | _ :: _, _, _, _, [] => none
  | stack, verbatim, true, seen, c :: cs => enclosed stack verbatim false (c :: seen) cs
  | stack, true, false, seen, c :: cs => enclosed stack (c != '\'') false (c :: seen) cs
  | .parens :: outer, false, false, seen, c :: cs =>
    if c == '\\' then enclosed (.parens :: outer) false true (c :: seen) cs
    else if c == '\'' then enclosed (.parens :: outer) true false (c :: seen) cs
    else if c == '"' then enclosed (.quotes :: .parens :: outer) false false (c :: seen) cs
    else if c == '(' then enclosed (.parens :: .parens :: outer) false false (c :: seen) cs
    else if c == ')' then enclosed outer false false (c :: seen) cs
    else enclosed (.parens :: outer) false false (c :: seen) cs
  | .quotes :: outer, false, false, seen, c :: cs =>
    if c == '\\' then enclosed (.quotes :: outer) false true (c :: seen) cs
    else if c == '"' then enclosed outer false false (c :: seen) cs
    else if c == '(' && seen.head? == some '$' then
      enclosed (.parens :: .quotes :: outer) false false (c :: seen) cs
    else enclosed (.quotes :: outer) false false (c :: seen) cs

/-- The piece after a dollar sign, and what comes after it. -/
def dollar (quoted : Bool) (cs : List Char) : Option (Piece × List Char) :=
  match cs with
  | '(' :: rest => (enclosed [.parens] false false [] rest).map fun found =>
      (.output found.1 quoted, found.2)
  | '\x7b' :: rest =>
    let name := rest.takeWhile (· != '\x7d')
    match rest.drop name.length with
    | [] => none
    | _ :: after => some (.parameter (String.ofList name) quoted, after)
  | c :: rest =>
    if isSpecial c then some (.parameter (String.ofList [c]) quoted, rest)
    else
      match (c :: rest).takeWhile isNameChar with
      | [] => some (.literal ['$'] quoted, c :: rest)
      | name => some (.parameter (String.ofList name) quoted, (c :: rest).drop name.length)
  | [] => some (.literal ['$'] quoted, [])

/-- The piece between back quotes, and what comes after it. -/
def backQuoted (quoted : Bool) (cs : List Char) : Option (Piece × List Char) :=
  let script := cs.takeWhile (· != '\x60')
  match cs.drop script.length with
  | [] => none
  | _ :: after => some (.output script quoted, after)

/-- The pieces up to a closing double quote, and what comes after it. -/
def doubleQuoted : (fuel : Nat) → List Char → Option (Word × List Char)
  | 0, _ => none
  | fuel + 1, cs =>
    match cs with
    | [] => none
    | '"' :: rest => some ([], rest)
    | '\\' :: c :: rest =>
      let text := if c == '\n' then [] else if "$\x60\"\\".toList.contains c then [c] else ['\\', c]
      (doubleQuoted fuel rest).map fun found => (.literal text true :: found.1, found.2)
    | '$' :: rest => do
      let (piece, after) ← dollar true rest
      let (pieces, last) ← doubleQuoted fuel after
      return (piece :: pieces, last)
    | '\x60' :: rest => do
      let (piece, after) ← backQuoted true rest
      let (pieces, last) ← doubleQuoted fuel after
      return (piece :: pieces, last)
    | c :: rest => (doubleQuoted fuel rest).map fun found => (.literal [c] true :: found.1, found.2)

/-- The pieces of a word, and what comes after it. -/
def word : (fuel : Nat) → List Char → Option (Word × List Char)
  | 0, _ => none
  | fuel + 1, cs =>
    let more := fun (first : Word) (after : List Char) =>
      (word fuel after).map fun found => (first ++ found.1, found.2)
    match cs with
    | [] => some ([], [])
    | '\'' :: rest =>
      let text := rest.takeWhile (· != '\'')
      match rest.drop text.length with
      | [] => none
      | _ :: after => more [.literal text true] after
    | '"' :: rest =>
      match doubleQuoted (rest.length + 1) rest with
      | some (pieces, after) => more (.literal [] true :: pieces) after
      | none => none
    | '\\' :: '\n' :: rest => more [] rest
    | '\\' :: c :: rest => more [.literal [c] true] rest
    | '$' :: rest =>
      match dollar false rest with
      | some (piece, after) => more [piece] after
      | none => none
    | '\x60' :: rest =>
      match backQuoted false rest with
      | some (piece, after) => more [piece] after
      | none => none
    | c :: rest => if endsWord c then some ([], c :: rest) else more [.literal [c] false] rest

/-! Tokens -/

/-- A token of a script. -/
inductive Token where
  | word (pieces : Word)
  | mark (text : String)
  /-- The sign for a stream that is sent elsewhere; its target follows. -/
  | redirect (stream : Nat) (same : Bool)
deriving DecidableEq, Repr

/-- The marks between commands, longer ones first. -/
def marks : List String :=
  [";;", "&&", "||", ";", "&", "|", "(", ")", "\n"]

/-- The mark at the front of a text, and what comes after it. -/
def mark? (cs : List Char) : Option (String × List Char) :=
  marks.findSome? fun m => (Text.Chars.dropPattern? m.toList cs).map fun rest => (m, rest)

/-- The sign at the front of a text that sends a stream elsewhere, with the number of the stream before it. -/
def redirect? (cs : List Char) : Option (Token × List Char) :=
  let digits := cs.takeWhile Char.isDigit
  let number := fun (fallback : Nat) => if digits.isEmpty then fallback else Nat.ofDigitChars 10 digits 0
  match cs.drop digits.length with
  | '>' :: '&' :: rest => some (.redirect (number 1) true, rest)
  | '>' :: '>' :: rest => some (.redirect (number 1) false, rest)
  | '>' :: rest => some (.redirect (number 1) false, rest)
  | '<' :: '&' :: rest => some (.redirect (number 0) true, rest)
  | '<' :: rest => some (.redirect (number 0) false, rest)
  | _ => none

/-- The tokens of a text. -/
def tokensFrom : (fuel : Nat) → List Char → Option (List Token)
  | 0, _ => none
  | fuel + 1, cs =>
    match cs with
    | [] => some []
    | c :: rest =>
      if c == ' ' || c == '\t' then tokensFrom fuel rest
      else if c == '#' then tokensFrom fuel (rest.dropWhile (· != '\n'))
      else
        match redirect? cs with
        | some (token, after) => (tokensFrom fuel after).map (token :: ·)
        | none =>
          match mark? cs with
          | some (text, after) => (tokensFrom fuel after).map (.mark text :: ·)
          | none =>
            match word (cs.length + 1) cs with
            | some (pieces, after) => (tokensFrom fuel after).map (.word pieces :: ·)
            | none => none

/-- The tokens of a text. -/
def tokens? (cs : List Char) : Option (List Token) :=
  tokensFrom (cs.length + 1) cs

/-! Commands -/

/-- The text of a word that is written without quotes and parameters. -/
def plainText? : Word → Option (List Char)
  | [] => some []
  | .literal text false :: pieces => (plainText? pieces).map (text ++ ·)
  | _ => none

/-- The token is a word that is written just so. -/
def Token.isWord (text : String) : Token → Bool
  | .word pieces => plainText? pieces == some text.toList
  | _ => false

/-- Words with a meaning of their own at the start of a command. -/
def closers : List String :=
  ["then", "elif", "else", "fi", "esac", "\x7d"]

/-- The token cannot start a command. -/
def Token.closes (token : Token) : Bool :=
  token == .mark ")" || token == .mark ";;" || closers.any token.isWord

/-- Tokens without the ends of lines at their front. -/
def skipLines (tokens : List Token) : List Token :=
  tokens.dropWhile (· == .mark "\n")

/-- A name at the front of a word with an equals sign after it, and the pieces of the value. -/
def assignment? (pieces : Word) : Option (String × Word) :=
  let isPlain := fun (piece : Piece) =>
    match piece with
    | .literal [c] false => isNameChar c
    | _ => false
  let name := pieces.takeWhile isPlain
  match pieces.drop name.length with
  | .literal ['='] false :: value =>
    match name.flatMap fun piece => (match piece with | .literal text _ => text | _ => []) with
    | [] => none
    | first :: more =>
      if first.isDigit then none else some (String.ofList (first :: more), value)
  | _ => none

/-- The stream that a word names. -/
def streamOf (same : Bool) (target : Word) : Option Stream :=
  if same then
    match plainText? target with
    | some [d] => if d.isDigit then some (.same (d.toNat - 48)) else none
    | _ => none
  else some (.file target)

/-- The streams sent elsewhere at the front of tokens, and what comes after them. -/
def redirects : List Token → List Redirect × List Token
  | .redirect stream same :: .word target :: rest =>
    match streamOf same target with
    | some target =>
      let (more, after) := redirects rest
      (⟨stream, target⟩ :: more, after)
    | none => ([], .redirect stream same :: .word target :: rest)
  | tokens => ([], tokens)

/-- A program with its arguments, and what comes after it. -/
def simpleCommand : List Token → List (String × Word) → List Word → List Redirect →
    Option (Cmd × List Token)
  | .word pieces :: rest, assignments, words, sent =>
    match if words.isEmpty then assignment? pieces else none with
    | some entry => simpleCommand rest (assignments ++ [entry]) words sent
    | none => simpleCommand rest assignments (words ++ [pieces]) sent
  | .redirect stream same :: rest, assignments, words, sent =>
    match rest with
    | .word target :: after =>
      match streamOf same target with
      | some target => simpleCommand after assignments words (sent ++ [⟨stream, target⟩])
      | none => none
    | _ => none
  | tokens, assignments, words, sent =>
    if assignments.isEmpty && words.isEmpty && sent.isEmpty then none
    else some (.simple assignments words sent, tokens)

/-- The patterns of an arm up to the closing bracket. -/
def armPatterns : List Token → Option (List Word × List Token)
  | .word pieces :: .mark ")" :: rest => some ([pieces], rest)
  | .word pieces :: .mark "|" :: rest =>
    (armPatterns rest).map fun found => (pieces :: found.1, found.2)
  | _ => none

/-- One token that has to stand at the front. -/
def expectWord (text : String) : List Token → Option (List Token)
  | token :: rest => if token.isWord text then some rest else none
  | [] => none

mutual

/-- The steps up to a token that cannot start a command. -/
def steps : (fuel : Nat) → Link → List Token → Option (List Step × List Token)
  | 0, _, _ => none
  | fuel + 1, link, tokens =>
    match skipLines tokens with
    | [] => some ([], [])
    | token :: rest =>
      if token.closes then some ([], token :: rest)
      else do
        let (stages, after) ← stages fuel (token :: rest)
        let next := fun (background : Bool) (link' : Link) (more : List Token) => do
          let (others, last) ← steps fuel link' more
          return (.mk link stages background :: others, last)
        match after with
        | .mark ";" :: more | .mark "\n" :: more => next false .always more
        | .mark "&" :: more => next true .always more
        | .mark "&&" :: more => next false .onSuccess more
        | .mark "||" :: more => next false .onFailure more
        | more => some ([.mk link stages false], more)

/-- Commands that pass bytes on. -/
def stages : (fuel : Nat) → List Token → Option (List Cmd × List Token)
  | 0, _ => none
  | fuel + 1, tokens => do
    let (first, after) ← command fuel (skipLines tokens)
    match after with
    | .mark "|" :: more =>
      let (others, last) ← stages fuel more
      return (first :: others, last)
    | more => return ([first], more)

/-- A command. -/
def command : (fuel : Nat) → List Token → Option (Cmd × List Token)
  | 0, _ => none
  | fuel + 1, tokens =>
    match tokens with
    | .mark "(" :: rest => do
      let (body, after) ← steps fuel .always rest
      match after with
      | .mark ")" :: more =>
        let (sent, last) := redirects more
        return (.group body true sent, last)
      | _ => none
    | token :: rest =>
      if token.isWord "\x7b" then do
        let (body, after) ← steps fuel .always rest
        let more ← expectWord "\x7d" after
        let (sent, last) := redirects more
        return (.group body false sent, last)
      else if token.isWord "case" then
        match rest with
        | .word subject :: more => do
          let more ← expectWord "in" (skipLines more)
          let (arms, last) ← arms fuel more
          return (.choice subject arms, last)
        | _ => none
      else if token.isWord "if" then branch fuel rest
      else simpleCommand (token :: rest) [] [] []
    | [] => none

/-- The rest of a command that depends on a condition. -/
def branch : (fuel : Nat) → List Token → Option (Cmd × List Token)
  | 0, _ => none
  | fuel + 1, tokens => do
    let (condition, after) ← steps fuel .always tokens
    let (body, after) ← steps fuel .always (← expectWord "then" after)
    match after with
    | token :: rest =>
      if token.isWord "fi" then return (.branch condition body [], rest)
      else if token.isWord "else" then
        let (otherwise, last) ← steps fuel .always rest
        return (.branch condition body otherwise, ← expectWord "fi" last)
      else if token.isWord "elif" then
        let (inner, last) ← branch fuel rest
        return (.branch condition body [.mk .always [inner] false], last)
      else none
    | [] => none

/-- The arms of a choice. -/
def arms : (fuel : Nat) → List Token → Option (List (List Word × List Step) × List Token)
  | 0, _ => none
  | fuel + 1, tokens =>
    match skipLines tokens with
    | [] => none
    | token :: rest =>
      if token.isWord "esac" then some ([], rest)
      else do
        let opened := if token == .mark "(" then rest else token :: rest
        let (patterns, after) ← armPatterns opened
        let (body, after) ← steps fuel .always after
        match skipLines after with
        | .mark ";;" :: more =>
          let (others, last) ← arms fuel more
          return ((patterns, body) :: others, last)
        | more =>
          let last ← expectWord "esac" more
          return ([(patterns, body)], last)

end

/-- The script in a text. -/
def read? (cs : List Char) : Option (List Step) := do
  let tokens ← tokens? cs
  match ← steps (8 * tokens.length + 8) .always tokens with
  | (script, []) => some script
  | _ => none

end SourceRecovery.Script
