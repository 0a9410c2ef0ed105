/-
Module: SourceRecovery.Source.Lexer
Layer: Source
Purpose: The next token of a text, given what may stand there. The margin is asked first, then the opening of
  a string; otherwise blanks, comments and line continuations are passed over and a number, a word or the
  longest sign is read.
Imports: SourceRecovery.Source.Margin, SourceRecovery.Text.Chars
Trusted boundary: none
Main exports: Token.next
Open obligations: none
-/
import SourceRecovery.Source.Margin
import SourceRecovery.Text.Chars

namespace SourceRecovery.Source

/-! Numbers -/

/-- The length of the digits after the first one. A single mark may follow a digit. -/
def moreDigits : List Char → Nat
  | [] => 0
  | c :: rest =>
    if Text.isAsciiDigit c then moreDigits rest + 1
    else if c == '_' then
      match rest with
      | d :: _ => if Text.isAsciiDigit d then moreDigits rest + 1 else 1
      | [] => 1
    else 0

/-- The length of the decimal digits at the front. -/
def digitsLength (cs : List Char) : Nat :=
  match cs with
  | c :: rest => if Text.isAsciiDigit c then moreDigits rest + 1 else 0
  | [] => 0

/-- The length of the digits of a base at the front, where a mark has to be followed by a digit. -/
def basedLength (isDigit : Char → Bool) : List Char → Nat
  | [] => 0
  | c :: rest =>
    if isDigit c then basedLength isDigit rest + 1
    else if c == '_' then
      match rest with
      | d :: _ => if isDigit d then basedLength isDigit rest + 1 else 0
      | [] => 0
    else 0

/-- One more when one of the letters follows. -/
def withSuffix (letters : List Char) (cs : List Char) (length : Nat) : Nat :=
  match cs.drop length with
  | c :: _ => if letters.contains c then length + 1 else length
  | [] => length

/-- The length of an exponent at the front. -/
def exponentLength : List Char → Nat
  | c :: rest =>
    if c == 'e' || c == 'E' then
      match rest with
      | s :: digits =>
        if s == '+' || s == '-' then
          if digitsLength digits = 0 then 0 else digitsLength digits + 2
        else if digitsLength rest = 0 then 0
        else digitsLength rest + 1
      | [] => 0
    else 0
  | [] => 0

/-- The digits of a number after its two-character base mark. -/
def isDigitOfBase (mark : Char) : Char → Bool :=
  if mark == 'x' || mark == 'X' then fun c => c.isDigit || ('a' ≤ c && c ≤ 'f') || ('A' ≤ c && c ≤ 'F')
  else if mark == 'o' || mark == 'O' then fun c => '0' ≤ c && c ≤ '7'
  else if mark == 'b' || mark == 'B' then fun c => c == '0' || c == '1'
  else fun _ => false

/-- The length of a decimal number at the front, with its fraction, exponent and suffix. -/
def decimalLength (cs : List Char) : Nat :=
  let whole := digitsLength cs
  match cs.drop whole with
  | '.' :: rest =>
    let fraction := digitsLength rest
    if whole + fraction = 0 then 0
    else
      let length := whole + 1 + fraction
      withSuffix ['j', 'J'] cs (length + exponentLength (cs.drop length))
  | rest =>
    if whole = 0 then 0
    else
      match exponentLength rest with
      | 0 => withSuffix ['l', 'L', 'j', 'J'] cs whole
      | exponent => withSuffix ['j', 'J'] cs (whole + exponent)

/-- The length of the number at the front; zero when there is none. -/
def numberLength (cs : List Char) : Nat :=
  match cs with
  | '0' :: mark :: rest =>
    match basedLength (isDigitOfBase mark) rest with
    | 0 => decimalLength cs
    | length => withSuffix ['l', 'L'] cs (length + 2)
  | _ => decimalLength cs

/-! Openings of strings -/

/-- A letter before the quotes of a string. -/
def isStringLetter (c : Char) : Bool :=
  ['f', 'F', 'r', 'R', 'b', 'B', 'u', 'U'].contains c

/-- The delimiter at the front of a text, with its length. -/
def delimiter? (cs : List Char) : Option (Delimiter × Nat) :=
  let letters := cs.takeWhile isStringLetter
  let has := fun (a b : Char) => letters.contains a || letters.contains b
  match cs.drop letters.length with
  | quote :: rest =>
    if isOpeningQuote quote then
      let triple := quote != '`' && Text.Chars.startsWith [quote, quote] rest
      some
        ({ quote, triple, raw := has 'r' 'R', format := has 'f' 'F', bytes := has 'b' 'B' },
         letters.length + (if triple then 3 else 1))
    else none
  | [] => none

/-! Signs -/

/-- Signs of three characters. -/
def longSigns : List (List Char) :=
  [['*', '*', '='], ['/', '/', '='], ['>', '>', '='], ['<', '<', '='], ['.', '.', '.']]

/-- Signs of two characters. -/
def middleSigns : List (List Char) :=
  [['-', '>'], [':', '='], ['!', '='], ['<', '>'], ['=', '='], ['<', '='], ['>', '='], ['+', '='],
   ['-', '='], ['*', '='], ['/', '='], ['%', '='], ['@', '='], ['&', '='], ['|', '='], ['^', '='],
   ['*', '*'], ['/', '/'], ['<', '<'], ['>', '>']]

/-- Signs of one character. -/
def shortSigns : List Char :=
  ['(', ')', '[', ']', '\x7b', '\x7d', ',', ':', '.', ';', '@', '=', '+', '-', '*', '/', '%', '&', '|',
   '^', '~', '<', '>']

/-- The longest sign at the front. -/
def sign? (cs : List Char) : Option (List Char) :=
  if longSigns.contains (cs.take 3) then some (cs.take 3)
  else if middleSigns.contains (cs.take 2) then some (cs.take 2)
  else
    match cs with
    | c :: _ => if shortSigns.contains c then some [c] else none
    | [] => none

/-! Gaps -/

/-- The text after the blanks that may stand before the opening of a string, and its place; line
    continuations are blanks here. -/
def afterBlanks : List Char → Place → List Char × Place
  | '\\' :: '\n' :: rest, place => afterBlanks rest ((place.along 1).after '\n')
  | '\\' :: '\r' :: '\n' :: rest, place => afterBlanks rest ((place.along 2).after '\n')
  | c :: rest, place =>
    if [' ', '\t', '\n', '\r', '\x0c'].contains c then afterBlanks rest (place.after c)
    else (c :: rest, place)
  | [], place => ([], place)

/-- A character that separates tokens. -/
def isSeparator (c : Char) : Bool :=
  [' ', '\t', '\n', '\r', '\x0b', '\x0c', Char.ofNat 0xFEFF, Char.ofNat 0x2060,
   Char.ofNat 0x200B].contains c

/-- The text after its separators, and its place. -/
def afterSeparators : List Char → Place → List Char × Place
  | c :: rest, place =>
    if isSeparator c then afterSeparators rest (place.after c) else (c :: rest, place)
  | [], place => ([], place)

/-- The length of the line continuation at the front: a backslash with the line end after it. -/
def jointLength : List Char → Nat
  | '\\' :: '\n' :: _ => 2
  | '\\' :: '\r' :: '\n' :: _ => 3
  | ['\\'] => 1
  | _ => 0

/-! Tokens -/

/-- What is read at the front of a text without a gap, and its length. -/
def lexemeAt (cs : List Char) : Lexeme × Nat :=
  match cs with
  | [] => (.finish, 0)
  | c :: rest =>
    match numberLength cs with
    | length + 1 => (.number, length + 1)
    | 0 =>
      if Text.isNameStart c then
        let name := cs.takeWhile Text.isNameContinue
        (.word (String.ofList name), name.length)
      else
        match sign? cs with
        | some sign => (.sign (String.ofList sign), sign.length)
        | none =>
          if c == '!' && rest.head?.any Char.isLower then (.conversion, 2) else (.unreadable, 0)

/-- The opening of a string at the front of a text, where one may stand. -/
def opening? (stand : Stand) (cs : List Char) (place : Place) : Option (Token × List Char) :=
  if stand.text then
    let (rest, start) := afterBlanks cs place
    (delimiter? rest).map fun (d, length) => ({ lexeme := .quote d, start, stop := start.along length }, rest)
  else none

namespace Token

/-- The next token of a text at a place, and the text from its start on. `fuel` bounds the number of
    comments and line continuations before it; `joints` and `notes` stand for those passed so far. -/
def nextAfter (stand : Stand) (inField : Bool) :
    (fuel : Nat) → (joints : List Span) → (notes : Nat) → List Char → Place → Token × List Char
  | 0, joints, notes, cs, place => (⟨.unreadable, place, place, joints, notes⟩, cs)
  | fuel + 1, joints, notes, cs, place =>
    match marginToken? stand inField cs with
    | some lexeme => (⟨lexeme, place, place, joints, notes⟩, cs)
    | none =>
      match opening? stand cs place with
      | some (token, rest) => ({ token with joints, notes }, rest)
      | none =>
        let (rest, start) := afterSeparators cs place
        if rest.head? == some '#' then
          let comment := rest.takeWhile (· != '\n')
          nextAfter stand inField fuel joints (notes + 1) (rest.drop comment.length)
            (start.along comment.length)
        else
          match jointLength rest with
          | 0 =>
            let (lexeme, length) := lexemeAt rest
            (⟨lexeme, start, start.along length, joints, notes⟩, rest)
          | length =>
            let stop := start.past (rest.take length)
            nextAfter stand inField fuel (joints ++ [⟨start, stop⟩]) (notes + 1) (rest.drop length) stop

/-- The next token of a text at a place, and the text from its start on. -/
def next (stand : Stand) (inField : Bool) (fuel : Nat) (cs : List Char) (place : Place) :
    Token × List Char :=
  nextAfter stand inField fuel [] 0 cs place

end Token

end SourceRecovery.Source
