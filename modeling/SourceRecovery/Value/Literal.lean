/-
Module: SourceRecovery.Value.Literal
Layer: Value
Purpose: Reading source literals. A reader takes the remaining text and gives a value and what remains
  after it, or the fault it met and the text that remained there; offsets in messages are bytes from the
  start of the whole text. Blanks and comments may stand between any two tokens. The fuel of the nested
  readers is computed from the length of the text, and every reader that calls itself has used up text.
Imports: SourceRecovery.Value.Diagnostic
Trusted boundary: none
Main exports: Literal.Fault, Literal.Fault.message, Literal.read, Literal.readAssignment
Open obligations: none
-/
import SourceRecovery.Value.Diagnostic

namespace SourceRecovery.Literal

open Text

/-- What can be wrong with a literal. A fault that names a place holds the text that remained there. -/
inductive Fault where
  | trailing (place : List Char)
  | noAssignment
  | badTarget (target : String)
  | expected (token : Char) (place : List Char)
  | notComplex (place : List Char)
  | endOfText
  | badStart (c : Char) (place : List Char)
  | notIterable (word : String) (value : Value)
  | badFloatText (text : String) (cause : DoubleFault)
  | notFloat (value : Value)
  | unknownName (name : String)
  | badInteger (place : List Char) (cause : IntegerFault)
  | badImaginary (place : List Char) (cause : DoubleFault)
  | badFloat (place : List Char) (cause : DoubleFault)
  | mixedStrings
  | openString
  | openEscape
  | shortEscape
  | badEscape (digits : String) (cause : IntegerFault)
  | badCodePoint (code : Nat)
  | cannotNegate (value : Value)

/-- The distance in bytes from the start of the whole text to a place in it. -/
def offset (whole place : List Char) : String :=
  toString (Chars.byteLength whole - Chars.byteLength place)

/-- The wording of a fault found in the whole text. -/
def Fault.message (whole : List Char) : Fault → String
  | .trailing place =>
    "unexpected trailing input at offset " ++ offset whole place ++ ": "
      ++ Diagnostic.quoteText (String.ofList (place.take 16))
  | .noAssignment => "missing '=' in assignment"
  | .badTarget target => "invalid assignment target: " ++ Diagnostic.quoteText target
  | .expected token place =>
    "expected " ++ Diagnostic.quoteText (String.ofList [token]) ++ " at offset " ++ offset whole place
  | .notComplex place => "unsupported binary expression at offset " ++ offset whole place
  | .endOfText => "unexpected end of input"
  | .badStart c place =>
    "unexpected character " ++ Diagnostic.quoteChar c ++ " at offset " ++ offset whole place
  | .notIterable word value => word ++ "() of non-iterable " ++ value.describe
  | .badFloatText text cause =>
    "float(" ++ Diagnostic.quoteText text ++ "): " ++ cause.message
  | .notFloat value => "float() of " ++ value.describe
  | .unknownName name => "unknown name " ++ Diagnostic.quoteText name ++ " in literal"
  | .badInteger place cause =>
    "bad integer literal at offset " ++ offset whole place ++ ": " ++ cause.message
  | .badImaginary place cause =>
    "bad imaginary literal at offset " ++ offset whole place ++ ": " ++ cause.message
  | .badFloat place cause =>
    "bad float literal at offset " ++ offset whole place ++ ": " ++ cause.message
  | .mixedStrings => "cannot mix bytes and str literals"
  | .openString => "unterminated string literal"
  | .openEscape => "unterminated escape sequence"
  | .shortEscape => "truncated hex escape"
  | .badEscape digits cause =>
    "bad hex escape " ++ Diagnostic.quoteText digits ++ ": " ++ cause.message
  | .badCodePoint code => "invalid code point 0x" ++ String.ofList (Nat.toDigits 16 code)
  | .cannotNegate value => "cannot negate " ++ value.describe

/-- A value read and the text that remains, or a fault. -/
abbrev Reading (α : Type) := Except Fault (α × List Char)

/-- Blanks and comments are skipped; `comment` tells whether the text starts inside a comment, which the
    line feed ends. -/
def skipFrom : (comment : Bool) → List Char → List Char
  | _, [] => []
  | true, c :: cs => skipFrom (c != '\n') cs
  | false, c :: cs =>
    if isBlank c then skipFrom false cs
    else if c == '#' then skipFrom true cs
    else c :: cs

/-- The text after blanks and comments. -/
def skip (cs : List Char) : List Char :=
  skipFrom false cs

/-- The text after a token, when it comes next. -/
def eat? (token : Char) (cs : List Char) : Option (List Char) :=
  match skip cs with
  | c :: rest => if c == token then some rest else none
  | [] => none

/-- The text after a token that has to come next. -/
def expect (token : Char) (cs : List Char) : Except Fault (List Char) :=
  match eat? token cs with
  | some rest => .ok rest
  | none => .error (.expected token (skip cs))

/-- The signs before an operand, with blanks and comments among them: how many of them are minus signs, and
    the text of the operand. -/
def readSigns : (comment : Bool) → (minus : Nat) → List Char → Nat × List Char
  | _, minus, [] => (minus, [])
  | true, minus, c :: cs => readSigns (c != '\n') minus cs
  | false, minus, c :: cs =>
    if isBlank c then readSigns false minus cs
    else if c == '#' then readSigns true minus cs
    else if c == '-' then readSigns false (minus + 1) cs
    else if c == '+' then readSigns false minus cs
    else (minus, c :: cs)

/-- A number with the other sign; raw digits take a minus sign in front. -/
def negate : Value → Except Fault Value
  | .int n => .ok (.int (-n))
  | .float x => .ok (.float x.negate)
  | .complex re im => .ok (.complex re.negate im.negate)
  | .raw text => .ok (.raw ("-" ++ text))
  | value => .error (.cannotNegate value)

/-- As many negations as there are minus signs. -/
def negateTimes : Nat → Value → Except Fault Value
  | 0, value => .ok value
  | times + 1, value =>
    match negate value with
    | .ok negated => negateTimes times negated
    | .error fault => .error fault

/-! ### Numbers -/

/-- The characters of a decimal number: digits and underscores, the first point, and exponent marks, each
    with an optional sign after it. `float` tells whether a point or a mark has been met, `marked` whether
    the last character was a mark. -/
def scanDecimal : (float marked : Bool) → List Char → List Char × Bool × List Char
  | float, _, [] => ([], float, [])
  | float, marked, c :: cs =>
    if isAsciiDigit c || c == '_' then
      let (text, isFloat, rest) := scanDecimal float false cs
      (c :: text, isFloat, rest)
    else if c == '.' && !float then
      let (text, isFloat, rest) := scanDecimal true false cs
      (c :: text, isFloat, rest)
    else if c == 'e' || c == 'E' then
      let (text, isFloat, rest) := scanDecimal true true cs
      (c :: text, isFloat, rest)
    else if marked && (c == '+' || c == '-') then
      let (text, isFloat, rest) := scanDecimal float false cs
      (c :: text, isFloat, rest)
    else ([], float, c :: cs)

/-- The base that a number announces with its first two characters. -/
def announcedBase? : List Char → Option Nat
  | '0' :: mark :: _ =>
    if mark == 'x' || mark == 'X' then some 16
    else if mark == 'o' || mark == 'O' then some 8
    else if mark == 'b' || mark == 'B' then some 2
    else none
  | _ => none

/-- A digit of the base, or an underscore. -/
def isBaseDigit (base : Nat) (c : Char) : Bool :=
  (digitValue? base c).isSome || c == '_'

/-- The bound of 64-bit integers. -/
def intBound : Nat :=
  Nat.pow 2 63

/-- A number in an announced base. -/
def readBased (base : Nat) (cs : List Char) : Reading Value :=
  let digits := ((cs.drop 2).takeWhile (isBaseDigit base)).filter (· != '_')
  let rest := (cs.drop 2).dropWhile (isBaseDigit base)
  match readDigits base intBound digits with
  | .ok n => .ok (.int (Int64.ofNat n), rest)
  | .error cause => .error (.badInteger cs cause)

/-- A decimal number: an integer, a floating-point number, or an imaginary number with its mark. An integer
    of more than 64 bits stays raw. -/
def readDecimal (cs : List Char) : Reading Value :=
  let (scanned, isFloat, rest) := scanDecimal false false cs
  let text := scanned.filter (· != '_')
  match rest with
  | 'j' :: tail | 'J' :: tail =>
    match Double.read text with
    | .ok x => .ok (.complex Double.zero x, tail)
    | .error cause => .error (.badImaginary cs cause)
  | _ =>
    if isFloat then
      match Double.read text with
      | .ok x => .ok (.float x, rest)
      | .error cause => .error (.badFloat cs cause)
    else
      match readDigits 10 intBound text with
      | .ok n => .ok (.int (Int64.ofNat n), rest)
      | .error _ => .ok (.raw (String.ofList text), rest)

/-- A number. -/
def readNumber (cs : List Char) : Reading Value :=
  match announcedBase? cs with
  | some base => readBased base cs
  | none => readDecimal cs

/-! ### Strings -/

/-- The first `size` bytes of a text, when a character ends there. -/
def takeBytes? : (size : Nat) → List Char → Option (List Char × List Char)
  | 0, cs => some ([], cs)
  | _ + 1, [] => none
  | size + 1, c :: cs =>
    if c.utf8Size ≤ size + 1 then
      match takeBytes? (size + 1 - c.utf8Size) cs with
      | some (taken, rest) => some (c :: taken, rest)
      | none => none
    else none

/-- A code point by `size` hexadecimal digits; a plus sign may take the place of the first digit. -/
def readHexEscape (size : Nat) (cs : List Char) : Reading (List Char) :=
  match takeBytes? size cs with
  | none => .error .shortEscape
  | some (digits, rest) =>
    match readUnsigned 16 (Nat.pow 2 32) digits with
    | .error cause => .error (.badEscape (String.ofList digits) cause)
    | .ok code =>
      if code.isValidChar then .ok ([Char.ofNat code], rest) else .error (.badCodePoint code)

/-- At most `more` further octal digits after the value `acc`. -/
def readOctal : (more acc : Nat) → List Char → Nat × List Char
  | more + 1, acc, c :: cs =>
    match digitValue? 8 c with
    | some d => readOctal more (acc * 8 + d) cs
    | none => (acc, c :: cs)
  | _, acc, cs => (acc, cs)

/-- What follows a backslash. In a raw string the backslash and the character after it both stay; an escape
    without a meaning stays as it is written. -/
def readEscape (raw : Bool) : List Char → Reading (List Char)
  | [] => .error .openEscape
  | c :: rest =>
    if raw then .ok (['\\', c], rest)
    else
      match c with
      | '\n' => .ok ([], rest)
      | '\\' => .ok (['\\'], rest)
      | '\'' => .ok (['\''], rest)
      | '"' => .ok (['"'], rest)
      | 'n' => .ok (['\n'], rest)
      | 'r' => .ok (['\r'], rest)
      | 't' => .ok (['\t'], rest)
      | 'a' => .ok (['\x07'], rest)
      | 'b' => .ok (['\x08'], rest)
      | 'f' => .ok (['\x0c'], rest)
      | 'v' => .ok (['\x0b'], rest)
      | 'x' => readHexEscape 2 rest
      | 'u' => readHexEscape 4 rest
      | 'U' => readHexEscape 8 rest
      | _ =>
        match digitValue? 8 c with
        | some first =>
          let (code, tail) := readOctal 2 first rest
          .ok ([Char.ofNat code], tail)
        | none => .ok (['\\', c], rest)

/-- The contents of a string up to its closing quotes. -/
def readBody (closing : List Char) (raw : Bool) : (fuel : Nat) → List Char → Reading (List Char)
  | 0, _ => .error .openString
  | fuel + 1, cs =>
    match Chars.dropPattern? closing cs with
    | some rest => .ok ([], rest)
    | none =>
      match cs with
      | [] => .error .openString
      | c :: rest =>
        if c == '\\' then
          match readEscape raw rest with
          | .error fault => .error fault
          | .ok (piece, tail) =>
            match readBody closing raw fuel tail with
            | .error fault => .error fault
            | .ok (more, final) => .ok (piece ++ more, final)
        else
          match readBody closing raw fuel rest with
          | .error fault => .error fault
          | .ok (more, final) => .ok (c :: more, final)

/-- Letters that may stand before the opening quote of a string. -/
def isPrefixLetter (c : Char) : Bool :=
  c == 'b' || c == 'B' || c == 'r' || c == 'R' || c == 'u' || c == 'U'

/-- Either quote. -/
def isQuote (c : Char) : Bool :=
  c == '\'' || c == '"'

/-- The closing quotes that belong to an opening quote at the front of the text. -/
def closingQuotes (quote : Char) (cs : List Char) : List Char :=
  if Chars.startsWith [quote, quote, quote] cs then [quote, quote, quote] else [quote]

/-- A string with its letters and quotes, when one stands at the front of the text. -/
def readString? (cs : List Char) : Option (Reading Value) :=
  let letters := cs.takeWhile isPrefixLetter
  let body := cs.dropWhile isPrefixLetter
  match body with
  | [] => none
  | quote :: _ =>
    if isQuote quote then
      let closing := closingQuotes quote body
      let isBytes := letters.any fun c => c == 'b' || c == 'B'
      let isRaw := letters.any fun c => c == 'r' || c == 'R'
      let contents := body.drop closing.length
      match readBody closing isRaw (contents.length + 1) contents with
      | .error fault => some (.error fault)
      | .ok (chars, rest) =>
        if isBytes then some (.ok (.bytes (chars.map fun c => UInt8.ofNat c.toNat), rest))
        else some (.ok (.str (String.ofList chars), rest))
    else none

/-- Two adjacent strings make one; texts and byte strings do not mix. -/
def concat : Value → Value → Except Fault Value
  | .str a, .str b => .ok (.str (a ++ b))
  | .bytes a, .bytes b => .ok (.bytes (a ++ b))
  | _, _ => .error .mixedStrings

/-- The strings that follow the string `read`. The remaining text has no blank in front. -/
def readMoreStrings : (fuel : Nat) → (read : Value) → List Char → Reading Value
  | 0, read, cs => .ok (read, skip cs)
  | fuel + 1, read, cs =>
    match readString? (skip cs) with
    | none => .ok (read, skip cs)
    | some (.error fault) => .error fault
    | some (.ok (next, rest)) =>
      match concat read next with
      | .error fault => .error fault
      | .ok joined => readMoreStrings fuel joined rest

/-- Adjacent strings, the first of which stands at the front of the text. -/
def readStrings (cs : List Char) : Reading Value :=
  match readString? cs with
  | none => .error .openString
  | some (.error fault) => .error fault
  | some (.ok (first, rest)) => readMoreStrings rest.length first rest

/-! ### Names -/

/-- A character of a name. -/
def isNameChar (c : Char) : Bool :=
  isAlphanumeric c || c == '_'

/-- The entries from which a set can be made. -/
def iterable? : Value → Option (List Value)
  | .dict [] => some []
  | value => value.items?

/-- The floating-point number that a call makes of its argument. -/
def floatOf : Value → Except Fault Value
  | .str s =>
    let text := Chars.asciiLower (Chars.trim s.toList)
    match Double.read text with
    | .ok x => .ok (.float x)
    | .error cause => .error (.badFloatText (String.ofList text) cause)
  | .int n => .ok (.float (Double.ofInt n.toInt))
  | .float x => .ok (.float x)
  | value => .error (.notFloat value)

/-- A complex number from a real operand, a sign and an imaginary operand. -/
def complexOf (place : List Char) (minus : Bool) (first second : Value) : Except Fault Value :=
  let real? :=
    match first with
    | .int n => some (Double.ofInt n.toInt)
    | .float x => some x
    | .complex re im => if im.isZero then some re else none
    | _ => none
  match real?, second with
  | some real, .complex re im =>
    if re.isZero then .ok (.complex real (if minus then im.negate else im))
    else .error (.notComplex place)
  | _, _ => .error (.notComplex place)

mutual

/-- A literal: an operand, or a real and an imaginary operand with a sign between. -/
def readExpr : (fuel : Nat) → List Char → Reading Value
  | 0, _ => .error .endOfText
  | fuel + 1, cs =>
    match readOperand fuel cs with
    | .error fault => .error fault
    | .ok (first, afterFirst) =>
      match skip afterFirst with
      | [] => .ok (first, [])
      | sign :: rest =>
        if sign == '+' || sign == '-' then
          match readOperand fuel rest with
          | .error fault => .error fault
          | .ok (second, final) =>
            match complexOf (sign :: rest) (sign == '-') first second with
            | .error fault => .error fault
            | .ok value => .ok (value, final)
        else .ok (first, sign :: rest)

/-- An operand: signs, then an atom. -/
def readOperand : (fuel : Nat) → List Char → Reading Value
  | 0, _ => .error .endOfText
  | fuel + 1, cs =>
    let (minus, text) := readSigns false 0 cs
    match readAtom fuel text with
    | .error fault => .error fault
    | .ok (atom, rest) =>
      match negateTimes minus atom with
      | .error fault => .error fault
      | .ok value => .ok (value, rest)

/-- A value without a sign. The remaining text has no blank in front. -/
def readAtom : (fuel : Nat) → List Char → Reading Value
  | 0, _ => .error .endOfText
  | _ + 1, [] => .error .endOfText
  | fuel + 1, c :: cs =>
    if c == '(' then
      match readItems fuel ')' false cs with
      | .error fault => .error fault
      | .ok (([single], false), rest) => .ok (single, rest)
      | .ok ((items, _), rest) => .ok (.tuple items, rest)
    else if c == '[' then
      match readItems fuel ']' false cs with
      | .error fault => .error fault
      | .ok ((items, _), rest) => .ok (.list items, rest)
    else if c == '\x7b' then
      match eat? '\x7d' cs with
      | some rest => .ok (.dict [], rest)
      | none => readBraced fuel cs
    else if Chars.startsWith ['.', '.', '.'] (c :: cs) then .ok (.ellipsis, cs.drop 2)
    else if isAsciiDigit c || c == '.' then readNumber (c :: cs)
    else if isQuote c then readStrings (c :: cs)
    else if isAlphabetic c || c == '_' then
      let word := (c :: cs).takeWhile isNameChar
      let rest := (c :: cs).dropWhile isNameChar
      if word.length ≤ 2 && word.all isPrefixLetter && rest.head?.any isQuote then
        readStrings (c :: cs)
      else readNamed fuel (String.ofList word) rest
    else .error (.badStart c (c :: cs))

/-- A value that starts with a name. -/
def readNamed : (fuel : Nat) → (word : String) → List Char → Reading Value
  | 0, _, _ => .error .endOfText
  | fuel + 1, word, cs =>
    if word == "None" then .ok (.none, cs)
    else if word == "True" then .ok (.bool true, cs)
    else if word == "False" then .ok (.bool false, cs)
    else if word == "Ellipsis" then .ok (.ellipsis, cs)
    else if word == "inf" then .ok (.float Double.infinity, cs)
    else if word == "nan" then .ok (.float Double.nan, cs)
    else if word == "set" || word == "frozenset" then
      let make : List Value → Value := if word == "set" then .set else .frozenset
      match expect '(' cs with
      | .error fault => .error fault
      | .ok inside =>
        match eat? ')' inside with
        | some rest => .ok (make [], rest)
        | none =>
          match readExpr fuel inside with
          | .error fault => .error fault
          | .ok (argument, afterArgument) =>
            match expect ')' afterArgument with
            | .error fault => .error fault
            | .ok rest =>
              match iterable? argument with
              | some items => .ok (make items, rest)
              | none => .error (.notIterable word argument)
    else if word == "float" then
      match expect '(' cs with
      | .error fault => .error fault
      | .ok inside =>
        match readExpr fuel inside with
        | .error fault => .error fault
        | .ok (argument, afterArgument) =>
          match expect ')' afterArgument with
          | .error fault => .error fault
          | .ok rest =>
            match floatOf argument with
            | .error fault => .error fault
            | .ok value => .ok (value, rest)
    else .error (.unknownName word)

/-- The entries up to a closing bracket, and whether a comma follows the last one. `comma` tells whether one
    has just been read. -/
def readItems : (fuel : Nat) → (closing : Char) → (comma : Bool) → List Char → Reading (List Value × Bool)
  | 0, _, _, _ => .error .endOfText
  | fuel + 1, closing, comma, cs =>
    match eat? closing cs with
    | some rest => .ok (([], comma), rest)
    | none =>
      match readExpr fuel cs with
      | .error fault => .error fault
      | .ok (item, afterItem) =>
        match eat? ',' afterItem with
        | some afterComma =>
          match readItems fuel closing true afterComma with
          | .error fault => .error fault
          | .ok ((items, trailing), rest) => .ok ((item :: items, trailing), rest)
        | none =>
          match expect closing afterItem with
          | .error fault => .error fault
          | .ok rest => .ok (([item], false), rest)

/-- What stands between braces that are not empty: a dictionary when a colon follows the first entry, a set
    otherwise. -/
def readBraced : (fuel : Nat) → List Char → Reading Value
  | 0, _ => .error .endOfText
  | fuel + 1, cs =>
    match readExpr fuel cs with
    | .error fault => .error fault
    | .ok (first, afterFirst) =>
      match eat? ':' afterFirst with
      | some afterColon =>
        match readExpr fuel afterColon with
        | .error fault => .error fault
        | .ok (value, afterValue) =>
          match readMorePairs fuel afterValue with
          | .error fault => .error fault
          | .ok (pairs, rest) => .ok (.dict (Value.insertAll [] ((first, value) :: pairs)), rest)
      | none =>
        match readMoreItems fuel afterFirst with
        | .error fault => .error fault
        | .ok (items, rest) => .ok (.set (first :: items), rest)

/-- The pairs after the first one, up to the closing brace. -/
def readMorePairs : (fuel : Nat) → List Char → Reading (List (Value × Value))
  | 0, _ => .error .endOfText
  | fuel + 1, cs =>
    match eat? '\x7d' cs with
    | some rest => .ok ([], rest)
    | none =>
      match expect ',' cs with
      | .error fault => .error fault
      | .ok afterComma =>
        match eat? '\x7d' afterComma with
        | some rest => .ok ([], rest)
        | none =>
          match readExpr fuel afterComma with
          | .error fault => .error fault
          | .ok (key, afterKey) =>
            match expect ':' afterKey with
            | .error fault => .error fault
            | .ok afterColon =>
              match readExpr fuel afterColon with
              | .error fault => .error fault
              | .ok (value, afterValue) =>
                match readMorePairs fuel afterValue with
                | .error fault => .error fault
                | .ok (pairs, rest) => .ok ((key, value) :: pairs, rest)

/-- The entries of a set after the first one, up to the closing brace. -/
def readMoreItems : (fuel : Nat) → List Char → Reading (List Value)
  | 0, _ => .error .endOfText
  | fuel + 1, cs =>
    match eat? '\x7d' cs with
    | some rest => .ok ([], rest)
    | none =>
      match expect ',' cs with
      | .error fault => .error fault
      | .ok afterComma =>
        match eat? '\x7d' afterComma with
        | some rest => .ok ([], rest)
        | none =>
          match readExpr fuel afterComma with
          | .error fault => .error fault
          | .ok (item, afterItem) =>
            match readMoreItems fuel afterItem with
            | .error fault => .error fault
            | .ok (items, rest) => .ok (item :: items, rest)

end

/-- Enough fuel for any text: between two characters at most five readers call each other. -/
def fuelFor (cs : List Char) : Nat :=
  5 * cs.length + 5

/-- A literal that makes up a whole text, blanks and comments apart. -/
def readWhole (cs : List Char) : Except Fault Value :=
  match readExpr (fuelFor cs) cs with
  | .error fault => .error fault
  | .ok (value, rest) =>
    match skip rest with
    | [] => .ok value
    | place => .error (.trailing place)

/-- The literal that makes up a whole text, or the message of what is wrong with it. -/
def read (text : String) : Except String Value :=
  match readWhole text.toList with
  | .ok value => .ok value
  | .error fault => .error (fault.message text.toList)

/-- A name, an equals sign and a literal, which may span several lines. Offsets in messages count from the
    equals sign on. -/
def readAssignment (text : String) : Except String (String × Value) :=
  match Chars.splitOnce '=' text.toList with
  | none => .error (Fault.message [] .noAssignment)
  | some (target, body) =>
    let name := Chars.trim target
    if name.isEmpty || !name.all isNameChar then
      .error (Fault.message [] (.badTarget (String.ofList name)))
    else
      match readWhole body with
      | .ok value => .ok (String.ofList name, value)
      | .error fault => .error (fault.message body)

end SourceRecovery.Literal
