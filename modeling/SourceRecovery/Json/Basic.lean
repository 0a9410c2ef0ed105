/-
Module: SourceRecovery.Json.Basic
Layer: Json
Purpose: JSON documents. Numbers keep their text, so that an integer, a number with a point and a number
  with an exponent stay apart, and objects keep every field in order, so that a repeated field is seen. A
  string whose escapes leave half of a surrogate pair alone has no text and is kept as `halfPair`.
Imports: none
Trusted boundary: none
Main exports: Json, Json.natural?, Json.field?
Open obligations: none
-/

namespace SourceRecovery

/-- A JSON document. -/
inductive Json where
  | null
  | bool (b : Bool)
  | number (text : String)
  | str (s : String)
  | halfPair
  | array (items : List Json)
  | object (fields : List (String × Json))
deriving Inhabited

namespace Json

/-- A natural number. -/
def ofNat (n : Nat) : Json :=
  .number (toString n)

/-- The value of a number written with digits only. -/
def natural? : Json → Option Nat
  | .number text =>
    let digits := text.toList
    if digits.all (fun c => 48 ≤ c.toNat && c.toNat ≤ 57) then some (Nat.ofDigitChars 10 digits 0)
    else none
  | _ => none

/-- The value of a number written with digits and an optional minus sign. -/
def integer? : Json → Option Int
  | .number text =>
    match text.toList with
    | '-' :: digits => (natural? (.number (String.ofList digits))).map fun n => -(n : Int)
    | _ => (natural? (.number text)).map fun n => (n : Int)
  | _ => none

/-- The text of a string. -/
def str? : Json → Option String
  | .str s => some s
  | _ => none

/-- The entries of an array. -/
def array? : Json → Option (List Json)
  | .array items => some items
  | _ => none

/-- The value of the first field of that name. -/
def field? (json : Json) (name : String) : Option Json :=
  match json with
  | .object fields => (fields.find? fun entry => entry.1 == name).map Prod.snd
  | _ => none

/-- An optional text: absent is null. -/
def ofText? : Option String → Json
  | some s => .str s
  | none => .null

/-- An array of texts. -/
def ofTexts (texts : List String) : Json :=
  .array (texts.map .str)

end Json

end SourceRecovery
