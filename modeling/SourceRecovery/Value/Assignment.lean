/-
Module: SourceRecovery.Value.Assignment
Layer: Value
Purpose: A constant as an assignment in source text. Dictionaries, lists and tuples of tuples that are not
  empty take one line per entry; all else stays on one line. The entries of a dictionary are put in order
  when its keys are all integers or all texts.
Imports: SourceRecovery.Value.Printer
Trusted boundary: none
Main exports: Value.orderedPairs, Value.assignment
Open obligations: none
-/
import SourceRecovery.Value.Printer

namespace SourceRecovery.Value

/-- The integer of an integer value. -/
def int? : Value → Option Int64
  | .int n => some n
  | _ => Option.none

/-- The pairs of a dictionary as they are written: by integer key, by the code points of text keys, and in
    the order of insertion when the keys are mixed or of another kind. -/
def orderedPairs (pairs : List (Value × Value)) : List (Value × Value) :=
  if pairs.all fun entry => entry.1.int?.isSome then
    pairs.mergeSort fun a b => decide ((a.1.int?.getD 0).toInt ≤ (b.1.int?.getD 0).toInt)
  else if pairs.all fun entry => entry.1.str?.isSome then
    pairs.mergeSort fun a b => Text.le (a.1.str?.getD "") (b.1.str?.getD "")
  else pairs

/-- One entry per line between an opening and a closing bracket. -/
def bracketLines (name opening closing : String) (entries : List String) : String :=
  Text.join ([name ++ " = " ++ opening] ++ entries.map (fun entry => "    " ++ entry ++ ",") ++ [closing])

/-- The assignment of a value to a name. -/
def assignment (name : String) : Value → String
  | .dict (first :: rest) =>
    bracketLines name "\x7b" "\x7d"
      ((orderedPairs (first :: rest)).map fun entry => entry.1.literal ++ ": " ++ entry.2.literal)
  | .tuple (.tuple first :: rest) =>
    bracketLines name "(" ")" ((Value.tuple first :: rest).map literal)
  | .list (first :: rest) => bracketLines name "[" "]" ((first :: rest).map literal)
  | value => name ++ " = " ++ value.literal

end SourceRecovery.Value
