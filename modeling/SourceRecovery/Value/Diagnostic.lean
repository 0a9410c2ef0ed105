/-
Module: SourceRecovery.Value.Diagnostic
Layer: Value
Purpose: Values as diagnostics show them: the kind of the value by name, then its contents.
Imports: SourceRecovery.Value.Printer, SourceRecovery.Text.Diagnostic
Trusted boundary: none
Main exports: Value.describe
Open obligations: none
-/
import SourceRecovery.Value.Printer
import SourceRecovery.Text.Diagnostic

namespace SourceRecovery.Value

/-- A floating-point number in a diagnostic. -/
def describeDouble (x : Double) : String :=
  if x.isNaN then "NaN"
  else if x.isInfinite then if x.isNegative then "-inf" else "inf"
  else String.ofList (x.writeFinite .diagnostic)

mutual

/-- The value by its kind and contents. -/
def describe : Value → String
  | .none => "None"
  | .bool b => if b then "Bool(true)" else "Bool(false)"
  | .int n => "Int(" ++ String.ofList (writeInt n.toInt) ++ ")"
  | .float x => "Float(" ++ describeDouble x ++ ")"
  | .complex re im => "Complex(" ++ describeDouble re ++ ", " ++ describeDouble im ++ ")"
  | .str s => "Str(" ++ Text.Diagnostic.quoteText s ++ ")"
  | .bytes bs => "Bytes(" ++ Text.Diagnostic.bracketed (bs.map fun b => toString b.toNat) ++ ")"
  | .ellipsis => "Ellipsis"
  | .tuple items => "Tuple([" ++ describeItems items ++ "])"
  | .list items => "List([" ++ describeItems items ++ "])"
  | .set items => "Set([" ++ describeItems items ++ "])"
  | .frozenset items => "FrozenSet([" ++ describeItems items ++ "])"
  | .dict pairs => "Dict([" ++ describePairs pairs ++ "])"
  | .code unit => "Code(UnitId(" ++ toString unit ++ "))"
  | .raw text => "Opaque(" ++ Text.Diagnostic.quoteText text ++ ")"

/-- A row of values with commas between. -/
def describeItems : List Value → String
  | [] => ""
  | [v] => describe v
  | v :: rest => describe v ++ ", " ++ describeItems rest

/-- A row of pairs with commas between. -/
def describePairs : List (Value × Value) → String
  | [] => ""
  | [(k, v)] => "(" ++ describe k ++ ", " ++ describe v ++ ")"
  | (k, v) :: rest => "(" ++ describe k ++ ", " ++ describe v ++ "), " ++ describePairs rest

end

end SourceRecovery.Value
