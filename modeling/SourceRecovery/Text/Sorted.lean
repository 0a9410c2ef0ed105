/-
Module: SourceRecovery.Text.Sorted
Layer: Text
Purpose: Texts in the order of their code points, each once.
Imports: SourceRecovery.Text.Basic
Trusted boundary: none
Main exports: sortedDistinct
Open obligations: none
-/
import SourceRecovery.Text.Basic

namespace SourceRecovery.Text

/-- The texts in the order of their code points. -/
def sorted (texts : List String) : List String :=
  texts.mergeSort le

/-- The texts in the order of their code points, each once. -/
def sortedDistinct (texts : List String) : List String :=
  sorted texts.eraseDups

end SourceRecovery.Text
