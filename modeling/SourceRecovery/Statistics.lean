/-
Module: SourceRecovery.Statistics
Layer: Core
Purpose: Counts over the artifacts of a run, by status and by backend.
Imports: SourceRecovery.Outcome
Trusted boundary: none
Main exports: Statistics, Statistics.record, Statistics.histogram
Open obligations: none
-/
import SourceRecovery.Outcome

namespace SourceRecovery

/-- Counts over the artifacts of a run; the backends are in the order of their code points. -/
structure Statistics where
  total : Nat := 0
  complete : Nat := 0
  incomplete : Nat := 0
  failed : Nat := 0
  byBackend : List (String × Nat) := []
deriving DecidableEq, Repr, Inhabited

namespace Statistics

/-- Counts with one more for a name, which stands in the order of code points. -/
def countUp (name : String) : List (String × Nat) → List (String × Nat)
  | [] => [(name, 1)]
  | entry :: rest =>
    if entry.1 = name then (entry.1, entry.2 + 1) :: rest
    else if Text.le entry.1 name then entry :: countUp name rest
    else (name, 1) :: entry :: rest

/-- One more artifact. -/
def record (s : Statistics) (status : Status) (backend : String) : Statistics :=
  { total := s.total + 1
    complete := s.complete + (if status = .complete then 1 else 0)
    incomplete := s.incomplete + (if status = .incomplete then 1 else 0)
    failed := s.failed + (if status = .failed then 1 else 0)
    byBackend := countUp backend s.byBackend }

/-- The backends by the number of their artifacts, the most used first, and then by name. -/
def histogram (s : Statistics) : List (String × Nat) :=
  s.byBackend.mergeSort fun a b => b.2 < a.2 || (a.2 == b.2 && Text.le a.1 b.1)

end Statistics

end SourceRecovery
