/-
Module: SourceRecovery.Analysis.Completeness
Layer: Analysis
Purpose: Which definitions of a text are unfinished, and how many gaps a text has. Bytecode decides: a body
  of a single pass statement is only believed when the unit behind it is empty too. A definition whose name
  fits several units is never tied to one of them.
Imports: SourceRecovery.Index.Members, SourceRecovery.Source.Definition, SourceRecovery.Settings.Basic
Trusted boundary: none
Main exports: Verdict, classify, Resolution, resolve, IncompleteItem, incompleteItems, countGaps
Open obligations: none
-/
import SourceRecovery.Index.Members
import SourceRecovery.Source.Definition
import SourceRecovery.Settings.Basic

namespace SourceRecovery

variable [Source.Grammar]

/-- The number of gaps of a text that is missing, and the largest number that is counted. -/
def maxGaps : Nat :=
  999

/-- What bytecode says about a definition without contents. -/
inductive Verdict where
  | emptyConfirmed
  | stubSuspected
deriving DecidableEq, Repr

/-- An empty function has no nested units and no names, needs one place on the stack at most, and is no
    longer than loading a constant and returning it. -/
def classifyFunction (u : CodeUnit) : Verdict :=
  if !u.hasNestedCode && u.stackSize ≤ 1 && u.names.isEmpty && u.codeSize ≤ 10 then .emptyConfirmed
  else .stubSuspected

/-- An empty class binds nothing but the standard fields. -/
def classifyClass (index : Index) (position : Nat) : Verdict :=
  if (index.members position).isEmpty then .emptyConfirmed else .stubSuspected

/-- What bytecode says about a definition of a kind. -/
def classify (index : Index) (position : Nat) : ItemKind → Verdict
  | .function => classifyFunction (index.unit position)
  | .cls => classifyClass index position

/-- How a definition in a text corresponds to units. -/
inductive Resolution where
  | unique (unit : Nat)
  | ambiguous (units : List Nat)
  | missing
deriving DecidableEq, Repr

/-- The one unit of a definition. -/
def Resolution.unit? : Resolution → Option Nat
  | .unique unit => some unit
  | _ => none

/-- Several units fit the definition. -/
def Resolution.isAmbiguous : Resolution → Bool
  | .ambiguous _ => true
  | _ => false

/-- The units of a definition in a text. -/
def resolve (index : Index) (d : Definition) : Resolution :=
  match index.lookupScoped d.name d.enclosing with
  | .ok unit => .unique unit
  | .error (.ambiguous _ candidates) => .ambiguous (candidates.filterMap index.unitAt?)
  | .error _ => .missing

/-- Bytecode has contents for a definition: its unit has, or one of several that fit. -/
def Resolution.isSuspected (index : Index) (kind : ItemKind) : Resolution → Bool
  | .unique unit => classify index unit kind = .stubSuspected
  | .ambiguous units => units.any fun unit => classify index unit kind = .stubSuspected
  | .missing => false

/-- A definition of a text together with its units. -/
structure Candidate where
  definition : Definition
  resolution : Resolution
deriving DecidableEq, Repr

/-- The pass-only definitions of a text for which bytecode has contents. -/
def suspectedStubs (source : String) (index : Index) (settings : Settings) : List Candidate :=
  ((passOnlyDefinitions source settings.gapMarker settings.stubPlaceholder).map fun d =>
    ⟨d, resolve index d⟩).filter fun c => c.resolution.isSuspected index c.definition.kind

/-- Some pass-only definition hides contents. -/
def hasSuspectedStubs (source : String) (index : Index) (settings : Settings) : Bool :=
  !(suspectedStubs source index settings).isEmpty

/-- A definition that has to be rebuilt. Lines are counted from zero, and `stop` is exclusive. -/
structure IncompleteItem where
  name : String
  kind : ItemKind
  start : Nat
  stop : Nat
  indent : Nat
  enclosing : Option String
  signature : String
  bases : List String
  /-- The members of a class, as bytecode has them. -/
  members : List String
  unit : Option Nat
  ambiguous : Bool
  flagged : Bool
deriving DecidableEq, Repr

/-- The members of a class whose unit is known. -/
def knownMembers (index : Option Index) (kind : ItemKind) (unit : Option Nat) : List String :=
  match kind, index, unit with
  | .cls, some index, some position => (index.members position).map ClassMember.name
  | _, _, _ => []

/-- The item of a definition. -/
def IncompleteItem.ofCandidate (index : Option Index) (c : Candidate) : IncompleteItem :=
  let d := c.definition
  let unit := c.resolution.unit?
  { name := d.name
    kind := d.kind
    start := d.start
    stop := d.stop
    indent := d.indent
    enclosing := d.enclosing
    signature := d.header
    bases := d.bases
    members := knownMembers index d.kind unit
    unit
    ambiguous := c.resolution.isAmbiguous
    flagged := d.flagged }

/-- The definitions of a text that a gap marker flags. -/
def flaggedCandidates (source : String) (index : Option Index) (settings : Settings) :
    List Candidate :=
  (flaggedDefinitions source settings.gapMarker).map fun d =>
    match index with
    | some index => ⟨d, resolve index d⟩
    | none => ⟨d, .missing⟩

/-- Candidates in a row, with one more unless it starts inside one of them. -/
def addUncovered (found : List Candidate) (c : Candidate) : List Candidate :=
  let covered := found.any fun known =>
    known.definition.start ≤ c.definition.start && c.definition.start < known.definition.stop
  if covered then found else found ++ [c]

/-- The flagged definitions, and the suspected ones that start outside all of them. -/
def candidates (source : String) (index : Option Index) (settings : Settings) : List Candidate :=
  let flagged := flaggedCandidates source index settings
  match index with
  | some index => (suspectedStubs source index settings).foldl addUncovered flagged
  | none => flagged

/-- The order of candidates: by start, and of those that start together the longest first. -/
def Candidate.le (a b : Candidate) : Bool :=
  a.definition.start < b.definition.start
    || (a.definition.start == b.definition.start && b.definition.stop ≤ a.definition.stop)

/-- Candidates in a row, with one more unless it lies within one of them. -/
def addOutermost (kept : List Candidate) (c : Candidate) : List Candidate :=
  if kept.any fun outer => outer.definition.covers c.definition then kept else kept ++ [c]

/-- The unfinished definitions of a text by line; those within others are left out. -/
def incompleteItems (source : String) (index : Option Index) (settings : Settings) :
    List IncompleteItem :=
  let ordered := (candidates source index settings).mergeSort Candidate.le
  (ordered.foldl addOutermost []).map (IncompleteItem.ofCandidate index)

/-- A suspected stub counts as a gap of its own: it is not a placeholder, and no marker stands in it. -/
def isUnmarkedGap (lines : List String) (marker : String) (c : Candidate) : Bool :=
  let d := c.definition
  !d.placeholder
    && !((lines.take d.stop).drop d.start).any fun line => Text.contains line marker

/-- The suspected stubs that count as gaps of their own. -/
def unmarkedGaps (source : String) (index : Option Index) (settings : Settings) : Nat :=
  match index with
  | some index =>
    ((suspectedStubs source index settings).filter
      (isUnmarkedGap (Text.lines source) settings.gapMarker)).length
  | none => 0

/-- The gaps of a text: its markers and its suspected stubs without a marker; one at least when the text is
    not acceptable source, and the largest number when there is no text. -/
def countGaps (source : String) (index : Option Index) (settings : Settings) : Nat :=
  if Text.isBlankText source then maxGaps
  else
    let gaps := Scan.markerCount source settings.gapMarker + unmarkedGaps source index settings
    let gaps := if Source.isValid source then gaps else max gaps 1
    min gaps maxGaps

end SourceRecovery
