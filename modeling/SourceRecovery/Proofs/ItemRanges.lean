/-
Module: SourceRecovery.Proofs.ItemRanges
Layer: Proofs
Purpose: The lines of unfinished definitions. Of definitions within each other the outermost is kept, so the items of
  a text ascend by their first and by their last line. Two of them can still share lines, when the marker that flags
  the inner definition stands behind the block of the outer one.
Imports: SourceRecovery.Analysis.Completeness, SourceRecovery.Proofs.LineBlocks
Trusted boundary: none
Main exports: IncompleteItem.Apart, MarkedBehind, Candidate.Ascends, Candidate.Crosses, outermost,
  incompleteItems_ascend, incompleteItems_not_apart
Open obligations: none
-/
import SourceRecovery.Analysis.Completeness
import SourceRecovery.Proofs.LineBlocks

namespace SourceRecovery

/-- Two items have no line in common. -/
def IncompleteItem.Apart (a b : IncompleteItem) : Prop :=
  ∀ line, ¬ ((a.start ≤ line ∧ line < a.stop) ∧ b.start ≤ line ∧ line < b.stop)

/-- A marker that belongs to the header on the line `inner` stands behind the block of the line `outer`. -/
def MarkedBehind (lines : List String) (marker : String) (outer inner : Nat) : Prop :=
  ∃ place line header, lines[place]? = some line ∧ Text.contains line marker = true ∧
    Definition.headerOfMarker? lines place = some (inner, header) ∧ Scan.blockEnd lines outer ≤ place

/-! ### Flagged definitions -/

/-- A flagged definition that starts and ends behind the start and the end of another one has its marker behind the
    block of the other one. -/
theorem markedBehind_of_flagged {source marker : String} {outer inner : Definition}
    (isOuter : outer ∈ flaggedDefinitions source marker) (isInner : inner ∈ flaggedDefinitions source marker)
    (after : outer.start < inner.start) (longer : outer.stop < inner.stop) :
    MarkedBehind (Text.lines source) marker outer.start inner.start := by
  obtain ⟨outerPlace, outerFlagged⟩ := exists_flaggedAt isOuter
  obtain ⟨place, innerFlagged⟩ := exists_flaggedAt isInner
  obtain ⟨line, found, holds⟩ := innerFlagged.holds
  obtain ⟨header, closest, _⟩ := innerFlagged.closest
  refine ⟨place, line, header, found, holds, closest, ?_⟩
  apply Nat.le_of_not_lt
  intro before
  -- the header and its marker are in the block of the outer definition, so its own end is not behind that block
  have inRange := (List.getElem?_eq_some_iff.mp found).1
  obtain ⟨earlier, headerLine, isLine, isHeader⟩ := Definition.headerOfMarker?_eq_some inRange closest
  have nested : Scan.blockEnd (Text.lines source) inner.start ≤ Scan.blockEnd (Text.lines source) outer.start :=
    Scan.blockEnd_le_blockEnd after (Nat.lt_trans earlier before) isLine (Header.isBlankText_of_ofLine? isHeader)
  have ends : inner.stop ≤ outer.stop := by
    rw [innerFlagged.stop_eq, outerFlagged.stop_eq]
    apply Scan.markerEnd_mono
    omega
  exact absurd longer (Nat.not_lt_of_le ends)

/-! ### Candidates -/

namespace Candidate

/-- A candidate starts and ends before another one does. -/
structure Ascends (a b : Candidate) : Prop where
  start : a.definition.start < b.definition.start
  stop : a.definition.stop < b.definition.stop

/-- A candidate starts inside another one and ends behind it. -/
structure Crosses (outer inner : Candidate) : Prop where
  after : outer.definition.start < inner.definition.start
  inside : inner.definition.start < outer.definition.stop
  behind : outer.definition.stop < inner.definition.stop

theorem le_trans (a b c : Candidate) (first : a.le b = true) (second : b.le c = true) : a.le c = true := by
  simp only [Candidate.le, Bool.or_eq_true, Bool.and_eq_true, decide_eq_true_eq, beq_iff_eq] at first second ⊢
  omega

theorem le_total (a b : Candidate) : (a.le b || b.le a) = true := by
  simp only [Candidate.le, Bool.or_eq_true, Bool.and_eq_true, decide_eq_true_eq, beq_iff_eq]
  omega

/-- Of two candidates in order, the first covers the second or ascends to it. -/
theorem ascends_of_le {a b : Candidate} (order : a.le b = true) (uncovered : a.definition.covers b.definition = false) :
    Ascends a b := by
  simp only [Candidate.le, Bool.or_eq_true, Bool.and_eq_true, decide_eq_true_eq, beq_iff_eq] at order
  rw [← Bool.not_eq_true] at uncovered
  simp only [Definition.covers, Bool.and_eq_true, decide_eq_true_eq] at uncovered
  constructor
  · omega
  · omega

end Candidate

/-- Adding candidates one by one adds nothing else. -/
theorem mem_of_mem_foldl {add : List Candidate → Candidate → List Candidate}
    (adds : ∀ found c x, x ∈ add found c → x ∈ found ∨ x = c) {more found : List Candidate} {x : Candidate}
    (member : x ∈ more.foldl add found) : x ∈ found ∨ x ∈ more := by
  induction more generalizing found with
  | nil =>
      exact .inl member
  | cons c rest ih =>
      rcases ih member with added | inRest
      · rcases adds found c x added with old | rfl
        · exact .inl old
        · exact .inr List.mem_cons_self
      · exact .inr (List.mem_cons_of_mem c inRest)

/-- A candidate that is added unless a test holds is the only one added. -/
theorem mem_of_mem_ite {found : List Candidate} {c x : Candidate} {covered : Bool}
    (member : x ∈ if covered then found else found ++ [c]) : x ∈ found ∨ x = c := by
  split at member
  · exact .inl member
  · rcases List.mem_append.mp member with old | isNew
    · exact .inl old
    · exact .inr (List.mem_singleton.mp isNew)

section

variable {kept ordered : List Candidate}

/-- Candidates taken in order leave a row that ascends. -/
theorem pairwise_foldl_addOutermost (sorted : ordered.Pairwise fun a b => a.le b = true)
    (later : ∀ k ∈ kept, ∀ c ∈ ordered, k.le c = true) (ascends : kept.Pairwise Candidate.Ascends) :
    (ordered.foldl addOutermost kept).Pairwise Candidate.Ascends := by
  induction ordered generalizing kept with
  | nil =>
      exact ascends
  | cons c rest ih =>
      obtain ⟨first, sorted⟩ := List.pairwise_cons.mp sorted
      have restLater : ∀ k ∈ kept, ∀ other ∈ rest, k.le other = true := fun k isKept other member =>
        later k isKept other (List.mem_cons_of_mem c member)
      rw [List.foldl_cons, addOutermost]
      split
      · exact ih sorted restLater ascends
      case isFalse uncovered =>
          apply ih sorted
          · intro k isKept other member
            rcases List.mem_append.mp isKept with old | isNew
            · exact restLater k old other member
            · rw [List.mem_singleton.mp isNew]
              exact first other member
          · apply List.pairwise_append.mpr
            refine ⟨ascends, List.pairwise_singleton _ c, ?_⟩
            intro k isKept other isNew
            rw [List.mem_singleton.mp isNew]
            apply Candidate.ascends_of_le (later k isKept c List.mem_cons_self)
            rw [Bool.not_eq_true, List.any_eq_false] at uncovered
            exact Bool.eq_false_iff.mpr (uncovered k isKept)

/-- What was kept stays, and every candidate is within one that is kept. -/
theorem exists_cover_foldl_addOutermost (ordered kept : List Candidate) :
    (∀ c ∈ kept, c ∈ ordered.foldl addOutermost kept) ∧
      ∀ c ∈ ordered, ∃ k ∈ ordered.foldl addOutermost kept, k.definition.covers c.definition = true := by
  induction ordered generalizing kept with
  | nil =>
      exact ⟨fun c member => member, List.forall_mem_nil _⟩
  | cons first rest ih =>
      rw [List.foldl_cons]
      obtain ⟨stays, covered⟩ := ih (addOutermost kept first)
      have grows : ∀ c ∈ kept, c ∈ addOutermost kept first := by
        intro c member
        unfold addOutermost
        split
        · exact member
        · exact List.mem_append_left _ member
      refine ⟨fun c member => stays c (grows c member), ?_⟩
      intro c member
      rcases List.mem_cons.mp member with rfl | inRest
      · by_cases isCovered : (kept.any fun outer => outer.definition.covers c.definition) = true
        · obtain ⟨k, isKept, covers⟩ := List.any_eq_true.mp isCovered
          exact ⟨k, stays k (grows k isKept), covers⟩
        · refine ⟨c, stays c ?_, ?_⟩
          · rw [addOutermost, if_neg isCovered]
            exact List.mem_append_right _ (List.mem_singleton_self c)
          · simp [Definition.covers]
      · exact covered c inRest

end

/-! ### Flagged definitions and suspected ones -/

/-- A candidate that starts inside another one is a flagged one. -/
def OverlapsFlagged (flagged found : List Candidate) : Prop :=
  ∀ c ∈ found, ∀ d ∈ found, c.definition.start < d.definition.start → d.definition.start < c.definition.stop →
    d ∈ flagged

/-- Suspected definitions that are taken by line do not start inside other candidates. -/
theorem overlapsFlagged_foldl_addUncovered {flagged found stubs : List Candidate}
    (sorted : stubs.Pairwise fun a b => a.definition.start ≤ b.definition.start)
    (earlier : ∀ c ∈ found, c ∈ flagged ∨ ∀ s ∈ stubs, c.definition.start ≤ s.definition.start)
    (overlaps : OverlapsFlagged flagged found) : OverlapsFlagged flagged (stubs.foldl addUncovered found) := by
  induction stubs generalizing found with
  | nil =>
      exact overlaps
  | cons stub rest ih =>
      obtain ⟨first, sorted⟩ := List.pairwise_cons.mp sorted
      have restEarlier : ∀ c ∈ found, c ∈ flagged ∨ ∀ s ∈ rest, c.definition.start ≤ s.definition.start := by
        intro c member
        rcases earlier c member with isFlagged | before
        · exact .inl isFlagged
        · exact .inr fun s inRest => before s (List.mem_cons_of_mem stub inRest)
      rw [List.foldl_cons, addUncovered]
      split
      · exact ih sorted restEarlier overlaps
      case isFalse uncovered =>
          apply ih sorted
          · intro c member
            rcases List.mem_append.mp member with old | isNew
            · exact restEarlier c old
            · rw [List.mem_singleton.mp isNew]
              exact .inr first
          · intro c isC d isD after inside
            rcases List.mem_append.mp isD with oldD | newD
            · rcases List.mem_append.mp isC with oldC | newC
              · exact overlaps c oldC d oldD after inside
              · rw [List.mem_singleton.mp newC] at after
                rcases earlier d oldD with isFlagged | before
                · exact isFlagged
                · exact absurd after (Nat.not_lt_of_le (before stub List.mem_cons_self))
            · rw [List.mem_singleton.mp newD] at after inside
              rcases List.mem_append.mp isC with oldC | newC
              · rw [Bool.not_eq_true, List.any_eq_false] at uncovered
                apply absurd _ (uncovered c oldC)
                rw [Bool.and_eq_true, decide_eq_true_eq, decide_eq_true_eq]
                exact ⟨Nat.le_of_lt after, inside⟩
              · rw [List.mem_singleton.mp newC] at after
                exact absurd after (Nat.lt_irrefl _)

namespace Definition

theorem flagged_of_ofPass? {setting : Setting} {enclosing : Option String} {t : Source.Tree} {d : Definition}
    (found : ofPass? setting enclosing t = some d) : d.flagged = false := by
  unfold ofPass? at found
  split at found
  · split at found
    · cases found
      rfl
    · cases found
  · cases found

mutual

/-- A definition found in a tree is not flagged. -/
theorem flagged_of_mem_inTree {setting : Setting} {d : Definition} :
    ∀ {t : Source.Tree} {owner : Option Source.Tree} {enclosing : Option String},
      d ∈ inTree setting owner enclosing t → d.flagged = false
  | .node kind span children, owner, enclosing, member => by
      rw [inTree] at member
      rcases List.mem_append.mp member with own | inside
      · split at own
        · exact flagged_of_ofPass? (Option.mem_toList.mp own)
        · cases own
      · exact flagged_of_mem_inTrees inside

/-- A definition found in a row of trees is not flagged. -/
theorem flagged_of_mem_inTrees {setting : Setting} {d : Definition} :
    ∀ {ts : List Source.Tree} {owner : Option Source.Tree} {enclosing : Option String},
      d ∈ inTrees setting owner enclosing ts → d.flagged = false
  | [], _, _, member => by
      cases member
  | t :: rest, _, _, member => by
      rw [inTrees] at member
      rcases List.mem_append.mp member with later | first
      · exact flagged_of_mem_inTrees later
      · exact flagged_of_mem_inTree first

end

end Definition

/-- The definition of a flagged candidate is one that a marker flags. -/
theorem definition_of_mem_flaggedCandidates {source : String} {index : Option Index} {settings : Settings}
    {c : Candidate} (member : c ∈ flaggedCandidates source index settings) :
    c.definition ∈ flaggedDefinitions source settings.gapMarker ∧ c.definition.flagged = true := by
  obtain ⟨d, isDefinition, rfl⟩ := List.mem_map.mp member
  obtain ⟨place, _, header, _, isText⟩ := exists_flaggedAt isDefinition
  have isFlagged : d.flagged = true := by
    rw [isText]
    rfl
  cases index with
  | none =>
      exact ⟨isDefinition, isFlagged⟩
  | some index =>
      exact ⟨isDefinition, isFlagged⟩

section

variable [Source.Grammar] {source : String} {index : Option Index} {settings : Settings}

theorem flagged_of_mem_passOnlyDefinitions {marker placeholder : String} {d : Definition}
    (member : d ∈ passOnlyDefinitions source marker placeholder) : d.flagged = false := by
  unfold passOnlyDefinitions at member
  split at member
  · exact Definition.flagged_of_mem_inTree (List.mem_mergeSort.mp member)
  · cases member

/-- Pass-only definitions are taken by line. -/
theorem pairwise_passOnlyDefinitions (source marker placeholder : String) :
    (passOnlyDefinitions source marker placeholder).Pairwise fun a b => a.start ≤ b.start := by
  unfold passOnlyDefinitions
  split
  case h_1 =>
      have trans : ∀ a b c : Definition, decide (a.start ≤ b.start) = true → decide (b.start ≤ c.start) = true →
          decide (a.start ≤ c.start) = true := by
        intro a b c first second
        exact decide_eq_true (Nat.le_trans (of_decide_eq_true first) (of_decide_eq_true second))
      have total : ∀ a b : Definition, (decide (a.start ≤ b.start) || decide (b.start ≤ a.start)) = true := by
        intro a b
        rw [Bool.or_eq_true, decide_eq_true_eq, decide_eq_true_eq]
        exact Nat.le_total a.start b.start
      exact (List.pairwise_mergeSort trans total _).imp fun order => of_decide_eq_true order
  case h_2 =>
      exact .nil

theorem pairwise_suspectedStubs (source : String) (index : Index) (settings : Settings) :
    (suspectedStubs source index settings).Pairwise fun a b => a.definition.start ≤ b.definition.start := by
  apply List.Pairwise.filter
  rw [List.pairwise_map]
  exact pairwise_passOnlyDefinitions source settings.gapMarker settings.stubPlaceholder

/-- Candidates are flagged definitions or suspected ones, and of those that start inside others all are flagged. -/
theorem candidates_spec (source : String) (index : Option Index) (settings : Settings) :
    (∀ c ∈ candidates source index settings,
      c ∈ flaggedCandidates source index settings ∨ c.definition.flagged = false) ∧
      OverlapsFlagged (flaggedCandidates source index settings) (candidates source index settings) := by
  unfold candidates
  cases index with
  | none =>
      exact ⟨fun c member => .inl member, fun _ _ d isD _ _ => isD⟩
  | some index =>
      constructor
      · intro c member
        rcases mem_of_mem_foldl (fun _ _ _ added => mem_of_mem_ite added) member with isFlagged | isStub
        · exact .inl isFlagged
        · obtain ⟨d, isPass, rfl⟩ := List.mem_map.mp (List.mem_filter.mp isStub).1
          exact .inr (flagged_of_mem_passOnlyDefinitions isPass)
      · apply overlapsFlagged_foldl_addUncovered (pairwise_suspectedStubs source index settings)
        · exact fun c member => .inl member
        · exact fun _ _ d isD _ _ => isD

/-- Of two candidates that ascend and share a line, the second is flagged, and its marker stands behind the block of
    the first when that one is flagged too. -/
theorem markedBehind_of_overlap {outer inner : Candidate} (isOuter : outer ∈ candidates source index settings)
    (isInner : inner ∈ candidates source index settings) (ascends : Candidate.Ascends outer inner)
    (inside : inner.definition.start < outer.definition.stop) :
    inner.definition.flagged = true ∧ (outer.definition.flagged = true →
      MarkedBehind (Text.lines source) settings.gapMarker outer.definition.start inner.definition.start) := by
  obtain ⟨kinds, overlaps⟩ := candidates_spec source index settings
  obtain ⟨innerFlagged, isFlagged⟩ :=
    definition_of_mem_flaggedCandidates (overlaps outer isOuter inner isInner ascends.start inside)
  refine ⟨isFlagged, ?_⟩
  intro flagged
  rcases kinds outer isOuter with outerFlagged | unflagged
  · have outerDefinition := (definition_of_mem_flaggedCandidates outerFlagged).1
    exact markedBehind_of_flagged outerDefinition innerFlagged ascends.start ascends.stop
  · rw [flagged] at unflagged
    cases unflagged

/-- The candidates whose items are reported. -/
def outermost (source : String) (index : Option Index) (settings : Settings) : List Candidate :=
  ((candidates source index settings).mergeSort Candidate.le).foldl addOutermost []

/-- Outermost candidates ascend. -/
theorem outermost_ascend (source : String) (index : Option Index) (settings : Settings) :
    (outermost source index settings).Pairwise Candidate.Ascends := by
  have sorted : ((candidates source index settings).mergeSort Candidate.le).Pairwise fun a b => a.le b = true :=
    List.pairwise_mergeSort Candidate.le_trans Candidate.le_total _
  exact pairwise_foldl_addOutermost sorted (List.forall_mem_nil _) .nil

theorem mem_candidates_of_outermost {c : Candidate} (member : c ∈ outermost source index settings) :
    c ∈ candidates source index settings := by
  rcases mem_of_mem_foldl (fun _ _ _ added => mem_of_mem_ite added) member with absurd | isOrdered
  · cases absurd
  · exact List.mem_mergeSort.mp isOrdered

/-- Every candidate is within an outermost one. -/
theorem exists_outermost_cover {c : Candidate} (member : c ∈ candidates source index settings) :
    ∃ k ∈ outermost source index settings,
      k.definition.start ≤ c.definition.start ∧ c.definition.stop ≤ k.definition.stop := by
  obtain ⟨k, isKept, covers⟩ :=
    (exists_cover_foldl_addOutermost ((candidates source index settings).mergeSort Candidate.le) []).2 c
      (List.mem_mergeSort.mpr member)
  rw [Definition.covers, Bool.and_eq_true, decide_eq_true_eq, decide_eq_true_eq] at covers
  exact ⟨k, isKept, covers⟩

/-- An outermost candidate is within no other one. -/
theorem eq_of_outermost_cover {k c : Candidate} (isOuter : k ∈ outermost source index settings)
    (isInner : c ∈ outermost source index settings) (starts : k.definition.start ≤ c.definition.start)
    (stops : c.definition.stop ≤ k.definition.stop) : k = c := by
  have ascend := outermost_ascend source index settings
  have apart : k = c ∨ Candidate.Ascends k c ∨ Candidate.Ascends c k := by
    apply List.Pairwise.forall_of_forall_of_flip (R := fun a b => a = b ∨ Candidate.Ascends a b ∨ Candidate.Ascends b a)
      (fun _ _ => .inl rfl) _ _ isOuter isInner
    · exact ascend.imp fun order => .inr (.inl order)
    · exact ascend.imp fun order => .inr (.inr order)
  rcases apart with same | before | after
  · exact same
  · exact absurd before.stop (Nat.not_lt_of_le stops)
  · exact absurd after.start (Nat.not_lt_of_le starts)

/-- No candidate holds two outermost ones. -/
theorem not_cover_of_ascends {a b c : Candidate} (isA : a ∈ outermost source index settings)
    (isB : b ∈ outermost source index settings) (ascends : Candidate.Ascends a b)
    (isCandidate : c ∈ candidates source index settings) (starts : c.definition.start ≤ a.definition.start) :
    ¬ b.definition.stop ≤ c.definition.stop := by
  intro stops
  obtain ⟨k, isKept, earlier, later⟩ := exists_outermost_cover isCandidate
  have starting := ascends.start
  have stopping := ascends.stop
  have isFirst : k = a := eq_of_outermost_cover isKept isA (by omega) (by omega)
  have isSecond : k = b := eq_of_outermost_cover isKept isB (by omega) (by omega)
  rw [← isFirst, isSecond] at starting
  exact Nat.lt_irrefl _ starting

/-- When items have no lines in common, crossing candidates are within the same item. -/
theorem exists_cover_of_apart (apart : (incompleteItems source index settings).Pairwise IncompleteItem.Apart)
    {outer inner : Candidate} (isOuter : outer ∈ candidates source index settings)
    (isInner : inner ∈ candidates source index settings) (crosses : outer.Crosses inner) :
    ∃ c ∈ candidates source index settings,
      c.definition.start ≤ outer.definition.start ∧ inner.definition.stop ≤ c.definition.stop := by
  obtain ⟨k, isKept, starts, stops⟩ := exists_outermost_cover isOuter
  obtain ⟨l, isAlso, alsoStarts, alsoStops⟩ := exists_outermost_cover isInner
  have pairwise := List.pairwise_map.mp apart
  have distinct : k = l ∨ (IncompleteItem.ofCandidate index k).Apart (.ofCandidate index l) := by
    apply List.Pairwise.forall_of_forall_of_flip
      (R := fun a b => a = b ∨ (IncompleteItem.ofCandidate index a).Apart (.ofCandidate index b))
      (fun _ _ => .inl rfl) _ _ isKept isAlso
    · exact pairwise.imp .inr
    · exact pairwise.imp fun order => .inr fun line both => order line ⟨both.2, both.1⟩
  rcases distinct with rfl | disjoint
  · exact ⟨k, mem_candidates_of_outermost isKept, starts, alsoStops⟩
  · have after := crosses.after
    have inside := crosses.inside
    have behind := crosses.behind
    -- both items hold the first line of the inner candidate
    refine absurd ⟨⟨?_, ?_⟩, ?_, ?_⟩ (disjoint inner.definition.start)
    · exact Nat.le_trans starts (Nat.le_of_lt after)
    · exact Nat.lt_of_lt_of_le inside stops
    · exact alsoStarts
    · exact Nat.lt_of_lt_of_le (Nat.lt_trans inside behind) alsoStops

/-- The items of a text hold all its candidates and ascend by their first and by their last lines. Two of them have no
    line in common, unless a marker flags the second that stands behind the block of the first, or the second starts
    within a suspected definition. No two have a line in common exactly when any two candidates that cross are both
    within a third one. -/
theorem incompleteItems_ascend (source : String) (index : Option Index) (settings : Settings) :
    (∀ c ∈ candidates source index settings, ∃ item ∈ incompleteItems source index settings,
      item.start ≤ c.definition.start ∧ c.definition.stop ≤ item.stop) ∧
    ((incompleteItems source index settings).Pairwise fun a b =>
      a.start < b.start ∧ a.stop < b.stop ∧
        (a.Apart b ∨ b.start < a.stop ∧ b.flagged = true ∧
          (a.flagged = true → MarkedBehind (Text.lines source) settings.gapMarker a.start b.start))) ∧
    ((incompleteItems source index settings).Pairwise IncompleteItem.Apart ↔
      ∀ outer ∈ candidates source index settings, ∀ inner ∈ candidates source index settings,
        outer.Crosses inner → ∃ c ∈ candidates source index settings,
          c.definition.start ≤ outer.definition.start ∧ inner.definition.stop ≤ c.definition.stop) := by
  refine ⟨?_, ?_, ?_⟩
  · intro c member
    obtain ⟨k, isKept, covers⟩ := exists_outermost_cover member
    exact ⟨_, List.mem_map.mpr ⟨k, isKept, rfl⟩, covers⟩
  · apply List.pairwise_map.mpr
    apply (outermost_ascend source index settings).imp_of_mem
    intro a b isA isB ascends
    refine ⟨ascends.start, ascends.stop, ?_⟩
    by_cases inside : b.definition.start < a.definition.stop
    · exact .inr ⟨inside, markedBehind_of_overlap (mem_candidates_of_outermost isA)
        (mem_candidates_of_outermost isB) ascends inside⟩
    · left
      rintro line ⟨⟨_, before⟩, after, _⟩
      exact inside (Nat.lt_of_le_of_lt after before)
  · constructor
    · intro apart outer isOuter inner isInner crosses
      exact exists_cover_of_apart apart isOuter isInner crosses
    · intro covered
      apply List.pairwise_map.mpr
      apply (outermost_ascend source index settings).imp_of_mem
      rintro a b isA isB ascends line ⟨⟨_, before⟩, after, _⟩
      have inside : b.definition.start < a.definition.stop := Nat.lt_of_le_of_lt after before
      obtain ⟨c, isCandidate, starts, stops⟩ := covered a (mem_candidates_of_outermost isA) b
        (mem_candidates_of_outermost isB) ⟨ascends.start, inside, ascends.stop⟩
      exact not_cover_of_ascends isA isB ascends isCandidate starts stops

end

/-- A text with a function in a function. The inner one is flagged by a marker behind the outer one, which counts to
    both, and by a second one that counts to the inner one alone. -/
def crossingText : String :=
  "def a():\n    # WARNING: Decompyle incomplete\n    def b():\n        x\n" ++
    "# WARNING: Decompyle incomplete\n# WARNING: Decompyle incomplete\n"

/-- Items can have lines in common. -/
theorem incompleteItems_not_apart :
    ¬ ∀ (source : String) (index : Option Index) (settings : Settings),
      (incompleteItems source index settings).Pairwise IncompleteItem.Apart := by
  intro apart
  have ranges : ((flaggedDefinitions crossingText "# WARNING: Decompyle incomplete").map fun d =>
      (d.start, d.stop)) = [(0, 5), (2, 6)] := by
    decide +kernel
  obtain ⟨a, rest, isList, isA, restRanges⟩ := List.map_eq_cons_iff.mp ranges
  obtain ⟨b, none, rfl, isB, noRanges⟩ := List.map_eq_cons_iff.mp restRanges
  cases List.map_eq_nil_iff.mp noRanges
  have found : candidates crossingText none { } = [⟨a, .missing⟩, ⟨b, .missing⟩] :=
    congrArg (List.map fun d => (⟨d, .missing⟩ : Candidate)) isList
  obtain ⟨aStart, aStop⟩ := Prod.mk.inj isA
  obtain ⟨bStart, bStop⟩ := Prod.mk.inj isB
  have ordered : [(⟨a, .missing⟩ : Candidate), ⟨b, .missing⟩].mergeSort Candidate.le =
      [⟨a, .missing⟩, ⟨b, .missing⟩] := by
    apply List.mergeSort_of_pairwise
    simp [Candidate.le, aStart, bStart]
  have kept : [(⟨a, .missing⟩ : Candidate), ⟨b, .missing⟩].foldl addOutermost [] =
      [⟨a, .missing⟩, ⟨b, .missing⟩] := by
    simp [addOutermost, Definition.covers, aStart, aStop, bStart, bStop]
  have pair := apart crossingText none { }
  rw [incompleteItems, found, ordered, kept, List.map_cons, List.pairwise_cons] at pair
  have disjoint := pair.1 _ List.mem_cons_self 2
  apply disjoint
  simp [IncompleteItem.ofCandidate, aStart, aStop, bStart, bStop]

end SourceRecovery
