/-
Module: SourceRecovery.Proofs.UnfilledGaps
Layer: Proofs
Purpose: What becomes of the marker of a definition that no agent has filled. The lines of a rejected item stay, so its
  marker is still there when the code of the accepted items has been put in, provided that these share no line with
  other items. The report then keeps the marker, unless the text without its marker lines is acceptable source in
  which nothing looks unfinished: markers that are left over are stripped from such a text.
Imports: SourceRecovery.Proofs.AgentGain, SourceRecovery.Proofs.FlaggedLines, SourceRecovery.Proofs.ItemRanges,
  SourceRecovery.Proofs.RecoveryReports
Trusted boundary: none
Main exports: Patch.exists_getElem?_splice, Recovery.Turn, Recovery.exists_turns_recoverItems, Recovery.spliced,
  RecoveryReport.Lists, RecoveryReport.AcceptsApart, recoverDocument_of_listed, contains_spliced
Open obligations: none
-/
import SourceRecovery.Proofs.AgentGain
import SourceRecovery.Proofs.FlaggedLines
import SourceRecovery.Proofs.ItemRanges
import SourceRecovery.Proofs.RecoveryReports

namespace SourceRecovery

/-! ### Lines around a splice -/

/-- A line outside the range that is replaced stays where it is, or is found from the start of the range on. -/
theorem Patch.exists_getElem?_splice {lines : List String} {start stop k : Nat} {line : String} (code : String)
    (found : lines[k]? = some line) (outside : ¬ (start ≤ k ∧ k < stop)) :
    ∃ place, (splice lines start stop code)[place]? = some line ∧ (place = k ∨ min start stop ≤ place) := by
  have inRange : k < lines.length := (List.getElem?_eq_some_iff.mp found).1
  unfold splice
  dsimp only
  by_cases before : k < min start (min stop lines.length)
  · refine ⟨k, ?_, .inl rfl⟩
    rw [List.append_assoc, List.getElem?_append_left (by rw [List.length_take]; omega), List.getElem?_take_of_lt before]
    exact found
  · -- the line stands behind the range, and is moved with all lines there
    have behind : min stop lines.length ≤ k := by omega
    let front := lines.take (min start (min stop lines.length)) ++ Text.split code
    refine ⟨front.length + (k - min stop lines.length), ?_, ?_⟩
    · rw [List.getElem?_append_right (Nat.le_add_right _ _), Nat.add_sub_cancel_left, List.getElem?_drop,
        Nat.add_sub_cancel' behind]
      exact found
    · right
      have longer : min start (min stop lines.length) ≤ front.length := by
        rw [List.length_append, List.length_take]
        omega
      omega

namespace Recovery

/-! ### Turns -/

/-- An item and the answer that has settled it. Without an answer it is rejected. -/
structure Turn where
  item : IncompleteItem
  answer : Option String

namespace Turn

/-- The entry of the item in a report. -/
def entry (turn : Turn) : String × ItemState :=
  (turn.item.name, .afterAnswer turn.answer)

/-- Lines once the item was settled. -/
def apply (lines : List String) (turn : Turn) : List String :=
  applyAnswer turn.item lines turn.answer

/-- The code of an accepted item takes the place of the line. -/
def Replaces (turn : Turn) (line : Nat) : Prop :=
  turn.answer.isSome = true ∧ turn.item.start ≤ line ∧ line < turn.item.stop

/-- Of two accepted items the second stands before the first. -/
def Precedes (later earlier : Turn) : Prop :=
  later.answer.isSome = true → earlier.answer.isSome = true →
    earlier.item.stop ≤ min later.item.start later.item.stop

/-- A line outside the item stays, at its place or from the start of the item on. -/
theorem exists_getElem?_apply {turn : Turn} {lines : List String} {k : Nat} {line : String}
    (found : lines[k]? = some line) (kept : ¬ turn.Replaces k) :
    ∃ place, (turn.apply lines)[place]? = some line ∧
      (place = k ∨ turn.answer.isSome = true ∧ min turn.item.start turn.item.stop ≤ place) := by
  rcases turn with ⟨item, answer⟩
  cases answer with
  | none =>
      exact ⟨k, found, .inl rfl⟩
  | some code =>
      have outside : ¬ (item.start ≤ k ∧ k < item.stop) := fun inside => kept ⟨rfl, inside⟩
      obtain ⟨place, isLine, stays | moved⟩ :=
        Patch.exists_getElem?_splice (Patch.indentBlock code item.indent) found outside
      · exact ⟨place, isLine, .inl stays⟩
      · exact ⟨place, isLine, .inr ⟨rfl, moved⟩⟩

/-- A line that no accepted item takes the place of is left, when items are settled from the last one to the first
    one. -/
theorem mem_foldl_apply {turns : List Turn} {lines : List String} {k : Nat} {line : String}
    (order : turns.Pairwise Precedes) (found : lines[k]? = some line) (kept : ∀ turn ∈ turns, ¬ turn.Replaces k) :
    line ∈ turns.foldl Turn.apply lines := by
  induction turns generalizing lines k with
  | nil =>
      exact List.mem_of_getElem? found
  | cons turn turns ih =>
      obtain ⟨first, order⟩ := List.pairwise_cons.mp order
      obtain ⟨place, isLine, stays | ⟨taken, moved⟩⟩ := exists_getElem?_apply found (kept turn List.mem_cons_self)
      · apply ih order isLine
        intro other member
        rw [stays]
        exact kept other (List.mem_cons_of_mem turn member)
      · -- the other items end before this one starts, and so before the line
        apply ih order isLine
        rintro other member ⟨otherTaken, _, before⟩
        have ends := first other member taken otherTaken
        exact absurd before (Nat.not_lt_of_le (Nat.le_trans ends moved))

end Turn

section

variable {σ : Type} [Source.Grammar] (host : Host σ) (index : Index) (settings : Settings)

/-- Recovery takes one turn for each item. The turns decide the lines and the entries. -/
theorem exists_turns_recoverItems (context : String) (items : List IncompleteItem) (progress : Progress) (s : σ) :
    ∃ turns : List Turn, turns.map Turn.item = items ∧
      let after := ((recoverItems host index settings context items progress).run s).1
      after.lines = turns.foldl Turn.apply progress.lines ∧ after.states = progress.states ++ turns.map Turn.entry := by
  induction items generalizing progress s with
  | nil =>
      exact ⟨[], rfl, rfl, (List.append_nil _).symm⟩
  | cons item items ih =>
      rw [recoverItems]
      cases asked : itemPrompt? item index settings context with
      | none =>
          obtain ⟨turns, isItems, lines, states⟩ := ih (progress.skip item) s
          refine ⟨⟨item, none⟩ :: turns, congrArg (item :: ·) isItems, lines, ?_⟩
          rw [List.map_cons, ← List.singleton_append, ← List.append_assoc]
          exact states
      | some prompt =>
          let answered := (bestResponse host settings.agents prompt).run s
          obtain ⟨turns, isItems, lines, states⟩ := ih (progress.settle item answered.1) answered.2
          refine ⟨⟨item, answered.1⟩ :: turns, congrArg (item :: ·) isItems, lines, ?_⟩
          rw [List.map_cons, ← List.singleton_append, ← List.append_assoc]
          exact states

end

end Recovery

/-! ### Items -/

/-- An item that has no line in common with one before it starts behind that one. -/
theorem IncompleteItem.Apart.stop_le {later earlier : IncompleteItem} (apart : later.Apart earlier)
    (starts : earlier.start < later.start) (stops : earlier.stop < later.stop) : earlier.stop ≤ later.start := by
  apply Nat.le_of_not_lt
  intro inside
  apply apart later.start
  exact ⟨⟨Nat.le_refl _, Nat.lt_trans inside stops⟩, Nat.le_of_lt starts, inside⟩

/-- A flagging marker stands within the lines of its definition. -/
theorem Definition.FlaggedAt.within {lines : List String} {marker : String} {place : Nat} {d : Definition}
    (flagged : FlaggedAt lines marker place d) : d.start < place ∧ place < d.stop := by
  obtain ⟨line, found, _⟩ := flagged.holds
  obtain ⟨header, closest, _⟩ := flagged.closest
  have inRange := (List.getElem?_eq_some_iff.mp found).1
  refine ⟨(headerOfMarker?_eq_some inRange closest).1, ?_⟩
  calc
    place < place + 1 := Nat.lt_succ_self place
    _ ≤ max (Scan.blockEnd lines d.start) (place + 1) := Nat.le_max_right _ _
    _ ≤ Scan.markerEnd lines (max (Scan.blockEnd lines d.start) (place + 1)) marker := Scan.le_markerEnd _
    _ = d.stop := flagged.stop_eq.symm

section

variable [Source.Grammar] {source : String} {index : Index} {settings : Settings}

theorem mem_itemsFromEnd {item : IncompleteItem} :
    item ∈ itemsFromEnd source index settings ↔ item ∈ incompleteItems source (some index) settings :=
  List.mem_mergeSort

/-- From the last item to the first one, first and last lines descend. -/
theorem itemsFromEnd_descend (source : String) (index : Index) (settings : Settings) :
    (itemsFromEnd source index settings).Pairwise fun later earlier =>
      earlier.start < later.start ∧ earlier.stop < later.stop := by
  let Differ (a b : IncompleteItem) : Prop := a.start < b.start ∧ a.stop < b.stop ∨ b.start < a.start ∧ b.stop < a.stop
  have ascend : (incompleteItems source (some index) settings).Pairwise Differ :=
    List.pairwise_map.mpr
      ((outermost_ascend source (some index) settings).imp fun order => .inl ⟨order.start, order.stop⟩)
  have differ : (itemsFromEnd source index settings).Pairwise Differ :=
    ((List.mergeSort_perm _ _).pairwise_iff fun order => order.symm).mpr ascend
  have sorted : (itemsFromEnd source index settings).Pairwise fun a b => decide (b.start ≤ a.start) = true := by
    apply List.pairwise_mergeSort
    · intro a b c first second
      exact decide_eq_true (Nat.le_trans (of_decide_eq_true second) (of_decide_eq_true first))
    · intro a b
      rw [Bool.or_eq_true, decide_eq_true_eq, decide_eq_true_eq]
      exact Nat.le_total b.start a.start
  refine (differ.and sorted).imp ?_
  rintro later earlier ⟨before | after, order⟩
  · exact absurd before.1 (Nat.not_lt_of_le (of_decide_eq_true order))
  · exact after

/-- A flagged item has a line with the marker. -/
theorem exists_markedLine {item : IncompleteItem} (member : item ∈ incompleteItems source (some index) settings)
    (flagged : item.flagged = true) :
    ∃ place line, (Text.lines source)[place]? = some line ∧ Text.contains line settings.gapMarker = true ∧
      item.start ≤ place ∧ place < item.stop := by
  obtain ⟨c, isKept, rfl⟩ := List.mem_map.mp member
  have isCandidate : c ∈ candidates source (some index) settings := mem_candidates_of_outermost isKept
  rcases (candidates_spec source (some index) settings).1 c isCandidate with isFlagged | unflagged
  · obtain ⟨place, flaggedAt⟩ := exists_flaggedAt (definition_of_mem_flaggedCandidates isFlagged).1
    obtain ⟨line, found, holds⟩ := flaggedAt.holds
    exact ⟨place, line, found, holds, Nat.le_of_lt flaggedAt.within.1, flaggedAt.within.2⟩
  · exact absurd flagged (Bool.eq_false_iff.mp unflagged)

end

namespace Recovery

/-! ### Markers that are stripped -/

theorem mem_of_mem_dropNotes {line : String} {lines : List String} (member : line ∈ dropNotes lines) :
    line ∈ lines := by
  induction lines with
  | nil =>
      exact member
  | cons first rest ih =>
      rw [dropNotes] at member
      split at member
      · rcases List.mem_cons.mp member with here | later
        · exact here ▸ List.mem_cons_self
        · exact List.mem_cons_of_mem first (ih later)
      · split at member
        · exact List.mem_cons_of_mem first (ih member)
        · exact member

/-- A text without its marker lines does not contain the marker. -/
theorem not_contains_withoutMarkers (source : String) {marker : String} (nonempty : marker ≠ "")
    (whole : '\n' ∉ marker.toList) : Text.contains (withoutMarkers source marker) marker = false := by
  apply Text.not_contains_join nonempty whole
  intro line member
  have isKept := mem_of_mem_dropNotes (List.mem_reverse.mp member)
  have free := (List.mem_filter.mp (List.mem_reverse.mp isKept)).2
  rwa [Bool.not_eq_true'] at free

section

variable {σ : Type} [Source.Grammar] (host : Host σ) (index : Index) (settings : Settings)

/-- The items of acceptable source are settled one after the other. -/
def settleItems (working : String) (taken : Nat) : StateM σ Progress :=
  recoverItems host index settings (Scan.importContext working settings.contextLines)
    (itemsFromEnd working index settings) { lines := Text.split working, recovered := taken, states := [] }

/-- The items of a text when all of them are settled, with the text mended first if it had to be. -/
def settled (source : String) (s : σ) : Progress :=
  let mended := (mend host index settings source).run s
  ((settleItems host index settings (mended.1.getD source) (if mended.1.isSome then 1 else 0)).run mended.2).1

/-- The text with the code of the accepted items. -/
def spliced (source : String) (s : σ) : String :=
  Text.join (settled host index settings source s).lines

end

end Recovery

open Recovery

/-! ### Reports that list items -/

/-- The item of the given number has an entry in the report, and has ended in the state. -/
structure RecoveryReport.Lists (report : RecoveryReport) (items : List IncompleteItem) (number : Nat)
    (item : IncompleteItem) (state : ItemState) : Prop where
  isItem : items[number]? = some item
  isEntry : report.items[number]? = some (item.name, state)

theorem RecoveryReport.Lists.items_ne_nil {report : RecoveryReport} {items : List IncompleteItem} {number : Nat}
    {item : IncompleteItem} {state : ItemState} (lists : report.Lists items number item state) : report.items ≠ [] := by
  intro noItems
  have isEntry := lists.isEntry
  rw [noItems] at isEntry
  cases isEntry

/-- The accepted items of a report have no line in common with other items. -/
def RecoveryReport.AcceptsApart (report : RecoveryReport) (items : List IncompleteItem) : Prop :=
  ∀ i j a b, i ≠ j → report.Lists items i a .accepted → items[j]? = some b → a.Apart b

/-- The items and the entries of a report are those of the turns. -/
structure RecoveryReport.TakesTurns (report : RecoveryReport) (items : List IncompleteItem) (turns : List Turn) :
    Prop where
  items : turns.map Turn.item = items
  entries : report.items = turns.map Turn.entry

namespace RecoveryReport.TakesTurns

variable {report : RecoveryReport} {items : List IncompleteItem} {turns : List Turn}

/-- A turn with an answer is that of an accepted item. -/
theorem lists_of_isSome (takes : report.TakesTurns items turns) {number : Nat} {turn : Turn}
    (isTurn : turns[number]? = some turn) (answered : turn.answer.isSome = true) :
    report.Lists items number turn.item .accepted := by
  obtain ⟨code, isCode⟩ := Option.isSome_iff_exists.mp answered
  constructor
  · rw [← takes.items, List.getElem?_map, isTurn, Option.map_some]
  · rw [takes.entries, List.getElem?_map, isTurn, Option.map_some, Turn.entry, isCode, ItemState.afterAnswer]

/-- Accepted items that have no line in common are settled from the last one to the first one. -/
theorem precedes (takes : report.TakesTurns items turns) (apart : report.AcceptsApart items)
    (descend : items.Pairwise fun later earlier => earlier.start < later.start ∧ earlier.stop < later.stop) :
    turns.Pairwise Turn.Precedes := by
  rw [← takes.items, List.pairwise_map, List.pairwise_iff_getElem] at descend
  rw [List.pairwise_iff_getElem]
  intro i j inRange alsoInRange order taken _
  have isLater := takes.lists_of_isSome (List.getElem?_eq_getElem inRange) taken
  have isEarlier : items[j]? = some turns[j].item := by
    rw [← takes.items, List.getElem?_map, List.getElem?_eq_getElem alsoInRange, Option.map_some]
  obtain ⟨starts, stops⟩ := descend i j inRange alsoInRange order
  have disjoint := apart i j _ _ (Nat.ne_of_lt order) isLater isEarlier
  exact Nat.le_min.mpr ⟨disjoint.stop_le starts stops, Nat.le_of_lt stops⟩

/-- No accepted item takes the place of a line of a rejected item. -/
theorem not_replaces (takes : report.TakesTurns items turns) (apart : report.AcceptsApart items) {number place : Nat}
    {item : IncompleteItem} (rejected : report.Lists items number item .rejected)
    (within : item.start ≤ place ∧ place < item.stop) : ∀ turn ∈ turns, ¬ turn.Replaces place := by
  rintro turn member ⟨taken, inside⟩
  obtain ⟨i, isTurn⟩ := List.getElem?_of_mem member
  have accepted := takes.lists_of_isSome isTurn taken
  by_cases same : i = number
  · rw [same] at accepted
    have states := accepted.isEntry.symm.trans rejected.isEntry
    cases congrArg (Option.map Prod.snd) states
  · exact apart i number turn.item item same accepted rejected.isItem place ⟨inside, within⟩

end RecoveryReport.TakesTurns

section

variable {σ : Type} [Source.Grammar] (host : Host σ) (index : Index) (settings : Settings)

/-- The report of a text with items is about all of them. -/
theorem recoverWorking_of_cons (source : String) {working : String} {item : IncompleteItem}
    {items : List IncompleteItem} (found : itemsFromEnd working index settings = item :: items) (taken : Nat) (s : σ) :
    ((recoverWorking host index settings source working taken).run s).1 =
      commit source index settings ((settleItems host index settings working taken).run s).1 := by
  rw [recoverWorking, settleItems, found]
  rfl

/-- A report that lists items has the text with the accepted code, without its markers where they are left over. -/
theorem recoverWorking_of_listed (source : String) {working : String} (valid : Source.isValid working = true)
    (taken : Nat) (s : σ) (listed : ((recoverWorking host index settings source working taken).run s).1.items ≠ []) :
    let report := ((recoverWorking host index settings source working taken).run s).1
    let progress := ((settleItems host index settings working taken).run s).1
    report.source = stripLeftoverMarkers (Text.join progress.lines) index settings ∧
      report.items = progress.states := by
  cases found : itemsFromEnd working index settings with
  | nil =>
      rw [recoverWorking, found] at listed
      have noItems := (recoverMarked_settles host index settings valid taken s).ends
      exact absurd (List.forall₂_nil_left_iff.mp noItems) listed
  | cons item items =>
      rw [recoverWorking_of_cons host index settings source found, commit] at listed ⊢
      dsimp only
      split
      · exact ⟨rfl, rfl⟩
      case isFalse refused =>
          rw [if_neg refused] at listed
          exact absurd rfl listed

theorem recoverDocument_of_listed (source : String) (s : σ)
    (listed : ((recoverDocument host source index settings).run s).1.items ≠ []) :
    let report := ((recoverDocument host source index settings).run s).1
    report.source = stripLeftoverMarkers (spliced host index settings source s) index settings ∧
      report.items = (settled host index settings source s).states := by
  unfold spliced settled
  rw [recoverDocument_eq_mend_bind, Run.run_bind] at listed ⊢
  dsimp only
  cases taken : ((mend host index settings source).run s).1 with
  | some mended =>
      rw [taken] at listed
      exact recoverWorking_of_listed host index settings source (isValid_of_mend host index settings taken) 1 _ listed
  | none =>
      rw [taken, recoverMended] at listed
      rw [recoverMended]
      split at listed
      case isTrue valid =>
        rw [if_pos valid]
        exact recoverWorking_of_listed host index settings source valid 0 _ listed
      case isFalse invalid =>
        rcases replaceDocument_cases host index settings source ((mend host index settings source).run s).2 with
          givenUp | ⟨_, noItems⟩
        · rw [givenUp] at listed
          exact absurd rfl listed
        · exact absurd noItems listed

/-- A report that lists items goes by the turns of the recovery, and so do the lines. -/
theorem exists_takesTurns (source : String) (s : σ)
    (listed : ((recoverDocument host source index settings).run s).1.items ≠ []) :
    let report := ((recoverDocument host source index settings).run s).1
    let working := ((mend host index settings source).run s).1.getD source
    ∃ turns, report.TakesTurns (itemsFromEnd working index settings) turns ∧
      (settled host index settings source s).lines = turns.foldl Turn.apply (Text.split working) := by
  intro report working
  obtain ⟨_, isEntries⟩ := recoverDocument_of_listed host index settings source s listed
  obtain ⟨turns, isItems, isLines, states⟩ := exists_turns_recoverItems host index settings
    (Scan.importContext working settings.contextLines) (itemsFromEnd working index settings)
    { lines := Text.split working
      recovered := if ((mend host index settings source).run s).1.isSome then 1 else 0
      states := [] } ((mend host index settings source).run s).2
  exact ⟨turns, ⟨isItems, isEntries.trans states⟩, isLines⟩

/-- The marker of a rejected item is left when the code of the accepted items has been put in. -/
theorem contains_spliced (source : String) (s : σ) {number : Nat} {item : IncompleteItem} :
    let report := ((recoverDocument host source index settings).run s).1
    let items := itemsFromEnd (((mend host index settings source).run s).1.getD source) index settings
    report.Lists items number item .rejected → item.flagged = true → report.AcceptsApart items →
      '\n' ∉ settings.gapMarker.toList ∧
        Text.contains (spliced host index settings source s) settings.gapMarker = true := by
  intro report items rejected flagged apart
  obtain ⟨turns, takes, isLines⟩ := exists_takesTurns host index settings source s rejected.items_ne_nil
  have isItem := mem_itemsFromEnd.mp (List.mem_of_getElem? rejected.isItem)
  obtain ⟨place, line, found, holds, within⟩ := exists_markedLine isItem flagged
  obtain ⟨whole, piece, isPiece, inPiece⟩ := Text.exists_piece_of_line found holds
  refine ⟨whole, Text.contains_join ?_ inPiece⟩
  rw [isLines]
  apply Turn.mem_foldl_apply (takes.precedes apart (itemsFromEnd_descend _ index settings)) isPiece
  exact takes.not_replaces apart rejected within

/-- Stripping takes the marker from a text exactly when what is left is acceptable source in which nothing looks
    unfinished. -/
theorem not_contains_stripLeftoverMarkers_iff {source : String} (whole : '\n' ∉ settings.gapMarker.toList)
    (marked : Text.contains source settings.gapMarker = true) :
    let stripped := withoutMarkers source settings.gapMarker
    Text.contains (stripLeftoverMarkers source index settings) settings.gapMarker = false ↔ settings.gapMarker ≠ "" ∧
      Source.isValid stripped = true ∧ hasSuspectedStubs stripped index settings = false := by
  intro stripped
  rw [stripLeftoverMarkers, if_pos marked]
  dsimp only
  constructor
  · intro gone
    refine ⟨?_, ?_⟩
    · intro empty
      rw [empty, Text.contains_empty] at gone
      cases gone
    · split at gone
      case isTrue accepted =>
          rwa [Bool.and_eq_true, Bool.not_eq_true'] at accepted
      case isFalse =>
          rw [marked] at gone
          cases gone
  · rintro ⟨nonempty, valid, finished⟩
    rw [valid, finished]
    exact not_contains_withoutMarkers source nonempty whole

/-- Acceptable source is not mended. -/
theorem mend_of_isValid {source : String} (valid : Source.isValid source = true) (s : σ) :
    ((mend host index settings source).run s).1 = none := by
  rw [mend]
  cases checked : Source.check source with
  | ok tree =>
      rfl
  | error problem =>
      rw [Source.isValid, checked] at valid
      cases valid

omit [Source.Grammar] in
theorem Outcome.gaps_of_isComplete {outcome : Outcome} (complete : outcome.isComplete = true) : outcome.gaps = 0 := by
  rw [Outcome.isComplete, Bool.and_eq_true, beq_iff_eq] at complete
  exact complete.1

/-- A text with a marker has gaps. -/
theorem countGaps_ne_zero_of_contains {source : String} (marked : Text.contains source settings.gapMarker = true) :
    countGaps source (some index) settings ≠ 0 := by
  intro none
  rw [(finishedText_of_countGaps_eq_zero none).unmarked] at marked
  cases marked

/-- An outcome whose gaps were counted is not complete when its text, or the text mended from it, has a flagged item
    and the report keeps a marker. -/
theorem isComplete_recover_of_marked {outcome : Outcome} {item : IncompleteItem} (s : σ)
    (counted : outcome.gaps = countGaps outcome.source (some index) settings)
    (isItem : item ∈ incompleteItems (((mend host index settings outcome.source).run s).1.getD outcome.source)
      (some index) settings) (flagged : item.flagged = true)
    (marked : Text.contains ((recoverDocument host outcome.source index settings).run s).1.source settings.gapMarker =
      true) : ((recover host outcome index settings).run s).1.isComplete = false := by
  rw [Bool.eq_false_iff]
  intro complete
  have noGaps := Outcome.gaps_of_isComplete complete
  rcases recover_cases host index settings outcome s with kept | ⟨isText, _, _, _, _, isCount⟩
  · -- a text without gaps is not mended, and has no flagged item
    rw [kept, counted] at noGaps
    have finished := finishedText_of_countGaps_eq_zero noGaps
    rw [mend_of_isValid host index settings finished.valid s, Option.getD_none] at isItem
    obtain ⟨_, line, found, holds, _⟩ := exists_markedLine isItem flagged
    have holdsMarker := Text.contains_of_mem_lines (List.mem_of_getElem? found) holds
    rw [finished.unmarked] at holdsMarker
    cases holdsMarker
  · rw [isCount, isText] at noGaps
    exact countGaps_ne_zero_of_contains index settings marked noGaps

/-- The marker of a flagged item that was rejected is left when the code of the accepted items has been put in, if
    these have no line in common with other items. The report has that text, or the same without the marker lines and
    the notes at its end when this is acceptable source in which nothing looks unfinished; only then is the marker gone.
    While it is there the text has gaps, and an outcome whose gaps were counted does not become complete. -/
theorem recoverDocument_marked (source : String) (s : σ) (number : Nat) (item : IncompleteItem) :
    let report := ((recoverDocument host source index settings).run s).1
    let items := itemsFromEnd (((mend host index settings source).run s).1.getD source) index settings
    let text := spliced host index settings source s
    let stripped := withoutMarkers text settings.gapMarker
    report.Lists items number item .rejected → item.flagged = true → report.AcceptsApart items →
    Text.contains text settings.gapMarker = true ∧
    report.source =
      (if Source.isValid stripped && !hasSuspectedStubs stripped index settings then stripped else text) ∧
    (Text.contains report.source settings.gapMarker = false ↔ settings.gapMarker ≠ "" ∧
      Source.isValid stripped = true ∧ hasSuspectedStubs stripped index settings = false) ∧
    (Text.contains report.source settings.gapMarker = true →
      1 ≤ countGaps report.source (some index) settings ∧
      ∀ outcome : Outcome, outcome.source = source → outcome.gaps = countGaps source (some index) settings →
        ((recover host outcome index settings).run s).1.isComplete = false) := by
  intro report items text stripped rejected flagged apart
  obtain ⟨whole, marked⟩ := contains_spliced host index settings source s rejected flagged apart
  have isText := (recoverDocument_of_listed host index settings source s rejected.items_ne_nil).1
  refine ⟨marked, isText.trans (if_pos marked), ?_, ?_⟩
  · rw [isText]
    exact not_contains_stripLeftoverMarkers_iff index settings whole marked
  · intro left
    refine ⟨Nat.one_le_iff_ne_zero.mpr (countGaps_ne_zero_of_contains index settings left), ?_⟩
    rintro outcome rfl counted
    have isItem := mem_itemsFromEnd.mp (List.mem_of_getElem? rejected.isItem)
    exact isComplete_recover_of_marked host index settings s counted isItem flagged left

end

/-- A class and a function, each with a marker. -/
def gappedPair : String :=
  "class A:\n  x = 1\n  # gap\ndef g():\n  y = 1\n  # gap\n"

/-- Bytecode that knows neither of them. -/
def bareIndex : Index :=
  Index.ofModule { version := ⟨3, 8⟩, units := [CodeUnit.empty "m" ⟨3, 8⟩], root := 0 }

/-- The function, about which nothing can be asked. -/
def functionCandidate : Candidate where
  definition :=
    { name := "g"
      kind := .function
      start := 3
      stop := 6
      indent := 0
      enclosing := none
      header := "def g()"
      bases := []
      flagged := true
      placeholder := false }
  resolution := .missing

/-- The class. -/
def classCandidate : Candidate where
  definition :=
    { functionCandidate.definition with name := "A", kind := .cls, start := 0, stop := 3, header := "class A" }
  resolution := .missing

/-- The item of the function. -/
def gappedFunction : IncompleteItem :=
  .ofCandidate (some bareIndex) functionCandidate

/-- The item of the class. -/
def gappedClass : IncompleteItem :=
  .ofCandidate (some bareIndex) classCandidate

/-- Two entries are sorted by one comparison. -/
theorem mergeSort_pair {α : Type} (le : α → α → Bool) (a b : α) :
    [a, b].mergeSort le = if le a b then [a, b] else [b, a] := by
  simp [List.mergeSort, List.merge]

theorem candidates_gappedPair :
    candidates gappedPair (some bareIndex) onePair = [classCandidate, functionCandidate] := by
  decide +kernel

theorem itemsFromEnd_gappedPair : itemsFromEnd gappedPair bareIndex onePair = [gappedFunction, gappedClass] := by
  have kept : [classCandidate, functionCandidate].foldl addOutermost [] = [classCandidate, functionCandidate] := by
    decide
  have items : incompleteItems gappedPair (some bareIndex) onePair = [gappedClass, gappedFunction] := by
    rw [incompleteItems, candidates_gappedPair, mergeSort_pair, if_pos (by decide), kept]
    rfl
  rw [itemsFromEnd, items, mergeSort_pair]
  exact if_neg (by decide)

theorem isValid_gappedPair : Source.isValid gappedPair = true := by
  decide +kernel

/-- An agent that always gives one reply. -/
def replying (reply : String) : Host Unit :=
  Host.fixed (gappedClassAnd reply)

theorem itemsFromEnd_mend_gappedPair (reply : String) :
    itemsFromEnd (((mend (replying reply) bareIndex onePair gappedPair).run ()).1.getD gappedPair) bareIndex onePair =
      [gappedFunction, gappedClass] := by
  rw [mend_of_isValid _ _ _ isValid_gappedPair, Option.getD_none, itemsFromEnd_gappedPair]

/-- The report goes by the two items. -/
theorem recoverDocument_gappedPair (reply : String) :
    ((recoverDocument (replying reply) gappedPair bareIndex onePair).run ()).1 =
      commit gappedPair bareIndex onePair ((recoverItems (replying reply) bareIndex onePair
        (Scan.importContext gappedPair onePair.contextLines) [gappedFunction, gappedClass]
        { lines := Text.split gappedPair, recovered := 0, states := [] }).run ()).1 := by
  rw [recoverDocument_eq_mend_bind, Run.run_bind, mend_of_isValid _ _ _ isValid_gappedPair, recoverMended,
    if_pos isValid_gappedPair, recoverWorking_of_cons _ _ _ _ itemsFromEnd_gappedPair, settleItems,
    itemsFromEnd_gappedPair]

/-- The report of the two items when the agent gives code for the class. -/
def pairReport (text : String) : RecoveryReport where
  source := text
  recovered := 1
  items := [("g", .rejected), ("A", .accepted)]

theorem lists_gappedFunction (text : String) :
    (pairReport text).Lists [gappedFunction, gappedClass] 0 gappedFunction .rejected :=
  ⟨rfl, rfl⟩

theorem acceptsApart_pairReport (text : String) : (pairReport text).AcceptsApart [gappedFunction, gappedClass] := by
  intro i j a b distinct accepted found
  match i, j with
  | 0, _ =>
      cases congrArg (Option.map Prod.snd) accepted.isEntry
  | 1, 0 =>
      cases accepted.isItem
      cases found
      rintro line ⟨⟨_, before⟩, after, _⟩
      exact absurd (Nat.lt_of_le_of_lt after before) (Nat.lt_irrefl 3)
  | 1, 1 =>
      exact absurd rfl distinct
  | 1, _ + 2 =>
      cases found
  | _ + 2, _ =>
      cases accepted.isItem

/-- The text when the agent answers with markers of its own. -/
def remarkedPair : String :=
  "class A:\n  x = 1 # gap\n  y = 2 # gap\ndef g():\n  y = 1\n  # gap\n"

set_option maxRecDepth 4000 in
theorem recoverDocument_remarkedPair :
    ((recoverDocument (replying gappedReply) gappedPair bareIndex onePair).run ()).1 = pairReport remarkedPair := by
  rw [recoverDocument_gappedPair]
  decide +kernel

/-- Without its marker lines the class would have no body, so the marker of the function stays. -/
theorem recoverDocument_marked_gappedPair :
    let host := replying gappedReply
    let report := ((recoverDocument host gappedPair bareIndex onePair).run ()).1
    let items := itemsFromEnd (((mend host bareIndex onePair gappedPair).run ()).1.getD gappedPair) bareIndex onePair
    let outcome : Outcome := { source := gappedPair, backend := "pycdc", gaps := 2 }
    (report.Lists items 0 gappedFunction .rejected ∧ gappedFunction.flagged = true ∧ report.AcceptsApart items) ∧
      Text.contains report.source onePair.gapMarker = true ∧ 1 ≤ countGaps report.source (some bareIndex) onePair ∧
      ((recover host outcome bareIndex onePair).run ()).1.isComplete = false := by
  intro host report items outcome
  have isReport : report = pairReport remarkedPair := recoverDocument_remarkedPair
  have isItems : items = [gappedFunction, gappedClass] := itemsFromEnd_mend_gappedPair gappedReply
  have lists : report.Lists items 0 gappedFunction .rejected := by
    rw [isReport, isItems]
    exact lists_gappedFunction remarkedPair
  have apart : report.AcceptsApart items := by
    rw [isReport, isItems]
    exact acceptsApart_pairReport remarkedPair
  have left : Text.contains report.source onePair.gapMarker = true := by
    rw [isReport]
    decide +kernel
  have counted : outcome.gaps = countGaps gappedPair (some bareIndex) onePair := by
    unfold outcome
    decide +kernel
  obtain ⟨gaps, incomplete⟩ :=
    (recoverDocument_marked host bareIndex onePair gappedPair () 0 gappedFunction lists rfl apart).2.2.2 left
  exact ⟨⟨lists, rfl, apart⟩, left, gaps, incomplete outcome rfl counted⟩

/-- The text when the agent fills the gap of the class: the marker of the function goes too. -/
def strippedPair : String :=
  "class A:\n  x = 2\ndef g():\n  y = 1\n"

set_option maxRecDepth 4000 in
theorem recoverDocument_strippedPair :
    ((recoverDocument (replying fillingReply) gappedPair bareIndex onePair).run ()).1 = pairReport strippedPair := by
  rw [recoverDocument_gappedPair]
  decide +kernel

/-- The marker of a rejected item can be stripped, although the item is not filled. -/
theorem recoverDocument_not_marked :
    ¬ ∀ (host : Host Unit) (source : String) (index : Index) (settings : Settings) (number : Nat)
      (item : IncompleteItem),
      let report := ((recoverDocument host source index settings).run ()).1
      let items := itemsFromEnd (((mend host index settings source).run ()).1.getD source) index settings
      report.Lists items number item .rejected → item.flagged = true →
        Text.contains report.source settings.gapMarker = true := by
  intro marked
  have left := marked (replying fillingReply) gappedPair bareIndex onePair 0 gappedFunction
  dsimp only at left
  rw [recoverDocument_strippedPair, itemsFromEnd_mend_gappedPair] at left
  have gone : Text.contains (pairReport strippedPair).source onePair.gapMarker = false := by
    decide +kernel
  rw [gone] at left
  cases left (lists_gappedFunction strippedPair) rfl

end SourceRecovery
