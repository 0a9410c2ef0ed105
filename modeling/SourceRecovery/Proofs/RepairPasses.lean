/-
Module: SourceRecovery.Proofs.RepairPasses
Layer: Proofs
Purpose: What repair makes of an outcome, and of its own result. A patch is accepted when it changes the text and adds
  no gap, and only then the outcome is a new one that names the stage. A second pass finds the stubs and constants of
  the first one in the text: it changes nothing when every stub is in its place and every constant is bound. It can
  change the text all the same, since it finds the unit of a stub by name, where the first pass took a member of a
  class.
Imports: SourceRecovery.Repair.Basic, SourceRecovery.Proofs.RecoveredStores
Trusted boundary: none
Main exports: Repair.Accepts, repair_outcome, Repair.InPlace, Repair.BindsAdded, repair_repair_source,
  repair_not_idempotent
Open obligations: none
-/
import SourceRecovery.Repair.Basic
import SourceRecovery.Proofs.RecoveredStores

namespace SourceRecovery

section

variable [Source.Grammar] {outcome : Outcome} {index : Index} {settings : Settings}

/-! ### Accepted patches -/

/-- The patch of a text is accepted: there is a text, the patch changes it, and it adds no gap. -/
structure Repair.Accepts (source : String) (index : Index) (settings : Settings) : Prop where
  text : Text.isBlankText source = false
  changes : patched source index settings ≠ source
  gaps : countGaps (patched source index settings) (some index) settings ≤ countGaps source (some index) settings

/-- A patch is not accepted when there is no text, when it changes nothing, or when it adds gaps. -/
theorem Repair.not_accepts_iff {source : String} :
    ¬ Accepts source index settings ↔
      Text.isBlankText source = true ∨ patched source index settings = source ∨
        countGaps source (some index) settings < countGaps (patched source index settings) (some index) settings := by
  constructor
  · intro refused
    cases isBlank : Text.isBlankText source with
    | true =>
        exact .inl rfl
    | false =>
        right
        by_cases same : patched source index settings = source
        · exact .inl same
        · right
          apply Nat.lt_of_not_le
          exact fun noMore => refused ⟨isBlank, same, noMore⟩
  · rintro (isBlank | same | more) ⟨text, changes, gaps⟩
    · rw [isBlank] at text
      cases text
    · exact changes same
    · exact Nat.not_lt_of_le gaps more

theorem repair_of_accepts (accepts : Repair.Accepts outcome.source index settings) :
    repair outcome index settings = outcome.withStage Repair.stage (Repair.patched outcome.source index settings)
      (countGaps (Repair.patched outcome.source index settings) (some index) settings) := by
  have hasText : outcome.hasSource = true := by
    rw [Outcome.hasSource, accepts.text]
    rfl
  unfold repair
  rw [if_pos hasText]
  apply if_pos
  rw [Bool.and_eq_true, Bool.or_eq_true, decide_eq_true_eq, bne_iff_ne]
  exact ⟨accepts.gaps, .inr accepts.changes⟩

theorem repair_source_of_accepts (accepts : Repair.Accepts outcome.source index settings) :
    (repair outcome index settings).source = Repair.patched outcome.source index settings := by
  rw [repair_of_accepts accepts]
  rfl

/-- A patch that is not accepted leaves the outcome as it is. -/
theorem repair_of_not_accepts (refused : ¬ Repair.Accepts outcome.source index settings) :
    repair outcome index settings = outcome := by
  unfold repair
  split
  case isFalse =>
      rfl
  case isTrue hasText =>
      apply if_neg
      rw [Bool.and_eq_true, Bool.or_eq_true, decide_eq_true_eq, decide_eq_true_eq, bne_iff_ne]
      rintro ⟨noMore, better⟩
      apply refused
      refine ⟨?_, ?_, noMore⟩
      · rwa [Outcome.hasSource, Bool.not_eq_true'] at hasText
      · -- a text with fewer gaps is another text
        rcases better with fewer | changes
        · intro same
          rw [same] at fewer
          exact Nat.lt_irrefl _ fewer
        · exact changes

/-- Repair changes the text exactly when the patch is accepted. -/
theorem repair_source_ne_iff :
    (repair outcome index settings).source ≠ outcome.source ↔ Repair.Accepts outcome.source index settings := by
  constructor
  · intro changed
    by_cases accepts : Repair.Accepts outcome.source index settings
    · exact accepts
    · rw [repair_of_not_accepts accepts] at changed
      exact absurd rfl changed
  · intro accepts
    rw [repair_source_of_accepts accepts]
    exact accepts.changes

omit [Source.Grammar] in
/-- Naming a stage changes the backend. -/
theorem append_stage_ne (backend : String) : backend ≠ backend ++ "+bytecode" := by
  intro same
  have lengths := congrArg String.length same
  rw [String.length_append] at lengths
  exact absurd lengths (by simp [show "+bytecode".length = 9 from rfl])

/-- Repair leaves an outcome as it is, or makes a new one with another text, the stage behind the backend, no error
    and the gaps of the new text, of which there are no more than before. So the stage is named exactly when the text
    has changed, which is when the patch is accepted. -/
theorem repair_outcome (counted : outcome.gaps = countGaps outcome.source (some index) settings) :
    let repaired := repair outcome index settings
    (repaired = outcome ∨
      (repaired.source ≠ outcome.source ∧ repaired.backend = outcome.backend ++ "+bytecode" ∧ repaired.error = none ∧
        repaired.gaps = countGaps repaired.source (some index) settings ∧ repaired.gaps ≤ outcome.gaps)) ∧
    (repaired.backend = outcome.backend ++ "+bytecode" ↔ repaired.source ≠ outcome.source) ∧
    (repaired.source ≠ outcome.source ↔ Repair.Accepts outcome.source index settings) ∧
    repaired.gaps ≤ outcome.gaps := by
  intro repaired
  by_cases accepts : Repair.Accepts outcome.source index settings
  · have isNew : repaired = outcome.withStage Repair.stage _ _ := repair_of_accepts accepts
    have backend : repaired.backend = outcome.backend ++ "+bytecode" := by
      rw [isNew]
      exact String.append_assoc
    have changed : repaired.source ≠ outcome.source := repair_source_ne_iff.mpr accepts
    have gaps : repaired.gaps ≤ outcome.gaps := by
      rw [isNew, counted]
      exact accepts.gaps
    have countsAgain : repaired.gaps = countGaps repaired.source (some index) settings := by
      rw [isNew]
      rfl
    have noError : repaired.error = none := by
      rw [isNew]
      rfl
    exact ⟨.inr ⟨changed, backend, noError, countsAgain, gaps⟩, ⟨fun _ => changed, fun _ => backend⟩,
      repair_source_ne_iff, gaps⟩
  · have same : repaired = outcome := repair_of_not_accepts accepts
    refine ⟨.inl same, ?_, repair_source_ne_iff, ?_⟩
    · rw [same]
      exact ⟨fun absurd => (append_stage_ne _ absurd).elim, fun absurd => (absurd rfl).elim⟩
    · exact Nat.le_of_eq (congrArg Outcome.gaps same)

end

/-- A module with a class and a function. The names in the body of the class include that of the function. -/
def namesakes : CompiledModule where
  version := ⟨3, 11⟩
  units :=
    [{ CodeUnit.empty "W" ⟨3, 11⟩ with names := ["f"] },
      { CodeUnit.empty "f" ⟨3, 11⟩ with argCount := 1, varNames := ["a"], names := ["g"] },
      { CodeUnit.empty "<module>" ⟨3, 11⟩ with children := [0, 1] }]
  root := 2

/-- A text with a class that a decompiler left empty. -/
def bareClass : Outcome where
  source := "class W:\n    pass\n"
  backend := "pycdc"
  gaps := 1

/-- The class with a stub for its one name. -/
def stubbedClass : String :=
  "class W(object):\n    def f(self):\n        pass  # TODO: Reconstruct\n"

theorem countGaps_bareClass : countGaps bareClass.source (some (Index.ofModule namesakes)) { } = 1 := by
  decide +kernel

theorem countGaps_stubbedClass : countGaps stubbedClass (some (Index.ofModule namesakes)) { } = 0 := by
  decide +kernel

theorem patched_bareClass : Repair.patched bareClass.source (Index.ofModule namesakes) { } = stubbedClass := by
  decide +kernel

theorem accepts_bareClass : Repair.Accepts bareClass.source (Index.ofModule namesakes) { } := by
  refine ⟨rfl, ?_, ?_⟩
  · rw [patched_bareClass]
    decide
  · rw [patched_bareClass, countGaps_stubbedClass, countGaps_bareClass]
    decide

theorem repair_outcome_bareClass :
    bareClass.gaps = countGaps bareClass.source (some (Index.ofModule namesakes)) { } ∧
      let repaired := repair bareClass (Index.ofModule namesakes) { }
      (repaired = bareClass ∨
        (repaired.source ≠ bareClass.source ∧ repaired.backend = bareClass.backend ++ "+bytecode" ∧
          repaired.error = none ∧
          repaired.gaps = countGaps repaired.source (some (Index.ofModule namesakes)) { } ∧
          repaired.gaps ≤ bareClass.gaps)) ∧
      (repaired.backend = bareClass.backend ++ "+bytecode" ↔ repaired.source ≠ bareClass.source) ∧
      (repaired.source ≠ bareClass.source ↔ Repair.Accepts bareClass.source (Index.ofModule namesakes) { }) ∧
      repaired.gaps ≤ bareClass.gaps :=
  ⟨countGaps_bareClass.symm, repair_outcome countGaps_bareClass.symm⟩

section

variable [Source.Grammar] {outcome : Outcome} {index : Index} {settings : Settings}

/-! ### Stubs in their place -/

namespace Repair

/-- Every unfinished definition of a text whose unit is known reads as its stub. -/
def InPlace (source : String) (index : Index) (settings : Settings) : Prop :=
  ∀ item ∈ incompleteItems source (some index) settings, ∀ stub ∈ Stub.build? item index settings,
    ((Text.split source).take item.stop).drop item.start = Text.split stub

omit [Source.Grammar] in
/-- A range that is replaced by its own lines stays. -/
theorem splice_self {lines : List String} {start stop : Nat} {replacement : String}
    (same : (lines.take stop).drop start = Text.split replacement) :
    Patch.splice lines start stop replacement = lines := by
  have nonempty : Text.split replacement ≠ [] := by
    rw [Text.split, ne_eq, List.map_eq_nil_iff]
    exact List.splitOn_ne_nil _ _
  have inside : start < min stop lines.length := by
    rw [← same, ne_eq, List.drop_eq_nil_iff, List.length_take] at nonempty
    exact Nat.lt_of_not_le nonempty
  have early : lines.take start = (lines.take stop).take start := by
    rw [List.take_take, Nat.min_eq_left (by omega)]
  have late : lines.drop (min stop lines.length) = lines.drop stop := by
    rcases Nat.le_total stop lines.length with within | beyond
    · rw [Nat.min_eq_left within]
    · rw [Nat.min_eq_right beyond, List.drop_length, List.drop_eq_nil_of_le beyond]
  unfold Patch.splice
  dsimp only
  rw [Nat.min_eq_left (Nat.le_of_lt inside), ← same, early, List.take_append_drop, late, List.take_append_drop]

omit [Source.Grammar] in
/-- The pieces of a text put together are the text. -/
theorem join_split (source : String) : Text.join (Text.split source) = source := by
  have chars : (String.toList ∘ String.ofList) = id := by
    funext cs
    exact String.toList_ofList
  rw [Text.join, Text.split, List.map_map, chars, List.map_id, List.intercalate_splitOn, String.ofList_toList]

/-- An item that reads as its stub is replaced by the same lines. -/
theorem stubItem_of_inPlace {source : String} {item : IncompleteItem} (inPlace : InPlace source index settings)
    (member : item ∈ incompleteItems source (some index) settings) :
    stubItem index settings (Text.split source) item = Text.split source := by
  unfold stubItem
  cases isStub : Stub.build? item index settings with
  | none =>
      rfl
  | some stub =>
      exact splice_self (inPlace item member stub isStub)

/-- Stubs that are in their place change nothing. -/
theorem stubbed_of_inPlace {source : String} (inPlace : InPlace source index settings) :
    stubbed source index settings = source := by
  have stays : ∀ items : List IncompleteItem, (∀ item ∈ items, item ∈ incompleteItems source (some index) settings) →
      items.foldl (stubItem index settings) (Text.split source) = Text.split source := by
    intro items known
    induction items with
    | nil =>
        rfl
    | cons item items ih =>
        obtain ⟨isKnown, restKnown⟩ := List.forall_mem_cons.mp known
        rw [List.foldl_cons, stubItem_of_inPlace inPlace isKnown]
        exact ih restKnown
  have known : ∀ item ∈ itemsFromEnd source index settings, item ∈ incompleteItems source (some index) settings :=
    fun item member => List.mem_mergeSort.mp member
  rw [stubbed, stays _ known, join_split]

/-! ### Constants that are bound -/

/-- The constants that a pass adds to a text, by name. -/
def added (source : String) (index : Index) (settings : Settings) : List String :=
  (Replay.recover index.rootUnit (missingConstants (stubbed source index settings) index)).map Prod.fst

/-- The patched text, when it is acceptable source, binds what the stubbed text binds and every constant added. -/
def BindsAdded (source : String) (index : Index) (settings : Settings) : Prop :=
  ∀ bound ∈ Source.boundNames? (patched source index settings),
    ∀ before ∈ Source.boundNames? (stubbed source index settings),
      ∀ name ∈ before ++ added source index settings, name ∈ bound

theorem mem_missingConstants_iff {source name : String} :
    name ∈ missingConstants source index ↔
      ∃ bound, Source.boundNames? source = some bound ∧ name ∈ index.rootUnit.storedNames ∧ name ∉ bound ∧
        isReportable name = true := by
  unfold missingConstants
  cases Source.boundNames? source with
  | none =>
      simp
  | some bound =>
      simp [Text.sortedDistinct, Text.sorted]

/-- A text that has lost no constant is patched by its stubs alone. -/
theorem patched_of_lostConstants_eq_nil {source : String}
    (none : lostConstants (stubbed source index settings) index = []) :
    patched source index settings = stubbed source index settings := by
  rw [patched, none]

/-- A text has lost constants when the module body stores some that the text misses and that can be rebuilt. -/
theorem lostConstants_eq_nil_iff {source : String} :
    lostConstants source index = [] ↔ ∀ name ∈ missingConstants source index,
      Replay.lastTrace? index.rootUnit name index.rootUnit.instructions.reverse = none := by
  rw [lostConstants, List.map_eq_nil_iff, List.eq_nil_iff_forall_not_mem]
  constructor
  · intro nothing name missing
    cases traced : Replay.lastTrace? index.rootUnit name index.rootUnit.instructions.reverse with
    | none =>
        rfl
    | some value =>
        exact absurd (Replay.mem_recover_iff.mpr ⟨missing, traced⟩) (nothing (name, value))
  · rintro untraced ⟨name, value⟩ recovered
    obtain ⟨missing, traced⟩ := Replay.mem_recover_iff.mp recovered
    rw [untraced name missing] at traced
    cases traced

/-- Once its constants are bound, a patched text has lost none. -/
theorem lostConstants_patched {source : String} (binds : BindsAdded source index settings) :
    lostConstants (patched source index settings) index = [] := by
  rw [lostConstants_eq_nil_iff]
  intro name missing
  obtain ⟨bound, isBound, stored, unbound, reportable⟩ := mem_missingConstants_iff.mp missing
  cases isBefore : Source.boundNames? (stubbed source index settings) with
  | none =>
      -- no constant is added to a text that is not acceptable source
      have nothing : lostConstants (stubbed source index settings) index = [] := by
        rw [lostConstants_eq_nil_iff]
        intro other isMissing
        obtain ⟨before, isSome, _⟩ := mem_missingConstants_iff.mp isMissing
        rw [isBefore] at isSome
        cases isSome
      rw [patched_of_lostConstants_eq_nil nothing, isBefore] at isBound
      cases isBound
  | some before =>
      have all := binds bound isBound before isBefore
      have unboundBefore : name ∉ before := fun member => unbound (all name (List.mem_append_left _ member))
      have lost : name ∈ missingConstants (stubbed source index settings) index :=
        mem_missingConstants_iff.mpr ⟨before, isBefore, stored, unboundBefore, reportable⟩
      cases traced : Replay.lastTrace? index.rootUnit name index.rootUnit.instructions.reverse with
      | none =>
          rfl
      | some value =>
          have isAdded : name ∈ added source index settings :=
            List.mem_map.mpr ⟨(name, value), Replay.mem_recover_iff.mpr ⟨lost, traced⟩, rfl⟩
          exact absurd (all name (List.mem_append_right _ isAdded)) unbound

end Repair

/-- A second pass changes nothing exactly when the patch of the repaired text is that text again or has more gaps. It
    is that text again when the stubs of the repaired text are in their place and the constants added are bound. -/
theorem repair_repair_source (outcome : Outcome) (index : Index) (settings : Settings) :
    let once := repair outcome index settings
    let again := repair once index settings
    (again.source = once.source ↔
      Text.isBlankText once.source = true ∨ Repair.patched once.source index settings = once.source ∨
        countGaps once.source (some index) settings <
          countGaps (Repair.patched once.source index settings) (some index) settings) ∧
    (Repair.InPlace once.source index settings → Repair.BindsAdded outcome.source index settings → again = once) := by
  intro once again
  constructor
  · rw [← Repair.not_accepts_iff, ← repair_source_ne_iff, Classical.not_not]
  · intro inPlace binds
    apply repair_of_not_accepts
    intro accepts
    apply accepts.changes
    by_cases first : Repair.Accepts outcome.source index settings
    · have isPatched : once.source = Repair.patched outcome.source index settings :=
        repair_source_of_accepts first
      have lost : Repair.lostConstants once.source index = [] := by
        rw [isPatched]
        exact Repair.lostConstants_patched binds
      have stubs : Repair.stubbed once.source index settings = once.source := Repair.stubbed_of_inPlace inPlace
      rw [Repair.patched_of_lostConstants_eq_nil (by rw [stubs]; exact lost), stubs]
    · have same : once = outcome := repair_of_not_accepts first
      rw [same] at accepts
      exact absurd accepts first

end

/-- A module with a function and a constant. -/
def constantBeside : CompiledModule where
  version := ⟨3, 8⟩
  units :=
    [{ CodeUnit.empty "f" ⟨3, 8⟩ with argCount := 1, varNames := ["a"], names := ["g"] },
      { CodeUnit.empty "<module>" ⟨3, 8⟩ with
        instructions := Instruction.decode ⟨3, 8⟩ [100, 0, 90, 0], consts := [.int 5], names := ["X"],
        children := [0] }]
  root := 1

/-- A text with a function that a marker stands for, and without the constant. -/
def lostBody : Outcome where
  source := "def f():\n# WARNING: Decompyle incomplete"
  backend := "pycdc"
  gaps := 1

/-- A function and a constant are rebuilt by the first pass and left alone by the second one. -/
theorem repair_repair_source_lostBody :
    let index := Index.ofModule constantBeside
    let once := repair lostBody index { }
    once.source = "def f(a):\n    pass  # TODO: Reconstruct\n\nX = 5\n" ∧
      Repair.InPlace once.source index { } ∧ Repair.BindsAdded lostBody.source index { } ∧
        repair once index { } = once := by
  intro index once
  have stubs : Repair.stubbed lostBody.source index { } = "def f(a):\n    pass  # TODO: Reconstruct" := by
    decide +kernel
  have constants : Repair.lostConstants "def f(a):\n    pass  # TODO: Reconstruct" index = ["X = 5"] := by
    decide +kernel
  have isPatched :
      Repair.patched lostBody.source index { } = "def f(a):\n    pass  # TODO: Reconstruct\n\nX = 5\n" := by
    rw [Repair.patched, stubs, constants]
    decide +kernel
  have accepts : Repair.Accepts lostBody.source index { } := by
    refine ⟨by decide +kernel, ?_, ?_⟩
    · rw [isPatched]
      decide +kernel
    · rw [isPatched]
      decide +kernel
  have isOnce : once.source = "def f(a):\n    pass  # TODO: Reconstruct\n\nX = 5\n" := by
    rw [← isPatched]
    exact repair_source_of_accepts accepts
  have inPlace : Repair.InPlace once.source index { } := by
    rw [isOnce, Repair.InPlace]
    decide +kernel
  have binds : Repair.BindsAdded lostBody.source index { } := by
    rw [Repair.BindsAdded, Repair.added, isPatched, stubs]
    decide +kernel
  exact ⟨isOnce, inPlace, binds, (repair_repair_source lostBody index { }).2 inPlace binds⟩

/-- The stub of a name for which the class has no unit, with the signature of the function of that name. -/
def borrowedStub : String :=
  "class W(object):\n    def f(a):\n        pass  # TODO: Reconstruct\n"

/-- A second pass can change what the first one wrote. The first pass knows no unit for the name in the class and
    writes a method without further parameters; the second pass looks the method up by name, finds the function
    beside the class, and takes over its signature. -/
theorem repair_not_idempotent :
    ¬ ∀ (outcome : Outcome) (index : Index) (settings : Settings),
      settings.stubPlaceholder = "pass  # TODO: Reconstruct" →
        (repair (repair outcome index settings) index settings).source = (repair outcome index settings).source := by
  intro idempotent
  have once : (repair bareClass (Index.ofModule namesakes) { }).source = stubbedClass := by
    rw [repair_source_of_accepts accepts_bareClass, patched_bareClass]
  have patchedAgain : Repair.patched stubbedClass (Index.ofModule namesakes) { } = borrowedStub := by
    decide +kernel
  have gapsAgain : countGaps borrowedStub (some (Index.ofModule namesakes)) { } = 0 := by
    decide +kernel
  have accepts :
      Repair.Accepts (repair bareClass (Index.ofModule namesakes) { }).source (Index.ofModule namesakes) { } := by
    rw [once]
    refine ⟨by decide +kernel, ?_, ?_⟩
    · rw [patchedAgain]
      decide
    · rw [patchedAgain, gapsAgain]
      exact Nat.zero_le _
  exact repair_source_ne_iff.mpr accepts (idempotent bareClass (Index.ofModule namesakes) { } rfl)

end SourceRecovery
