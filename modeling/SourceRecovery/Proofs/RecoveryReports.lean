/-
Module: SourceRecovery.Proofs.RecoveryReports
Layer: Proofs
Purpose: What a report of a recovery may say. Whatever the agents answer, a recovery gives up and returns the text it
  was given, or its text is acceptable source; every item it lists is accepted or rejected, and its count is that of
  the accepted items and of the document that was mended before them.
Imports: Mathlib.Data.List.Forall2, SourceRecovery.Proofs.AgentQuestions
Trusted boundary: none
Main exports: Recovery.Ends, Recovery.accepted, Recovery.Advances, RecoveryReport.Settles, exists_advances_recoverItems,
  recoverDocument_cases, recover_cases, recoverDocument_settles
Open obligations: none
-/
import Mathlib.Data.List.Forall2
import SourceRecovery.Proofs.AgentQuestions

namespace SourceRecovery

variable {σ : Type}

namespace Recovery

/-! ### Entries -/

/-- An entry says how an item has ended: it is accepted or rejected, and rejected when it fits several units. -/
structure Ends (item : IncompleteItem) (entry : String × ItemState) : Prop where
  name : entry.1 = item.name
  settled : entry.2 = .accepted ∨ entry.2 = .rejected
  ambiguous : item.ambiguous = true → entry.2 = .rejected

/-- The number of accepted items. -/
def accepted (entries : List (String × ItemState)) : Nat :=
  entries.countP fun entry => entry.2 = .accepted

/-- An item about which nothing could be asked is rejected. -/
theorem ends_skip (item : IncompleteItem) : Ends item (item.name, .afterPrompt none) where
  name := rfl
  settled := .inr rfl
  ambiguous _ := rfl

/-- The answer settles an item that was asked about, and such an item fits one unit at most. -/
theorem ends_settle {item : IncompleteItem} {index : Index} {settings : Settings} {context prompt : String}
    (asked : itemPrompt? item index settings context = some prompt) (answer : Option String) :
    Ends item (item.name, .afterAnswer answer) where
  name := rfl
  settled := by
    cases answer with
    | none => exact .inr rfl
    | some code => exact .inl rfl
  ambiguous ambiguous := by
    rw [itemPrompt?_of_ambiguous index settings ambiguous context] at asked
    cases asked

/-- Every entry belongs to an item. -/
theorem exists_item_of_mem {items : List IncompleteItem} {entries : List (String × ItemState)}
    (ends : List.Forall₂ Ends items entries) {entry : String × ItemState} (member : entry ∈ entries) :
    ∃ item ∈ items, Ends item entry := by
  induction ends with
  | nil =>
      cases member
  | cons head tail ih =>
      rcases List.mem_cons.mp member with rfl | later
      · exact ⟨_, List.mem_cons_self, head⟩
      · obtain ⟨item, among, ends⟩ := ih later
        exact ⟨item, List.mem_cons_of_mem _ among, ends⟩

/-! ### Progress -/

/-- Recovery has gone over some items: each of them got its entry, and the accepted ones were counted. -/
structure Advances (items : List IncompleteItem) (entries : List (String × ItemState)) (before after : Progress) :
    Prop where
  states : after.states = before.states ++ entries
  ends : List.Forall₂ Ends items entries
  recovered : after.recovered = before.recovered + accepted entries

namespace Advances

theorem refl (progress : Progress) : Advances [] [] progress progress where
  states := (List.append_nil _).symm
  ends := .nil
  recovered := rfl

/-- One item is gone over, and then the others. -/
theorem cons {item : IncompleteItem} {items : List IncompleteItem} {entry : String × ItemState}
    {entries : List (String × ItemState)} {before next after : Progress}
    (step : Advances [item] [entry] before next) (rest : Advances items entries next after) :
    Advances (item :: items) (entry :: entries) before after where
  states := by
    rw [rest.states, step.states, List.append_assoc, List.singleton_append]
  ends := by
    cases step.ends with
    | cons head _ => exact .cons head rest.ends
  recovered := by
    have counts : accepted ([entry] ++ entries) = accepted [entry] + accepted entries := List.countP_append
    rw [List.singleton_append] at counts
    rw [rest.recovered, step.recovered, counts, Nat.add_assoc]

theorem skip (progress : Progress) (item : IncompleteItem) :
    Advances [item] [(item.name, .afterPrompt none)] progress (progress.skip item) where
  states := rfl
  ends := .cons (ends_skip item) .nil
  recovered := rfl

theorem settle {item : IncompleteItem} {index : Index} {settings : Settings} {context prompt : String}
    (asked : itemPrompt? item index settings context = some prompt) (progress : Progress) (answer : Option String) :
    Advances [item] [(item.name, .afterAnswer answer)] progress (progress.settle item answer) where
  states := rfl
  ends := .cons (ends_settle asked answer) .nil
  recovered := by
    cases answer with
    | none => rfl
    | some code => rfl

end Advances

variable [Source.Grammar] (host : Host σ) (index : Index) (settings : Settings)

/-- All items are gone over, whatever the agents answer. -/
theorem exists_advances_recoverItems (context : String) (items : List IncompleteItem) (progress : Progress) (s : σ) :
    ∃ entries, Advances items entries progress ((recoverItems host index settings context items progress).run s).1 := by
  induction items generalizing progress s with
  | nil =>
      exact ⟨[], Advances.refl progress⟩
  | cons item items ih =>
      rw [recoverItems]
      cases asked : itemPrompt? item index settings context with
      | none =>
          obtain ⟨entries, rest⟩ := ih (progress.skip item) s
          exact ⟨_, (Advances.skip progress item).cons rest⟩
      | some prompt =>
          -- The other items start from the answer, and from the state that the agents have left.
          let answered := (bestResponse host settings.agents prompt).run s
          obtain ⟨entries, rest⟩ := ih (progress.settle item answered.1) answered.2
          exact ⟨_, (Advances.settle asked progress answered.1).cons rest⟩

/-- A whole text is taken from the agents only when it is acceptable source. -/
theorem isValid_of_wholeDocument {prompt code : String} {s : σ}
    (taken : ((wholeDocument host settings prompt).run s).1 = some code) : Source.isValid code = true :=
  (Option.filter_eq_some_iff.mp taken).2

theorem isValid_of_mend {source mended : String} {s : σ}
    (taken : ((mend host index settings source).run s).1 = some mended) : Source.isValid mended = true := by
  rw [mend] at taken
  cases checked : Source.check source with
  | ok tree =>
      rw [checked] at taken
      cases taken
  | error problem =>
      rw [checked] at taken
      exact isValid_of_wholeDocument host settings taken

end Recovery

open Recovery

variable [Source.Grammar] (host : Host σ) (index : Index) (settings : Settings)

/-! ### Reports -/

/-- A report that was not given up: its text is acceptable source, its entries are those of the items, and when there
    are entries it counts the accepted ones on top of the documents taken before. -/
structure RecoveryReport.Settles (items : List IncompleteItem) (taken : Nat) (report : RecoveryReport) : Prop where
  valid : Source.isValid report.source = true
  ends : List.Forall₂ Ends items report.items
  recovered : report.items ≠ [] → report.recovered = accepted report.items + taken

/-- The items change the text as a whole or not at all. -/
theorem commit_cases {source : String} {items : List IncompleteItem} {entries : List (String × ItemState)}
    {before after : Progress} (fresh : before.states = []) (advances : Advances items entries before after) :
    commit source index settings after = .unchanged source ∨
      (commit source index settings after).Settles items before.recovered := by
  rw [commit]
  split
  case isFalse => exact .inl rfl
  case isTrue valid =>
    have states : after.states = entries := by
      rw [advances.states, fresh, List.nil_append]
    right
    constructor
    case valid => exact valid
    case ends => exact states ▸ advances.ends
    case recovered =>
      intro _
      rw [states, advances.recovered, Nat.add_comm]

/-- A text without items is kept or made anew, and is acceptable source in both cases. -/
theorem recoverMarked_settles {working : String} (valid : Source.isValid working = true) (recovered : Nat) (s : σ) :
    ((recoverMarked host index settings working recovered).run s).1.Settles [] recovered := by
  have kept : RecoveryReport.Settles [] recovered { source := working, recovered, items := [] } :=
    ⟨valid, .nil, fun listed => absurd rfl listed⟩
  rw [recoverMarked]
  split
  case isTrue => exact kept
  case isFalse =>
    rw [Run.run_bind]
    cases taken : ((wholeDocument host settings
        (Prompt.wholeFilePrompt working (index.disassembly index.root))).run s).1 with
    | none =>
        exact kept
    | some code =>
        dsimp only
        split
        · exact kept
        · exact ⟨isValid_of_wholeDocument host settings taken, .nil, fun listed => absurd rfl listed⟩

/-- Acceptable source is recovered item by item, or the report is given up for the text of the beginning. -/
theorem recoverWorking_cases (source : String) {working : String} (valid : Source.isValid working = true)
    (taken : Nat) (s : σ) :
    let report := ((recoverWorking host index settings source working taken).run s).1
    report = .unchanged source ∨ report.Settles (itemsFromEnd working index settings) taken := by
  intro report
  have isReport : report = ((recoverWorking host index settings source working taken).run s).1 := rfl
  rw [recoverWorking] at isReport
  cases found : itemsFromEnd working index settings with
  | nil =>
      rw [found] at isReport
      exact .inr (isReport ▸ recoverMarked_settles host index settings valid taken s)
  | cons item items =>
      rw [found] at isReport
      let context := Scan.importContext working settings.contextLines
      let start : Progress := { lines := Text.split working, recovered := taken, states := [] }
      obtain ⟨entries, advances⟩ :=
        exists_advances_recoverItems host index settings context (item :: items) start s
      exact isReport ▸ commit_cases index settings rfl advances

/-- A text that could not be mended is kept or made anew, and no items are listed. -/
theorem replaceDocument_cases (source : String) (s : σ) :
    let report := ((replaceDocument host index settings source).run s).1
    report = .unchanged source ∨ Source.isValid report.source = true ∧ report.items = [] := by
  rw [replaceDocument, Run.run_bind]
  cases taken : ((wholeDocument host settings
      (Prompt.wholeFilePrompt source (index.disassembly index.root))).run s).1 with
  | none =>
      exact .inl rfl
  | some code =>
      exact .inr ⟨isValid_of_wholeDocument host settings taken, rfl⟩

/-- The ways a recovery can end: it is given up, it goes over the items of the text that was given or mended, or the
    text could not be mended and was made anew. -/
theorem recoverDocument_cases (source : String) (s : σ) :
    let report := ((recoverDocument host source index settings).run s).1
    let mended := ((mend host index settings source).run s).1
    report = .unchanged source ∨
      report.Settles (itemsFromEnd (mended.getD source) index settings) (if mended.isSome then 1 else 0) ∨
      (mended = none ∧ Source.isValid source = false) ∧ Source.isValid report.source = true ∧ report.items = [] := by
  rw [recoverDocument_eq_mend_bind, Run.run_bind]
  cases taken : ((mend host index settings source).run s).1 with
  | some mended =>
      have valid := isValid_of_mend host index settings taken
      rcases recoverWorking_cases host index settings source valid 1 _ with givenUp | settles
      · exact .inl givenUp
      · exact .inr (.inl settles)
  | none =>
      rw [recoverMended]
      split
      case isTrue valid =>
        rcases recoverWorking_cases host index settings source valid 0 _ with givenUp | settles
        · exact .inl givenUp
        · exact .inr (.inl settles)
      case isFalse invalid =>
        rcases replaceDocument_cases host index settings source _ with givenUp | anew
        · exact .inl givenUp
        · exact .inr (.inr ⟨⟨rfl, Bool.eq_false_iff.mpr invalid⟩, anew⟩)

/-- A report counts when something was recovered and its text is new and acceptable. -/
theorem applyReport_cases (outcome : Outcome) (report : RecoveryReport) :
    let result := applyReport outcome report index settings
    result = outcome ∨
      result = outcome.withStage stage report.source (countGaps report.source (some index) settings) ∧
        Source.isValid report.source = true ∧ report.source ≠ outcome.source := by
  rw [applyReport]
  split
  case isTrue => exact .inl rfl
  case isFalse counts =>
    simp only [Bool.or_eq_true, not_or, beq_iff_eq, Bool.not_eq_true', Bool.not_eq_false] at counts
    exact .inr ⟨rfl, counts.2, counts.1.2⟩

/-- The outcome is kept, or it carries the text of the report: acceptable source that is new and is counted. -/
theorem recover_cases (outcome : Outcome) (s : σ) :
    let result := ((recover host outcome index settings).run s).1
    result = outcome ∨
      result.source = ((recoverDocument host outcome.source index settings).run s).1.source ∧
        Source.isValid result.source = true ∧ result.source ≠ outcome.source ∧
        result.backend = outcome.backend ++ "+llm" ∧ result.error = none ∧
        result.gaps = countGaps result.source (some index) settings := by
  rw [recover]
  split
  case isFalse => exact .inl rfl
  case isTrue =>
    rw [Run.run_bind]
    rcases applyReport_cases index settings outcome
      ((recoverDocument host outcome.source index settings).run s).1 with same | ⟨isNew, valid, changed⟩
    · exact .inl same
    · right
      rw [Run.run_pure]
      dsimp only
      rw [isNew]
      exact ⟨rfl, valid, changed, String.append_assoc, rfl, rfl⟩

/-- Whatever the agents do, the text of a report is the one that was given or acceptable source, all entries are
    settled, and entries stand for the items of the text that was worked on, in their order, with the accepted ones
    counted after a mended text. When that text is acceptable source, the report lists all its items or is given
    up. The commands of the recovery are known, and there is none for an item that fits several units. An
    outcome is kept in all its fields or gets the new text with its gaps and the name of the stage. -/
theorem recoverDocument_settles (source : String) (s : σ) :
    let report := ((recoverDocument host source index settings).run s).1
    let mended := ((mend host index settings source).run s).1
    let working := mended.getD source
    let items := itemsFromEnd working index settings
    (report.source = source ∨ Source.isValid report.source = true) ∧
    (∀ entry ∈ report.items, entry.2 = .accepted ∨ entry.2 = .rejected) ∧
    (report.items = [] ∨ List.Forall₂ Ends items report.items ∧
      report.recovered = accepted report.items + (if mended.isSome then 1 else 0)) ∧
    (Source.isValid working = true → report = .unchanged source ∨ List.Forall₂ Ends items report.items) ∧
    (recoverDocument host.recorded source index settings).run (s, []) =
      (report, ((recoverDocument host source index settings).run s).2,
        documentQuestions index settings source mended) ∧
    (∀ item ∈ items, item.ambiguous = true →
      itemQuestions index settings (Scan.importContext working settings.contextLines) item = []) ∧
    ∀ outcome : Outcome, outcome.source = source →
      let result := ((recover host outcome index settings).run s).1
      result = outcome ∨
        result.source = report.source ∧ Source.isValid result.source = true ∧ result.source ≠ outcome.source ∧
          result.backend = outcome.backend ++ "+llm" ∧ result.error = none ∧
          result.gaps = countGaps result.source (some index) settings := by
  intro report mended working items
  have ways := recoverDocument_cases host index settings source s
  refine ⟨?text, ?entries, ?listed, ?complete, ?asked, ?unasked, ?outcomes⟩
  case text =>
    rcases ways with givenUp | settles | ⟨-, valid, -⟩
    · exact .inl (congrArg RecoveryReport.source givenUp)
    · exact .inr settles.valid
    · exact .inr valid
  case entries =>
    intro entry member
    rcases ways with givenUp | settles | ⟨-, -, noItems⟩
    · rw [show report = .unchanged source from givenUp] at member
      cases member
    · obtain ⟨item, -, ends⟩ := exists_item_of_mem settles.ends member
      exact ends.settled
    · rw [show report.items = [] from noItems] at member
      cases member
  case listed =>
    rcases ways with givenUp | settles | ⟨-, -, noItems⟩
    · exact .inl (congrArg RecoveryReport.items givenUp)
    · by_cases noItems : report.items = []
      · exact .inl noItems
      · exact .inr ⟨settles.ends, settles.recovered noItems⟩
    · exact .inl noItems
  case complete =>
    intro valid
    rcases ways with givenUp | settles | ⟨⟨lost, invalid⟩, -, -⟩
    · exact .inl givenUp
    · exact .inr settles.ends
    · -- Here the text that was worked on is the one that could not be mended.
      have isSource : working = source := congrArg (Option.getD · source) lost
      rw [isSource, invalid] at valid
      cases valid
  case asked => exact run_recorded_recoverDocument host index settings source s []
  case unasked => exact fun item _ ambiguous => itemQuestions_of_ambiguous index settings ambiguous _
  case outcomes =>
    rintro outcome rfl
    exact recover_cases host index settings outcome s

end SourceRecovery
