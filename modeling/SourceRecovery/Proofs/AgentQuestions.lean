/-
Module: SourceRecovery.Proofs.AgentQuestions
Layer: Proofs
Purpose: The commands that recovery runs. A host that writes down its commands behaves as the host it is made from, so
  the commands of a recovery can be read off its text: a question goes to all agents, every item has its own question
  or none, and only the answer to the first question of all decides what is asked later.
Imports: SourceRecovery.Agent.Recovery, SourceRecovery.Proofs.RunOutcome
Trusted boundary: none
Main exports: Host.recorded, WritesDown, Recovery.itemQuestions, Recovery.documentQuestions, Recovery.mend,
  recoverDocument_eq_mend_bind, run_recorded_recoverDocument
Open obligations: none
-/
import SourceRecovery.Agent.Recovery
import SourceRecovery.Proofs.RunOutcome

namespace SourceRecovery

variable {σ α β : Type}

/-! ### Recording hosts -/

/-- A host that behaves as another one and writes down the commands it is given. -/
def Host.recorded (host : Host σ) : Host (σ × List Command) where
  run command := fun state =>
    let answer := (host.run command).run state.1
    (answer.1, answer.2, state.2 ++ [command])

/-- Two computations do the same, and the second one writes down the given commands. -/
def WritesDown (plain : StateM σ α) (recording : StateM (σ × List Command) α) (commands : List Command) : Prop :=
  ∀ s log, recording.run (s, log) = ((plain.run s).1, (plain.run s).2, log ++ commands)

namespace WritesDown

theorem pure (a : α) : WritesDown (Pure.pure a : StateM σ α) (Pure.pure a) [] := by
  intro s log
  rw [List.append_nil]
  rfl

/-- What two steps write down, they write down one after the other. -/
theorem bind {first : StateM σ α} {recorded : StateM (σ × List Command) α} {next : α → StateM σ β}
    {recordedNext : α → StateM (σ × List Command) β} {commands more : List Command}
    (head : WritesDown first recorded commands) (tail : ∀ a, WritesDown (next a) (recordedNext a) more) :
    WritesDown (first >>= next) (recorded >>= recordedNext) (commands ++ more) := by
  intro s log
  rw [Run.run_bind, Run.run_bind, head s log, tail, List.append_assoc]

/-- A value that is computed from the result of a step writes down nothing more. -/
theorem map {first : StateM σ α} {recorded : StateM (σ × List Command) α} {commands : List Command}
    (head : WritesDown first recorded commands) (f : α → β) :
    WritesDown (do return f (← first)) (do return f (← recorded)) commands := by
  have both := head.bind fun a => WritesDown.pure (f a)
  rwa [List.append_nil] at both

end WritesDown

variable (host : Host σ) (agents : List AgentSpec) (prompt : String)

theorem writesDown_askAgent (spec : AgentSpec) :
    WritesDown (askAgent host spec prompt) (askAgent host.recorded spec prompt) [spec.command prompt] := by
  intro s log
  rfl

/-- All agents are asked, in their order, whatever they answer. -/
theorem writesDown_mapM_askAgent :
    WritesDown (agents.mapM fun spec => askAgent host spec prompt)
      (agents.mapM fun spec => askAgent host.recorded spec prompt) (agents.map fun spec => spec.command prompt) := by
  induction agents with
  | nil =>
      exact WritesDown.pure []
  | cons spec agents ih =>
      rw [List.mapM_cons, List.mapM_cons, List.map_cons]
      refine WritesDown.bind (writesDown_askAgent host prompt spec) ?_
      intro reply
      exact ih.map fun replies => reply :: replies

theorem writesDown_queryAgents :
    WritesDown (queryAgents host agents prompt) (queryAgents host.recorded agents prompt)
      (agents.map fun spec => spec.command prompt) :=
  (writesDown_mapM_askAgent host agents prompt).map fun replies => collectReplies agents.length (replies.mapIdx Prod.mk)

/-! ### Questions of a recovery -/

namespace Recovery

variable (index : Index) (settings : Settings)

/-- A question goes to all agents. -/
def questions (prompt : String) : List Command :=
  settings.agents.map fun spec => spec.command prompt

/-- The commands for an item. -/
def itemQuestions (context : String) (item : IncompleteItem) : List Command :=
  match itemPrompt? item index settings context with
  | some prompt => questions settings prompt
  | none => []

theorem itemPrompt?_of_ambiguous {item : IncompleteItem} (ambiguous : item.ambiguous = true) (context : String) :
    itemPrompt? item index settings context = none := by
  rw [itemPrompt?, if_pos ambiguous]

/-- No agent is asked about an item that fits several units. -/
theorem itemQuestions_of_ambiguous {item : IncompleteItem} (ambiguous : item.ambiguous = true) (context : String) :
    itemQuestions index settings context item = [] := by
  rw [itemQuestions, itemPrompt?_of_ambiguous index settings ambiguous]

/-- The commands for a text that is made anew. -/
def rewriteQuestions (source : String) : List Command :=
  questions settings (Prompt.wholeFilePrompt source (index.disassembly index.root))

variable [Source.Grammar]

/-- The commands for acceptable source: those of its items, or those for a text with markers and no items. -/
def workingQuestions (working : String) : List Command :=
  match itemsFromEnd working index settings with
  | [] => if Scan.markerCount working settings.gapMarker = 0 then [] else rewriteQuestions index settings working
  | items => items.flatMap (itemQuestions index settings (Scan.importContext working settings.contextLines))

/-- The commands for mending a text. -/
def mendQuestions (source : String) : List Command :=
  match Source.check source with
  | .ok _ => []
  | .error problem =>
    questions settings (Prompt.syntaxFixPrompt source problem.message (index.disassembly index.root))

/-- The commands that follow, given the text that was mended. -/
def laterQuestions (source : String) : Option String → List Command
  | some mended => workingQuestions index settings mended
  | none =>
    if Source.isValid source then workingQuestions index settings source else rewriteQuestions index settings source

/-- All commands of a recovery, given the text that was mended. -/
def documentQuestions (source : String) (mended : Option String) : List Command :=
  mendQuestions index settings source ++ laterQuestions index settings source mended

/-- The mended form of a text that is not acceptable source, when an agent has one. -/
def mend (source : String) : StateM σ (Option String) :=
  match Source.check source with
  | .ok _ => return none
  | .error problem =>
    wholeDocument host settings (Prompt.syntaxFixPrompt source problem.message (index.disassembly index.root))

/-- Recovery once it is known whether the text was mended. -/
def recoverMended (source : String) : Option String → StateM σ RecoveryReport
  | some mended => recoverWorking host index settings source mended 1
  | none =>
    if Source.isValid source then recoverWorking host index settings source source 0
    else replaceDocument host index settings source

/-! ### What each part of a recovery writes down -/

theorem writesDown_bestResponse :
    WritesDown (bestResponse host agents prompt) (bestResponse host.recorded agents prompt)
      (agents.map fun spec => spec.command prompt) :=
  (writesDown_queryAgents host agents prompt).map bestOf

theorem writesDown_wholeDocument :
    WritesDown (wholeDocument host settings prompt) (wholeDocument host.recorded settings prompt)
      (questions settings prompt) :=
  (writesDown_bestResponse host settings.agents prompt).map fun answer => answer.filter Source.isValid

/-- Every item is asked about at most once, in turn, and never because of an earlier answer. -/
theorem writesDown_recoverItems (context : String) (items : List IncompleteItem) (progress : Progress) :
    WritesDown (recoverItems host index settings context items progress)
      (recoverItems host.recorded index settings context items progress)
      (items.flatMap (itemQuestions index settings context)) := by
  induction items generalizing progress with
  | nil =>
      exact WritesDown.pure progress
  | cons item items ih =>
      rw [List.flatMap_cons, recoverItems, recoverItems, itemQuestions]
      cases itemPrompt? item index settings context with
      | none =>
          exact ih (progress.skip item)
      | some prompt =>
          have asked := writesDown_bestResponse host settings.agents prompt
          exact asked.bind fun answer => ih (progress.settle item answer)

/-- The answer decides what becomes of the text, and nothing is asked after it. -/
theorem writesDown_recoverMarked (working : String) (recovered : Nat) :
    WritesDown (recoverMarked host index settings working recovered)
      (recoverMarked host.recorded index settings working recovered)
      (if Scan.markerCount working settings.gapMarker = 0 then [] else rewriteQuestions index settings working) := by
  rw [recoverMarked, recoverMarked]
  split
  · exact WritesDown.pure _
  · rw [← List.append_nil (rewriteQuestions index settings working)]
    refine (writesDown_wholeDocument host _ settings).bind fun answer => ?_
    cases answer with
    | none =>
        exact WritesDown.pure _
    | some code =>
        dsimp only
        split
        · exact WritesDown.pure _
        · exact WritesDown.pure _

theorem writesDown_recoverWorking (source working : String) (recovered : Nat) :
    WritesDown (recoverWorking host index settings source working recovered)
      (recoverWorking host.recorded index settings source working recovered)
      (workingQuestions index settings working) := by
  rw [recoverWorking, recoverWorking, workingQuestions]
  cases itemsFromEnd working index settings with
  | nil =>
      exact writesDown_recoverMarked host index settings working recovered
  | cons item items =>
      exact (writesDown_recoverItems host index settings _ (item :: items) _).map (commit source index settings)

theorem writesDown_replaceDocument (source : String) :
    WritesDown (replaceDocument host index settings source) (replaceDocument host.recorded index settings source)
      (rewriteQuestions index settings source) := by
  rw [← List.append_nil (rewriteQuestions index settings source)]
  refine (writesDown_wholeDocument host _ settings).bind fun answer => ?_
  cases answer with
  | none => exact WritesDown.pure _
  | some code => exact WritesDown.pure _

theorem writesDown_mend (source : String) :
    WritesDown (mend host index settings source) (mend host.recorded index settings source)
      (mendQuestions index settings source) := by
  rw [mend, mend, mendQuestions]
  cases Source.check source with
  | ok tree => exact WritesDown.pure none
  | error problem => exact writesDown_wholeDocument host _ settings

theorem writesDown_recoverMended (source : String) (mended : Option String) :
    WritesDown (recoverMended host index settings source mended)
      (recoverMended host.recorded index settings source mended) (laterQuestions index settings source mended) := by
  cases mended with
  | some mended =>
      exact writesDown_recoverWorking host index settings source mended 1
  | none =>
      rw [recoverMended, recoverMended, laterQuestions]
      split
      · exact writesDown_recoverWorking host index settings source source 0
      · exact writesDown_replaceDocument host index settings source

end Recovery

open Recovery

variable [Source.Grammar] (index : Index) (settings : Settings) (source : String)

/-- Recovery mends the text if it has to, and goes on with what came of that. -/
theorem recoverDocument_eq_mend_bind :
    recoverDocument host source index settings =
      mend host index settings source >>= recoverMended host index settings source := by
  rw [recoverDocument, mend]
  cases checked : Source.check source with
  | ok tree =>
      have valid : Source.isValid source = true := by
        rw [Source.isValid, checked]
      exact (if_pos valid).symm
  | error problem =>
      have invalid : ¬ Source.isValid source = true := by
        rw [Source.isValid, checked]
        exact Bool.false_ne_true
      -- Both sides ask for the mended text first, and then agree for either answer.
      refine bind_congr fun answer => ?_
      cases answer with
      | none => exact (if_neg invalid).symm
      | some mended => rfl

/-- The commands of a recovery. Of all answers only the first one, the mended text, has a say in them. -/
theorem run_recorded_recoverDocument (s : σ) (log : List Command) :
    (recoverDocument host.recorded source index settings).run (s, log) =
      (((recoverDocument host source index settings).run s).1, ((recoverDocument host source index settings).run s).2,
        log ++ documentQuestions index settings source ((mend host index settings source).run s).1) := by
  rw [recoverDocument_eq_mend_bind, recoverDocument_eq_mend_bind, documentQuestions, ← List.append_assoc]
  rw [Run.run_bind, Run.run_bind, writesDown_mend host index settings source s log]
  exact writesDown_recoverMended host index settings source _ _ _

end SourceRecovery
