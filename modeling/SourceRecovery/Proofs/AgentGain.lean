/-
Module: SourceRecovery.Proofs.AgentGain
Layer: Proofs
Purpose: Runs with and without agents, side by side. When every program does the same whenever it is run, a run ends
  with the fewest gaps among the texts of its backends, each of them repaired and, with agents, answered. So a run
  with agents has no more gaps exactly when some answered text has no more gaps than any repaired one. Answers
  replace a repaired text without a look at its gaps, so a run with agents can end with more of them.
Imports: SourceRecovery.Proofs.RunOutcome
Trusted boundary: none
Main exports: Host.fixed, repair_unlisted, Run.texts, Run.repaired, Run.answered, Run.Fewest,
  Run.decompile_fewest
Open obligations: none
-/
import SourceRecovery.Proofs.RunOutcome

namespace SourceRecovery

/-- A host on which every command has the same result whenever it is run. -/
def Host.fixed (answer : Command → Except SpawnFault Completion) : Host Unit :=
  ⟨fun command => pure (answer command)⟩

/-! ### Lines of a disassembler -/

namespace Run

section Consulted

variable {answer : Command → Except SpawnFault Completion}

/-- An index once the disassembler has been asked. -/
def consulted (answer : Command → Except SpawnFault Completion) (known : Index) : Index :=
  ((known.consult (Host.fixed answer)).run ()).1

/-- The disassembler is asked once. -/
theorem consulted_consulted (known : Index) :
    consulted answer (consulted answer known) = consulted answer known := by
  rcases known with ⟨version, units, root, paths, slices, tool, listings⟩
  cases slices <;> cases listings <;> cases tool <;> rfl

theorem consulted_unlisted (known : Index) : (consulted answer known).unlisted = known.unlisted :=
  Index.consult_unlisted (Host.fixed answer) known ()

/-- Two indexes are alike when they are the same once the disassembler has been asked. -/
def Alike (answer : Command → Except SpawnFault Completion) (index other : Option Index) : Prop :=
  index.map (consulted answer) = other.map (consulted answer)

theorem Alike.unlisted {index other : Option Index} (alike : Alike answer index other) :
    index.map Index.unlisted = other.map Index.unlisted := by
  have twice (i : Option Index) : (i.map (consulted answer)).map Index.unlisted = i.map Index.unlisted := by
    cases i with
    | none => rfl
    | some known => rw [Option.map_some, Option.map_some, Option.map_some, consulted_unlisted]
  rw [← twice index, alike, twice]

end Consulted

end Run

theorem knownMembers_unlisted (index : Index) (kind : ItemKind) (unit : Option Nat) :
    knownMembers (some index.unlisted) kind unit = knownMembers (some index) kind unit := by
  cases kind <;> cases unit <;> rfl

section

variable [Source.Grammar]

theorem incompleteItems_unlisted (source : String) (index : Index) (settings : Settings) :
    incompleteItems source (some index.unlisted) settings = incompleteItems source (some index) settings := by
  have found : candidates source (some index.unlisted) settings = candidates source (some index) settings := rfl
  have items : IncompleteItem.ofCandidate (some index.unlisted) = IncompleteItem.ofCandidate (some index) := by
    funext c
    simp only [IncompleteItem.ofCandidate, knownMembers_unlisted]
  rw [incompleteItems, incompleteItems, found, items]

theorem patched_unlisted (source : String) (index : Index) (settings : Settings) :
    Repair.patched source index.unlisted settings = Repair.patched source index settings := by
  have items : itemsFromEnd source index.unlisted settings = itemsFromEnd source index settings := by
    rw [itemsFromEnd, itemsFromEnd, incompleteItems_unlisted]
  have stubs : Repair.stubItem index.unlisted settings = Repair.stubItem index settings := rfl
  have constants (text : String) : Repair.lostConstants text index.unlisted = Repair.lostConstants text index := rfl
  rw [Repair.patched, Repair.patched, Repair.stubbed, Repair.stubbed, items, stubs, constants]

/-- The lines of a disassembler are never looked at in a repair. -/
theorem repair_unlisted (outcome : Outcome) (index : Index) (settings : Settings) :
    repair outcome index.unlisted settings = repair outcome index settings := by
  have gaps (text : String) : countGaps text (some index.unlisted) settings = countGaps text (some index) settings :=
    countGaps_unlisted text (some index) settings
  simp only [repair, patched_unlisted, gaps]

namespace Run

/-! ### What becomes of a text -/

section Texts

variable (answer : Command → Except SpawnFault Completion) (file : ArtifactFile) (settings : Settings)

/-- The texts of backends. -/
def texts (specs : List BackendSpec) : List Outcome :=
  (specs.map fun spec =>
    Backend.outcomeOf spec settings.gapMarker (answer (Backend.command spec file.path))).filter Outcome.hasSource

/-- The index of the artifact. -/
def fixedIndex : Option Index :=
  ((loadIndex (Host.fixed answer) file settings).run ()).1

/-- A text with its gaps counted, and repaired when there are any. -/
def repaired (index : Option Index) (raw : Outcome) : Outcome :=
  match index with
  | none => counted raw none settings
  | some known =>
    let outcome := counted raw (some known) settings
    if outcome.isComplete then outcome else repair outcome known settings

/-- What the agents make of a text that is not blank. -/
def reportFor (known : Index) (source : String) : RecoveryReport :=
  ((recoverDocument (Host.fixed answer) source (consulted answer known) settings).run ()).1

/-- An outcome after the agents were asked, when it has a text with gaps and there are agents. -/
def asked (known : Index) (outcome : Outcome) : Outcome :=
  if outcome.isComplete || settings.agents.isEmpty || !outcome.hasSource then outcome
  else applyReport outcome (reportFor answer settings known outcome.source) (consulted answer known) settings

/-- A text with its gaps counted, repaired when there are any, and given to the agents when there still are. -/
def answered (index : Option Index) (raw : Outcome) : Outcome :=
  match index with
  | none => repaired settings none raw
  | some known => asked answer settings known (repaired settings (some known) raw)

/-- A text at the end of all that is done for it. -/
def finished (useAgents : Bool) (index : Option Index) (raw : Outcome) : Outcome :=
  if useAgents then answered answer settings index raw else repaired settings index raw

end Texts

section Fixed

variable {answer : Command → Except SpawnFault Completion}

theorem Alike.counted {index other : Option Index} (alike : Alike answer index other) (settings : Settings)
    (raw : Outcome) : counted raw index settings = counted raw other settings := by
  rw [Run.counted, Run.counted, countGaps_congr alike.unlisted]

/-- What has been listed makes no difference to a repair. -/
theorem Alike.repaired {index other : Option Index} (alike : Alike answer index other) (settings : Settings)
    (raw : Outcome) : repaired settings index raw = repaired settings other raw := by
  cases index with
  | none =>
      cases other with
      | none => rfl
      | some known => cases alike
  | some known =>
      cases other with
      | none => cases alike
      | some knownOther =>
          have same : known.unlisted = knownOther.unlisted := Option.some.inj alike.unlisted
          have repairs (outcome : Outcome) : repair outcome known settings = repair outcome knownOther settings := by
            rw [← repair_unlisted, same, repair_unlisted]
          simp only [Run.repaired, alike.counted, repairs]

theorem Alike.answered {index other : Option Index} (alike : Alike answer index other) (settings : Settings)
    (raw : Outcome) : answered answer settings index raw = answered answer settings other raw := by
  have repairs := alike.repaired settings raw
  cases index with
  | none =>
      cases other with
      | none => rfl
      | some known => cases alike
  | some known =>
      cases other with
      | none => cases alike
      | some knownOther =>
          have same : consulted answer known = consulted answer knownOther := Option.some.inj alike
          simp only [Run.answered, asked, repairs, reportFor, same]

theorem Alike.finished {index other : Option Index} (alike : Alike answer index other) (settings : Settings)
    (useAgents : Bool) (raw : Outcome) :
    finished answer settings useAgents index raw = finished answer settings useAgents other raw := by
  rw [Run.finished, Run.finished, alike.answered, alike.repaired]

theorem askAgents_fixed (settings : Settings) (useAgents : Bool) (known : Index) (outcome : Outcome) :
    let done := ((askAgents (Host.fixed answer) settings useAgents known outcome).run ()).1
    done.1 = (if useAgents then asked answer settings known outcome else outcome) ∧
      Alike answer (some done.2) (some known) := by
  have again : Alike answer (some (consulted answer known)) (some known) :=
    congrArg some (consulted_consulted known)
  cases useAgents with
  | false =>
      simp only [askAgents, Bool.not_false, Bool.or_true, Bool.true_or, if_true]
      exact ⟨rfl, rfl⟩
  | true =>
      cases settled : outcome.isComplete || settings.agents.isEmpty with
      | true =>
          simp only [askAgents, asked, Bool.not_true, Bool.or_false, settled, Bool.true_or, if_true]
          exact ⟨rfl, rfl⟩
      | false =>
          obtain ⟨complete, agents⟩ := Bool.or_eq_false_iff.mp settled
          simp only [askAgents, asked, recover, Bool.not_true, complete, agents, Bool.or_false, Bool.false_or,
            Bool.false_eq_true, if_false, if_true, Bool.not_false, Bool.and_true]
          cases outcome.hasSource with
          | true => exact ⟨rfl, again⟩
          | false => exact ⟨rfl, again⟩

/-- Completing a text is repairing it and, with agents, asking them; the index is alike afterwards. -/
theorem refine_fixed (settings : Settings) (useAgents : Bool) (loaded : Option Index) (raw : Outcome) :
    let done := ((refine (Host.fixed answer) settings useAgents loaded (counted raw loaded settings)).run ()).1
    done.1 = finished answer settings useAgents loaded raw ∧ Alike answer done.2 loaded := by
  cases loaded with
  | none =>
      cases useAgents <;> exact ⟨rfl, rfl⟩
  | some known =>
      cases complete : (counted raw (some known) settings).isComplete with
      | true =>
          simp only [refine, finished, answered, asked, repaired, complete, Bool.true_or, if_true, ite_self]
          exact ⟨rfl, rfl⟩
      | false =>
          simp only [refine, finished, answered, repaired, complete, Bool.false_eq_true, if_false]
          exact askAgents_fixed settings useAgents known _

/-- Agents leave a text with no more gaps than it had, unless the text of their report has more. -/
theorem answered_gaps_le {settings : Settings} {index : Option Index} {raw : Outcome}
    (fewer : ∀ known ∈ index, countGaps (reportFor answer settings known (repaired settings index raw).source).source
      (some known) settings ≤ (repaired settings index raw).gaps) :
    (answered answer settings index raw).gaps ≤ (repaired settings index raw).gaps := by
  cases index with
  | none => exact Nat.le_refl _
  | some known =>
      have report := fewer known rfl
      have listed : (some (consulted answer known)).map Index.unlisted = (some known).map Index.unlisted :=
        congrArg some (consulted_unlisted known)
      unfold answered asked applyReport
      dsimp only
      split
      · exact Nat.le_refl _
      · split
        · exact Nat.le_refl _
        · rw [Outcome.withStage, countGaps_congr listed]
          exact report

/-- A text is completed with the index of the artifact, whether it is loaded now or was before. -/
theorem completed_fixed (file : ArtifactFile) (settings : Settings) (useAgents : Bool) (raw : Outcome)
    {slot : Option (Option Index)} (known : ∀ loaded ∈ slot, Alike answer loaded (fixedIndex answer file settings)) :
    let done := ((completed (Host.fixed answer) file settings useAgents slot raw).run ()).1
    done.1 = finished answer settings useAgents (fixedIndex answer file settings) raw ∧
      Alike answer done.2 (fixedIndex answer file settings) := by
  cases slot with
  | none => exact refine_fixed settings useAgents (fixedIndex answer file settings) raw
  | some loaded =>
      have alike := known loaded rfl
      obtain ⟨outcome, index⟩ := refine_fixed settings useAgents loaded raw
      exact ⟨outcome.trans (alike.finished settings useAgents raw), index.trans alike⟩

/-! ### Runs -/

/-- One of several outcomes, and none of them has fewer gaps. -/
structure Fewest (all : List Outcome) (outcome : Outcome) : Prop where
  member : outcome ∈ all
  least : ∀ other ∈ all, outcome.gaps ≤ other.gaps

omit [Source.Grammar] in
/-- The better of the best outcome so far and one more. -/
theorem exists_keepBetter (best : Option Outcome) (outcome : Outcome) :
    ∃ kept, keepBetter best outcome = some kept ∧ Fewest (best.toList ++ [outcome]) kept := by
  cases best with
  | none => exact ⟨outcome, rfl, by simp, by simp⟩
  | some top =>
      by_cases fewer : outcome.gaps < top.gaps
      · refine ⟨outcome, if_pos fewer, by simp, ?_⟩
        simpa using Nat.le_of_lt fewer
      · refine ⟨top, if_neg fewer, by simp, ?_⟩
        simpa using Nat.le_of_not_lt fewer

omit [Source.Grammar] in
/-- The best of some outcomes stands for all of them. -/
theorem Fewest.append {early late : List Outcome} {kept last : Outcome} (first : Fewest early kept)
    (whole : Fewest (kept :: late) last) : Fewest (early ++ late) last where
  member := by
    rcases List.mem_cons.mp whole.member with isKept | isLate
    · rw [isKept]
      exact List.mem_append_left _ first.member
    · exact List.mem_append_right _ isLate
  least other member := by
    rcases List.mem_append.mp member with isEarly | isLate
    · exact Nat.le_trans (whole.least kept List.mem_cons_self) (first.least other isEarly)
    · exact whole.least other (List.mem_cons_of_mem _ isLate)

omit [Source.Grammar] in
/-- The best of some texts against the best of the same texts treated in another way. -/
theorem Fewest.gaps_le_iff {raws : List Outcome} {first second : Outcome → Outcome} {best other : Outcome}
    (fewest : Fewest (raws.map first) best) (fewestOther : Fewest (raws.map second) other) :
    best.gaps ≤ other.gaps ↔ ∃ raw ∈ raws, ∀ rival ∈ raws, (first raw).gaps ≤ (second rival).gaps := by
  constructor
  · intro fewer
    obtain ⟨raw, member, isBest⟩ := List.mem_map.mp fewest.member
    refine ⟨raw, member, fun rival isRival => ?_⟩
    rw [isBest]
    exact Nat.le_trans fewer (fewestOther.least _ (List.mem_map_of_mem isRival))
  · rintro ⟨raw, member, fewer⟩
    obtain ⟨rival, isRival, isOther⟩ := List.mem_map.mp fewestOther.member
    rw [← isOther]
    exact Nat.le_trans (fewest.least _ (List.mem_map_of_mem member)) (fewer rival isRival)

theorem tryBackends_fixed_cons (file : ArtifactFile) (settings : Settings) (useAgents : Bool) (spec : BackendSpec)
    (specs : List BackendSpec) (slot : Option (Option Index)) (best : Option Outcome) :
    ((tryBackends (Host.fixed answer) file settings useAgents (spec :: specs) slot best).run ()).1 =
      let raw := Backend.outcomeOf spec settings.gapMarker (answer (Backend.command spec file.path))
      let done := ((completed (Host.fixed answer) file settings useAgents slot raw).run ()).1
      if raw.hasSource then
        if done.1.isComplete then done.1
        else
          ((tryBackends (Host.fixed answer) file settings useAgents specs (some done.2)
            (keepBetter best done.1)).run ()).1
      else ((tryBackends (Host.fixed answer) file settings useAgents specs slot best).run ()).1 := by
  rw [tryBackends_cons]
  dsimp only
  rw [apply_ite Prod.fst, apply_ite Prod.fst]
  rfl

theorem texts_cons (file : ArtifactFile) (settings : Settings) (spec : BackendSpec) (specs : List BackendSpec) :
    texts answer file settings (spec :: specs) =
      let raw := Backend.outcomeOf spec settings.gapMarker (answer (Backend.command spec file.path))
      if raw.hasSource then raw :: texts answer file settings specs else texts answer file settings specs := by
  rw [texts, List.map_cons, List.filter_cons]
  rfl

variable (answer)

/-- The backends that are left: the run ends with the fewest gaps among the best outcome so far and all texts that
    are to come, although it may end before it has seen them all. -/
theorem tryBackends_fewest (file : ArtifactFile) (settings : Settings) (useAgents : Bool) (specs : List BackendSpec) :
    ∀ (slot : Option (Option Index)) (best : Option Outcome),
      (∀ loaded ∈ slot, Alike answer loaded (fixedIndex answer file settings)) →
      let outcome := ((tryBackends (Host.fixed answer) file settings useAgents specs slot best).run ()).1
      let all := best.toList ++ (texts answer file settings specs).map
        (finished answer settings useAgents (fixedIndex answer file settings))
      (all = [] ∧ outcome = .failureDocument (artifactName file.path)) ∨ Fewest all outcome := by
  induction specs with
  | nil =>
      intro slot best _
      cases best with
      | none => exact .inl ⟨rfl, rfl⟩
      | some top =>
          have single : Fewest [top] top := ⟨by simp, by simp⟩
          exact .inr single
  | cons spec specs ih =>
      intro slot best known
      dsimp only
      rw [tryBackends_fixed_cons, texts_cons]
      generalize Backend.outcomeOf spec settings.gapMarker (answer (Backend.command spec file.path)) = raw
      dsimp only
      cases raw.hasSource with
      | false => exact ih slot best known
      | true =>
          obtain ⟨outcome, index⟩ := completed_fixed file settings useAgents raw known
          generalize ((completed (Host.fixed answer) file settings useAgents slot raw).run ()).1 = done
            at outcome index
          simp only [if_true, List.map_cons, ← outcome]
          refine .inr ?_
          by_cases complete : done.1.isComplete = true
          -- nothing can have fewer gaps than a complete outcome
          · have none : done.1.gaps = 0 := by
              simp only [Outcome.isComplete, Bool.and_eq_true, beq_iff_eq] at complete
              exact complete.1
            rw [if_pos complete]
            exact ⟨by simp, fun other _ => none ▸ Nat.zero_le other.gaps⟩
          · obtain ⟨kept, keeps, fewest⟩ := exists_keepBetter best done.1
            rw [if_neg complete, keeps, List.append_cons]
            have later : ∀ loaded ∈ some done.2, Alike answer loaded (fixedIndex answer file settings) := by
              rintro loaded ⟨⟩
              exact index
            rcases ih (some done.2) (some kept) later with ⟨empty, _⟩ | rest
            · cases empty
            · exact fewest.append rest

/-- A whole run: without a text it ends in the failure document, otherwise with the fewest gaps of all texts. -/
theorem decompile_fewest (file : ArtifactFile) (settings : Settings) (useAgents : Bool) :
    let outcome := ((decompile (Host.fixed answer) file useAgents settings).run ()).1
    let raws := texts answer file settings settings.backends
    (raws = [] → outcome = .failureDocument (artifactName file.path)) ∧
      (raws ≠ [] →
        Fewest (raws.map (finished answer settings useAgents (fixedIndex answer file settings))) outcome) := by
  have ends := tryBackends_fewest answer file settings useAgents settings.backends none none nofun
  simp only [Option.toList_none, List.nil_append, List.map_eq_nil_iff] at ends
  rcases ends with ⟨empty, failed⟩ | fewest
  · exact ⟨fun _ => failed, fun some => absurd empty some⟩
  · refine ⟨fun empty => ?_, fun _ => fewest⟩
    rw [empty] at fewest
    cases fewest.member

end Fixed

end Run

/-- Asking agents or not, when every program does the same whenever it is run. The run with agents has no more gaps
    exactly when there is no text at all, or one of the answered texts has no more gaps than any repaired text. That
    is so when no text that the agents have made is taken with more gaps than the text it replaces. -/
theorem decompile_agents_gaps_le_iff (answer : Command → Except SpawnFault Completion) (file : ArtifactFile)
    (settings : Settings) :
    let gaps useAgents := ((decompile (Host.fixed answer) file useAgents settings).run ()).1.gaps
    let raws := Run.texts answer file settings settings.backends
    let index := Run.fixedIndex answer file settings
    let repaired := Run.repaired settings index
    let answered := Run.answered answer settings index
    (gaps true ≤ gaps false ↔ raws = [] ∨ ∃ raw ∈ raws, ∀ other ∈ raws, (answered raw).gaps ≤ (repaired other).gaps) ∧
    ((∀ raw ∈ raws, ∀ known ∈ index, countGaps (Run.reportFor answer settings known (repaired raw).source).source
        (some known) settings ≤ (repaired raw).gaps) → gaps true ≤ gaps false) := by
  intro gaps raws index repaired answered
  have asking := Run.decompile_fewest answer file settings true
  have resting := Run.decompile_fewest answer file settings false
  by_cases empty : raws = []
  -- without a text both runs end in the failure document
  · have same : gaps true = gaps false := congrArg Outcome.gaps ((asking.1 empty).trans (resting.1 empty).symm)
    exact ⟨⟨fun _ => .inl empty, fun _ => Nat.le_of_eq same⟩, fun _ => Nat.le_of_eq same⟩
  · have fewest := resting.2 empty
    have compare : gaps true ≤ gaps false ↔ ∃ raw ∈ raws, ∀ rival ∈ raws, (answered raw).gaps ≤ (repaired rival).gaps :=
      (asking.2 empty).gaps_le_iff fewest
    refine ⟨compare.trans ⟨.inr, fun found => found.resolve_left empty⟩, fun fewer => compare.mpr ?_⟩
    -- the best repaired text has no more gaps once it is answered
    obtain ⟨raw, member, isBest⟩ := List.mem_map.mp fewest.member
    refine ⟨raw, member, fun rival isRival => ?_⟩
    have best := fewest.least _ (List.mem_map_of_mem isRival)
    rw [← isBest] at best
    exact Nat.le_trans (Run.answered_gaps_le (fewer raw member)) best

end

/-- One backend and one agent, and a short marker. -/
def onePair : Settings where
  backends := [⟨.pycdc, none, none, defaultTimeout, none, false⟩]
  disassembler := none
  agents := [⟨.claude, none, none, none, none⟩]
  gapMarker := "# gap"

/-- An artifact with an empty module body. -/
def emptyArtifact : ArtifactFile where
  path := "m.pyc"
  contents := some ([85, 13, 13, 10] ++ List.replicate 12 0 ++ 99 :: List.replicate 24 0 ++
    [115, 0, 0, 0, 0, 41, 0, 41, 0, 41, 0, 41, 0, 41, 0, 122, 0, 122, 1, 109] ++ List.replicate 4 0 ++
    [115, 0, 0, 0, 0])

/-- A backend that always prints a class with a gap, and an agent that always gives one reply. -/
def gappedClassAnd (reply : String) (command : Command) : Except SpawnFault Completion :=
  .ok ⟨if command.program = AgentKind.claude.id then reply else "class A:\n  x = 1\n  # gap\n", "", .exited 0⟩

/-- The gap is filled. -/
def fillingReply : String :=
  "```\nclass A:\n  x = 2\n```"

/-- The gap is answered with two gaps. -/
def gappedReply : String :=
  "```\nclass A:\n  x = 1 # gap\n  y = 2 # gap\n```"

set_option maxRecDepth 4000 in
/-- An agent that fills the gap. -/
theorem decompile_agents_gaps_le_filled :
    let answer := gappedClassAnd fillingReply
    let index := Run.fixedIndex answer emptyArtifact onePair
    let repaired := Run.repaired onePair index
    (∀ raw ∈ Run.texts answer emptyArtifact onePair onePair.backends, (repaired raw).gaps = 1 ∧
      ∀ known ∈ index,
        countGaps (Run.reportFor answer onePair known (repaired raw).source).source (some known) onePair = 0) ∧
    ((decompile (Host.fixed answer) emptyArtifact true onePair).run ()).1.gaps ≤
      ((decompile (Host.fixed answer) emptyArtifact false onePair).run ()).1.gaps := by
  intro answer index repaired
  have fills : ∀ raw ∈ Run.texts answer emptyArtifact onePair onePair.backends, (repaired raw).gaps = 1 ∧
      ∀ known ∈ index, countGaps (Run.reportFor answer onePair known (repaired raw).source).source (some known)
        onePair = 0 := by
    unfold repaired index answer
    decide +kernel
  refine ⟨fills, (decompile_agents_gaps_le_iff answer emptyArtifact onePair).2 fun raw member known found => ?_⟩
  rw [(fills raw member).2 known found]
  exact Nat.zero_le _

set_option maxRecDepth 4000 in
/-- An agent that answers one gap with two: the run without it has fewer. -/
theorem decompile_agents_more_gaps :
    ¬ ∀ (answer : Command → Except SpawnFault Completion) (file : ArtifactFile) (settings : Settings),
      ((decompile (Host.fixed answer) file true settings).run ()).1.gaps ≤
        ((decompile (Host.fixed answer) file false settings).run ()).1.gaps := by
  intro fewer
  have asking :
      ((decompile (Host.fixed (gappedClassAnd gappedReply)) emptyArtifact true onePair).run ()).1.gaps = 2 := by
    decide +kernel
  have resting :
      ((decompile (Host.fixed (gappedClassAnd gappedReply)) emptyArtifact false onePair).run ()).1.gaps = 1 := by
    decide +kernel
  have both := fewer (gappedClassAnd gappedReply) emptyArtifact onePair
  rw [asking, resting] at both
  exact Nat.not_succ_le_self 1 both

end SourceRecovery
