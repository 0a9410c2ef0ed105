/-
Module: SourceRecovery.Proofs.AppendedConstants
Layer: Proofs
Purpose: Which constants repair appends to a text. They are those that the text has lost: it does not bind the name, and
  the last store of the name in the module body can be traced. Repair takes the text with all of them or leaves the
  outcome as it was. What counts as bound is what the rules of the text's tree say: a loop binds nothing, and an import
  inside a function does.
Imports: Mathlib.Data.List.Infix, SourceRecovery.Proofs.ModuleBindings, SourceRecovery.Proofs.RepairPasses,
  SourceRecovery.Proofs.TextSearch
Trusted boundary: none
Main exports: Source.BindsName, Repair.Lost, Repair.mem_recover_missing_iff, Repair.withConstants, repair_appends_lost,
  repair_not_appendsExactly
Open obligations: none
-/
import Mathlib.Data.List.Infix
import SourceRecovery.Proofs.ModuleBindings
import SourceRecovery.Proofs.RepairPasses
import SourceRecovery.Proofs.TextSearch

namespace SourceRecovery

section

variable [Source.Grammar] {index : Index} {text name : String} {value : Value}

/-- An acceptable text binds a name at module level. -/
def Source.BindsName (text name : String) : Prop :=
  ∃ tree, Source.check text = .ok tree ∧ Source.Binds text tree name

/-- The names that are collected from an acceptable text are those it binds. -/
theorem Source.exists_unbound_iff :
    (∃ bound, Source.boundNames? text = some bound ∧ name ∉ bound) ↔
      Source.isValid text = true ∧ ¬ Source.BindsName text name := by
  unfold Source.boundNames? Source.isValid Source.BindsName
  cases Source.check text with
  | error problem =>
      simp
  | ok tree =>
      simp [Source.mem_boundNames_iff]

omit [Source.Grammar] in
/-- A name counts when it is none of those that compilers store on their own, not private and not dotted. -/
theorem isReportable_iff :
    isReportable name = true ↔ name ∉ ignoredNames ∧ name.toList.head? ≠ some '_' ∧ '.' ∉ name.toList := by
  have private_iff : Text.startsWith name "_" = true ↔ name.toList.head? = some '_' := by
    rw [Text.startsWith, Text.Chars.startsWith]
    cases name.toList with
    | nil =>
        simp
    | cons c cs =>
        have first : "_".toList.isPrefixOf (c :: cs) = ('_' == c) := Bool.and_true _
        rw [first, beq_iff_eq, List.head?_cons, Option.some_inj]
        exact eq_comm
  have dotted_iff : Text.contains name "." = true ↔ '.' ∈ name.toList := by
    rw [Text.contains, Text.Chars.contains_iff_infix]
    exact List.singleton_infix_iff '.' name.toList
  rw [isReportable, Bool.and_eq_true, Bool.and_eq_true, Bool.not_eq_true', Bool.not_eq_true', Bool.not_eq_true',
    ← Bool.not_eq_true, ← Bool.not_eq_true, ← Bool.not_eq_true, private_iff, dotted_iff, List.contains_iff_mem, and_assoc]

namespace Repair

/-- A text has lost a constant, by a notion of what texts bind: the text is acceptable and does not bind the name, the
    name counts, and the last store of it in the module body traces to the value. -/
structure Lost (binds : String → String → Prop) (text : String) (index : Index) (name : String) (value : Value) :
    Prop where
  acceptable : Source.isValid text = true
  unbound : ¬ binds text name
  counts : name ∉ ignoredNames ∧ name.toList.head? ≠ some '_' ∧ '.' ∉ name.toList
  traced : ∃ position, Replay.LastStore index.rootUnit name position ∧
    Replay.traceValue index.rootUnit (Replay.earlierThan index.rootUnit position) = some value

theorem mem_missingConstants_iff_unbound :
    name ∈ missingConstants text index ↔
      (Source.isValid text = true ∧ ¬ Source.BindsName text name) ∧ name ∈ index.rootUnit.storedNames ∧
        isReportable name = true := by
  rw [mem_missingConstants_iff, ← Source.exists_unbound_iff]
  constructor
  · rintro ⟨bound, isBound, stored, unbound, reportable⟩
    exact ⟨⟨bound, isBound, unbound⟩, stored, reportable⟩
  · rintro ⟨⟨bound, isBound, unbound⟩, stored, reportable⟩
    exact ⟨bound, isBound, stored, unbound, reportable⟩

/-- The constants that are recovered for a text are those it has lost. -/
theorem mem_recover_missing_iff :
    (name, value) ∈ Replay.recover index.rootUnit (missingConstants text index) ↔
      Lost Source.BindsName text index name value := by
  rw [Replay.mem_recover_iff, Replay.lastTrace?_eq_some_iff, mem_missingConstants_iff_unbound, isReportable_iff]
  constructor
  · rintro ⟨⟨⟨acceptable, unbound⟩, _, counts⟩, traced⟩
    exact ⟨acceptable, unbound, counts, traced⟩
  · rintro ⟨acceptable, unbound, counts, position, last, traced⟩
    have stored : name ∈ index.rootUnit.storedNames := Replay.mem_storedNames_iff.mpr ⟨position, last.stores⟩
    exact ⟨⟨⟨acceptable, unbound⟩, stored, counts⟩, position, last, traced⟩

/-- A text with the assignments of constants at its end; without constants it stays as it is. -/
def withConstants (text : String) (entries : Replay.Bindings) : String :=
  match entries with
  | [] => text
  | entries => Patch.appendConstants text (entries.map fun entry => entry.2.assignment entry.1)

/-- A patched text is the text with its stubs and with the constants that are recovered for it. -/
theorem patched_eq_withConstants (source : String) (index : Index) (settings : Settings) :
    patched source index settings =
      withConstants (stubbed source index settings)
        (Replay.recover index.rootUnit (missingConstants (stubbed source index settings) index)) := by
  cases recovered : Replay.recover index.rootUnit (missingConstants (stubbed source index settings) index) with
  | nil =>
      apply patched_of_lostConstants_eq_nil
      rw [lostConstants, recovered, List.map_nil]
  | cons first rest =>
      rw [patched, lostConstants, recovered]
      generalize stubbed source index settings = text
      rfl

end Repair

/-- Repair patches a text with its stubs and with the assignments of exactly those constants that the stubbed text has
    lost, each of them once. It takes this text when the patch is accepted, and leaves the outcome as it is otherwise. -/
theorem repair_appends_lost (outcome : Outcome) (index : Index) (settings : Settings) :
    let text := Repair.stubbed outcome.source index settings
    ∃ entries : Replay.Bindings,
      (entries.map Prod.fst).Nodup ∧
      (∀ name value, (name, value) ∈ entries ↔ Repair.Lost Source.BindsName text index name value) ∧
      Repair.patched outcome.source index settings = Repair.withConstants text entries ∧
      (Repair.Accepts outcome.source index settings →
        (repair outcome index settings).source = Repair.withConstants text entries) ∧
      (¬ Repair.Accepts outcome.source index settings → repair outcome index settings = outcome) := by
  intro text
  have isPatched := Repair.patched_eq_withConstants outcome.source index settings
  refine ⟨Replay.recover index.rootUnit (missingConstants text index), Replay.distinct_recover _ _, ?_, isPatched, ?_,
    repair_of_not_accepts⟩
  · intro name value
    exact Repair.mem_recover_missing_iff
  · intro accepts
    rw [repair_source_of_accepts accepts]
    exact isPatched

/-! ### Lost constants under other notions of binding -/

namespace Repair

/-- Repair appends the constants: its text is the stubbed one with their assignments, or the text it was given when
    there are none. -/
def Appends (outcome : Outcome) (index : Index) (settings : Settings) (entries : Replay.Bindings) : Prop :=
  (repair outcome index settings).source = withConstants (stubbed outcome.source index settings) entries ∨
    entries = [] ∧ (repair outcome index settings).source = outcome.source

/-- By a notion of what texts bind, repair appends exactly the constants that the stubbed text has lost, each of them
    once and whatever the outcome is. -/
def AppendsExactly (binds : String → String → Prop) : Prop :=
  ∀ (outcome : Outcome) (index : Index) (settings : Settings), ∃ entries : Replay.Bindings,
    (entries.map Prod.fst).Nodup ∧
      (∀ name value, (name, value) ∈ entries ↔ Lost binds (stubbed outcome.source index settings) index name value) ∧
      Appends outcome index settings entries

omit [Source.Grammar] in
/-- Constants behind a text with at most two blanks at its end make it longer. -/
theorem withConstants_ne {entries : Replay.Bindings} (nonempty : entries ≠ [])
    (short : text.length ≤ (Text.trimEnd text).length + 2) : withConstants text entries ≠ text := by
  cases entries with
  | nil =>
      exact absurd rfl nonempty
  | cons first rest =>
      intro same
      have lengths := congrArg String.length same
      rw [withConstants, Patch.appendConstants] at lengths
      · simp only [String.length_append] at lengths
        have gap : "\n\n".length = 2 := rfl
        have lineEnd : "\n".length = 1 := rfl
        omega
      · simp

/-- A text without gaps, as a decompiler gives it. -/
def printed (text : String) : Outcome where
  source := text
  backend := "pycdc"
  gaps := 0

omit [Source.Grammar] in
theorem source_printed (text : String) : (printed text).source = text :=
  rfl

variable {binds : String → String → Prop} {settings : Settings}

/-- A text that has lost a constant and that repair leaves alone refutes a notion of binding. -/
theorem not_appendsExactly_of_unchanged (stubs : stubbed text index settings = text)
    (lost : Lost binds text index name value) (short : text.length ≤ (Text.trimEnd text).length + 2)
    (unchanged : (repair (printed text) index settings).source = text) : ¬ AppendsExactly binds := by
  intro exactly
  obtain ⟨entries, _, isLost, appends⟩ := exactly (printed text) index settings
  rw [source_printed, stubs] at isLost
  rw [Appends, source_printed, stubs, unchanged] at appends
  have nonempty : entries ≠ [] := List.ne_nil_of_mem ((isLost name value).mpr lost)
  rcases appends with appended | ⟨empty, _⟩
  · exact withConstants_ne nonempty short appended.symm
  · exact nonempty empty

/-- A text that binds every name stored in the module body and that repair changes refutes a notion of binding. -/
theorem not_appendsExactly_of_changed (stubs : stubbed text index settings = text)
    (bound : ∀ name ∈ index.rootUnit.storedNames, binds text name)
    (changed : (repair (printed text) index settings).source ≠ text) : ¬ AppendsExactly binds := by
  intro exactly
  obtain ⟨entries, _, isLost, appends⟩ := exactly (printed text) index settings
  rw [source_printed, stubs] at isLost
  rw [Appends, source_printed, stubs] at appends
  -- a lost constant has a store in the module body, and the text binds every name that has one
  have empty : entries = [] := by
    apply List.eq_nil_iff_forall_not_mem.mpr
    rintro ⟨name, value⟩ member
    have lost := (isLost name value).mp member
    obtain ⟨position, last, _⟩ := lost.traced
    exact lost.unbound (bound name (Replay.mem_storedNames_iff.mpr ⟨position, last.stores⟩))
  rcases appends with appended | ⟨_, unchanged⟩
  · rw [empty] at appended
    exact changed appended
  · exact changed unchanged

end Repair

end

/-- A module that stores one constant. -/
def storing (value : Value) : Index :=
  Index.ofModule
    { version := ⟨3, 8⟩
      units :=
        [{ CodeUnit.empty "<module>" ⟨3, 8⟩ with
           instructions := Instruction.decode ⟨3, 8⟩ [100, 0, 90, 0], consts := [value], names := ["X"] }]
      root := 0 }

/-- An acceptable text that does not bind the one name of a module has lost its constant. -/
theorem lost_storing {binds : String → String → Prop} {text : String} {value : Value}
    (traced : Replay.lastTrace? (storing value).rootUnit "X" (storing value).rootUnit.instructions.reverse = some value)
    (acceptable : Source.isValid text = true) (unbound : ¬ binds text "X") :
    Repair.Lost binds text (storing value) "X" value :=
  ⟨acceptable, unbound, by decide, Replay.lastTrace?_eq_some_iff.mp traced⟩

/-- Repair does not append exactly the lost constants of every outcome, by no notion of binding for which an assignment
    to one name leaves another one unbound: it appends nothing when the patch has more gaps, as a constant has that
    reads as a marker. Nor does it by a notion for which a loop binds its target, which is appended all the same, or for
    which an import inside a function does not bind at module level, where nothing is appended. -/
theorem repair_not_appendsExactly :
    (∀ binds : String → String → Prop, ¬ binds "y = 1\n" "X" → ¬ Repair.AppendsExactly binds) ∧
      (∀ binds : String → String → Prop, binds "for X in (1, 2):\n    pass\n" "X" → ¬ Repair.AppendsExactly binds) ∧
      (∀ binds : String → String → Prop, ¬ binds "def f():\n    import X\n" "X" → ¬ Repair.AppendsExactly binds) := by
  refine ⟨?_, ?_, ?_⟩
  · -- the assignment holds the marker of a gap, so the patch has one gap more
    intro binds unbound
    have lost : Repair.Lost binds "y = 1\n" (storing (.str "# WARNING: Decompyle incomplete")) "X" _ :=
      lost_storing rfl (by decide +kernel) unbound
    have unchanged : (repair (Repair.printed "y = 1\n") (storing (.str "# WARNING: Decompyle incomplete")) { }).source =
        "y = 1\n" := by
      decide +kernel
    have stubs : Repair.stubbed "y = 1\n" (storing (.str "# WARNING: Decompyle incomplete")) { } = "y = 1\n" := by
      decide +kernel
    exact Repair.not_appendsExactly_of_unchanged stubs lost (by decide) unchanged
  · intro binds bound
    have stored : (storing (.int 5)).rootUnit.storedNames = ["X"] := rfl
    have changed : (repair (Repair.printed "for X in (1, 2):\n    pass\n") (storing (.int 5)) { }).source ≠
        "for X in (1, 2):\n    pass\n" := by
      decide +kernel
    have stubs : Repair.stubbed "for X in (1, 2):\n    pass\n" (storing (.int 5)) { } =
        "for X in (1, 2):\n    pass\n" := by
      decide +kernel
    refine Repair.not_appendsExactly_of_changed stubs ?_ changed
    rw [stored]
    intro name member
    rw [List.mem_singleton.mp member]
    exact bound
  · intro binds unbound
    have lost : Repair.Lost binds "def f():\n    import X\n" (storing (.int 5)) "X" _ :=
      lost_storing rfl (by decide +kernel) unbound
    have unchanged : (repair (Repair.printed "def f():\n    import X\n") (storing (.int 5)) { }).source =
        "def f():\n    import X\n" := by
      decide +kernel
    have stubs : Repair.stubbed "def f():\n    import X\n" (storing (.int 5)) { } = "def f():\n    import X\n" := by
      decide +kernel
    exact Repair.not_appendsExactly_of_unchanged stubs lost (by decide) unchanged

end SourceRecovery
