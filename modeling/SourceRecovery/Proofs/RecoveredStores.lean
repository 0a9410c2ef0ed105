/-
Module: SourceRecovery.Proofs.RecoveredStores
Layer: Proofs
Purpose: What is recovered from a module body, name by name. A wanted name has a value exactly when its last store
  in the order of the instructions can be traced, whatever earlier stores of it look like.
Imports: SourceRecovery.Analysis.Replay
Trusted boundary: none
Main exports: Replay.storedName?, Replay.lastTrace?, Replay.distinct_recover, Replay.mem_recover_iff, Replay.LastStore,
  Replay.exists_lastStore, Replay.lastTrace?_eq_some_iff, Replay.mem_storedNames_iff
Open obligations: none
-/
import SourceRecovery.Analysis.Replay

namespace SourceRecovery.Replay

/-- The name that an instruction stores. -/
def storedName? (u : CodeUnit) (ins : Instruction) : Option String :=
  if ins.op.stores then u.nameAt? ins.arg else none

/-- The value traced at the last store of a name in instructions that are given with the last one first. -/
def lastTrace? (u : CodeUnit) (name : String) : List Instruction → Option Value
  | [] => none
  | ins :: earlier =>
    if storedName? u ins = some name then traceValue u earlier else lastTrace? u name earlier

/-! ### Bindings -/

section

variable {found : Bindings} {name : String} {value : Value}

/-- The names of bindings, each of them once. -/
def Distinct (found : Bindings) : Prop :=
  (found.map Prod.fst).Nodup

/-- A binding replaces the one of its name and leaves all others. -/
theorem mem_bind_iff (distinct : Distinct found) {entry : String × Value} :
    entry ∈ bind name value found ↔ entry = (name, value) ∨ entry ∈ found ∧ entry.1 ≠ name := by
  induction found with
  | nil =>
      simp [bind]
  | cons first rest ih =>
      obtain ⟨fresh, distinct⟩ := List.nodup_cons.mp distinct
      rw [bind]
      split
      case isTrue same =>
          rw [beq_iff_eq] at same
          have others : entry ∈ rest → entry.1 ≠ name := by
            rintro member isName
            exact fresh (List.mem_map.mpr ⟨entry, member, isName.trans same.symm⟩)
          constructor
          · intro member
            rcases List.mem_cons.mp member with isNew | inRest
            · exact .inl isNew
            · exact .inr ⟨List.mem_cons_of_mem first inRest, others inRest⟩
          · rintro (isNew | ⟨member, differs⟩)
            · exact List.mem_cons.mpr (.inl isNew)
            · rcases List.mem_cons.mp member with rfl | inRest
              · exact absurd same differs
              · exact List.mem_cons_of_mem _ inRest
      case isFalse differs =>
          rw [List.mem_cons, ih distinct, List.mem_cons]
          constructor
          · rintro (rfl | isNew | ⟨inRest, other⟩)
            · exact .inr ⟨.inl rfl, fun same => differs (beq_iff_eq.mpr same)⟩
            · exact .inl isNew
            · exact .inr ⟨.inr inRest, other⟩
          · rintro (isNew | ⟨rfl | inRest, other⟩)
            · exact .inr (.inl isNew)
            · exact .inl rfl
            · exact .inr (.inr ⟨inRest, other⟩)

theorem distinct_bind (distinct : Distinct found) : Distinct (bind name value found) := by
  induction found with
  | nil =>
      simp [Distinct, bind]
  | cons first rest ih =>
      have whole := distinct
      obtain ⟨fresh, distinct⟩ := List.nodup_cons.mp distinct
      rw [bind]
      split
      case isTrue same =>
          rw [beq_iff_eq] at same
          rw [Distinct, List.map_cons, ← same]
          exact whole
      case isFalse differs =>
          apply List.nodup_cons.mpr
          refine ⟨?_, ih distinct⟩
          intro member
          obtain ⟨entry, isEntry, same⟩ := List.mem_map.mp member
          rcases (mem_bind_iff distinct).mp isEntry with rfl | ⟨inRest, _⟩
          · exact differs (beq_iff_eq.mpr same.symm)
          · exact fresh (List.mem_map.mpr ⟨entry, inRest, same⟩)

/-! ### Stores one after another -/

variable {u : CodeUnit} {wanted : List String} {earlier : List Instruction} {ins : Instruction}

/-- An instruction decides the name it stores when that name is wanted, and no other. -/
theorem mem_observe_iff (distinct : Distinct found) :
    (name, value) ∈ observe u wanted earlier ins found ↔
      if storedName? u ins = some name ∧ name ∈ wanted then traceValue u earlier = some value
      else (name, value) ∈ found := by
  have isStored : (if ins.op.stores then u.nameAt? ins.arg else none) = storedName? u ins := rfl
  rw [observe, isStored]
  cases stores : storedName? u ins with
  | none =>
      rw [if_neg (by simp)]
  | some stored =>
      dsimp only
      by_cases isWanted : wanted.contains stored = true
      · rw [if_pos isWanted]
        by_cases same : stored = name
        · have isMember : name ∈ wanted := by rw [← same]; exact List.contains_iff_mem.mp isWanted
          rw [if_pos ⟨congrArg some same, isMember⟩]
          cases traced : traceValue u earlier with
          | none =>
              simp [same]
          | some newest =>
              dsimp only
              rw [mem_bind_iff distinct]
              simp [same, eq_comm]
        · rw [if_neg (fun both => same (Option.some.inj both.1))]
          cases traced : traceValue u earlier with
          | none =>
              simp [Ne.symm same]
          | some newest =>
              dsimp only
              rw [mem_bind_iff distinct]
              simp [Ne.symm same]
      · rw [if_neg isWanted, if_neg]
        rintro ⟨same, isMember⟩
        rw [Option.some.inj same] at isWanted
        exact isWanted (List.contains_iff_mem.mpr isMember)

theorem distinct_observe (distinct : Distinct found) : Distinct (observe u wanted earlier ins found) := by
  unfold observe
  split
  · exact distinct
  · split
    · split
      · exact distinct_bind distinct
      · exact List.Nodup.sublist (List.filter_sublist.map _) distinct
    · exact distinct

/-- The bindings found so far are the traced last stores of wanted names. -/
theorem mem_recoverFrom_iff (remaining : List Instruction) (distinct : Distinct found)
    (sofar : ∀ name value, (name, value) ∈ found ↔ name ∈ wanted ∧ lastTrace? u name earlier = some value) :
    (name, value) ∈ recoverFrom u wanted earlier remaining found ↔
      name ∈ wanted ∧ lastTrace? u name (remaining.reverse ++ earlier) = some value := by
  induction remaining generalizing earlier found with
  | nil =>
      exact sofar name value
  | cons ins rest ih =>
      rw [recoverFrom, List.reverse_cons, List.append_assoc, List.singleton_append]
      apply ih (distinct_observe distinct)
      intro name value
      rw [mem_observe_iff distinct, lastTrace?]
      by_cases stores : storedName? u ins = some name
      · rw [if_pos stores]
        by_cases isWanted : name ∈ wanted
        · rw [if_pos ⟨stores, isWanted⟩]
          exact ⟨fun traced => ⟨isWanted, traced⟩, fun both => both.2⟩
        · rw [if_neg (fun both => isWanted both.2), sofar]
          exact ⟨fun both => absurd both.1 isWanted, fun both => absurd both.1 isWanted⟩
      · rw [if_neg stores, if_neg (fun both => stores both.1), sofar]

/-- However the stores go, every name is found once. -/
theorem distinct_recoverFrom (remaining : List Instruction) (distinct : Distinct found) :
    Distinct (recoverFrom u wanted earlier remaining found) := by
  induction remaining generalizing earlier found with
  | nil =>
      exact distinct
  | cons ins rest ih =>
      rw [recoverFrom]
      exact ih (distinct_observe distinct)

end

theorem distinct_recover (u : CodeUnit) (wanted : List String) : Distinct (recover u wanted) :=
  distinct_recoverFrom u.instructions List.nodup_nil

/-- A name is recovered with a value exactly when it is wanted and its last store traces to the value. -/
theorem mem_recover_iff {u : CodeUnit} {wanted : List String} {name : String} {value : Value} :
    (name, value) ∈ recover u wanted ↔
      name ∈ wanted ∧ lastTrace? u name u.instructions.reverse = some value := by
  have initial : ∀ name value,
      (name, value) ∈ ([] : Bindings) ↔ name ∈ wanted ∧ lastTrace? u name [] = some value := by
    intro name value
    constructor
    · intro absurd
      cases absurd
    · rintro ⟨_, absurd⟩
      cases absurd
  have distinct : Distinct [] := List.nodup_nil
  have found : (name, value) ∈ recover u wanted ↔ _ := mem_recoverFrom_iff u.instructions distinct initial
  rwa [List.append_nil] at found

/-! ### The last store of a name -/

/-- The instruction at a position stores a name. -/
def StoresAt (u : CodeUnit) (name : String) (position : Nat) : Prop :=
  ∃ ins, u.instructions[position]? = some ins ∧ storedName? u ins = some name

/-- A position is the last one that stores a name. -/
structure LastStore (u : CodeUnit) (name : String) (position : Nat) : Prop where
  stores : StoresAt u name position
  last : ∀ other, StoresAt u name other → other ≤ position

/-- The instructions before a position, the last one first. -/
def earlierThan (u : CodeUnit) (position : Nat) : List Instruction :=
  (u.instructions.take position).reverse

/-- A traced last store cuts the instructions, which are given with the last one first. -/
theorem exists_cut_of_lastTrace? {u : CodeUnit} {name : String} {value : Value} {earlier : List Instruction}
    (traced : lastTrace? u name earlier = some value) :
    ∃ later store before, earlier = later ++ store :: before ∧ storedName? u store = some name ∧
      (∀ ins ∈ later, storedName? u ins ≠ some name) ∧ traceValue u before = some value := by
  induction earlier with
  | nil =>
      cases traced
  | cons ins rest ih =>
      rw [lastTrace?] at traced
      split at traced
      case isTrue stores =>
          exact ⟨[], ins, rest, rfl, stores, List.forall_mem_nil _, traced⟩
      case isFalse passes =>
          obtain ⟨later, store, before, rfl, stores, none, value⟩ := ih traced
          refine ⟨ins :: later, store, before, rfl, stores, ?_, value⟩
          intro other member
          rcases List.mem_cons.mp member with rfl | inLater
          · exact passes
          · exact none other inLater

/-- A recovered value is the value traced at the last store of its name. -/
theorem exists_lastStore {u : CodeUnit} {name : String} {value : Value}
    (traced : lastTrace? u name u.instructions.reverse = some value) :
    ∃ position, LastStore u name position ∧ traceValue u (earlierThan u position) = some value := by
  obtain ⟨later, store, before, cut, stores, none, value⟩ := exists_cut_of_lastTrace? traced
  have whole : u.instructions = before.reverse ++ store :: later.reverse := by
    rw [← List.reverse_reverse u.instructions, cut]
    simp
  refine ⟨before.reverse.length, ⟨⟨store, ?_, stores⟩, ?_⟩, ?_⟩
  · rw [whole, List.getElem?_append_right (Nat.le_refl _), Nat.sub_self]
    rfl
  · rintro other ⟨ins, found, isName⟩
    apply Nat.le_of_not_lt
    intro after
    rw [whole, List.getElem?_append_right (Nat.le_of_lt after),
      show other - before.reverse.length = other - before.reverse.length - 1 + 1 by omega,
      List.getElem?_cons_succ] at found
    exact none ins (List.mem_reverse.mp (List.mem_of_getElem? found)) isName
  · rw [earlierThan, whole, List.take_left, List.reverse_reverse]
    exact value

/-- Instructions that do not store the name leave its last store to those before them. -/
theorem lastTrace?_append {u : CodeUnit} {name : String} {later : List Instruction}
    (none : ∀ ins ∈ later, storedName? u ins ≠ some name) (earlier : List Instruction) :
    lastTrace? u name (later ++ earlier) = lastTrace? u name earlier := by
  induction later with
  | nil =>
      rfl
  | cons ins later ih =>
      obtain ⟨passes, others⟩ := List.forall_mem_cons.mp none
      rw [List.cons_append, lastTrace?, if_neg passes]
      exact ih others

/-- The value traced at the last store of a name is recovered. -/
theorem lastTrace?_of_lastStore {u : CodeUnit} {name : String} {position : Nat} (last : LastStore u name position) :
    lastTrace? u name u.instructions.reverse = traceValue u (earlierThan u position) := by
  obtain ⟨ins, found, stores⟩ := last.stores
  obtain ⟨inside, isInstruction⟩ := List.getElem?_eq_some_iff.mp found
  have whole : u.instructions.reverse =
      (u.instructions.drop (position + 1)).reverse ++ ins :: earlierThan u position := by
    have cut : u.instructions = u.instructions.take position ++ ins :: u.instructions.drop (position + 1) := by
      rw [← isInstruction, List.getElem_cons_drop, List.take_append_drop]
    have reversed := congrArg List.reverse cut
    rw [List.reverse_append, List.reverse_cons, List.append_assoc, List.singleton_append] at reversed
    exact reversed
  have after : ∀ other ∈ (u.instructions.drop (position + 1)).reverse, storedName? u other ≠ some name := by
    intro other member isName
    obtain ⟨offset, atOffset⟩ := List.mem_iff_getElem?.mp (List.mem_reverse.mp member)
    rw [List.getElem?_drop] at atOffset
    have noLater := last.last (position + 1 + offset) ⟨other, atOffset, isName⟩
    omega
  rw [whole, lastTrace?_append after, lastTrace?, if_pos stores]

/-- The values that can be recovered are those traced at last stores. -/
theorem lastTrace?_eq_some_iff {u : CodeUnit} {name : String} {value : Value} :
    lastTrace? u name u.instructions.reverse = some value ↔
      ∃ position, LastStore u name position ∧ traceValue u (earlierThan u position) = some value := by
  refine ⟨exists_lastStore, ?_⟩
  rintro ⟨position, last, traced⟩
  rw [lastTrace?_of_lastStore last, traced]

/-- A name is stored by a unit exactly when some instruction stores it. -/
theorem mem_storedNames_iff {u : CodeUnit} {name : String} : name ∈ u.storedNames ↔ ∃ position, StoresAt u name position := by
  rw [CodeUnit.storedNames, List.mem_filterMap]
  constructor
  · rintro ⟨ins, member, named⟩
    obtain ⟨inUnit, stores⟩ := List.mem_filter.mp member
    obtain ⟨position, isInstruction⟩ := List.mem_iff_getElem?.mp inUnit
    refine ⟨position, ins, isInstruction, ?_⟩
    rw [storedName?, if_pos stores, named]
  · rintro ⟨position, ins, isInstruction, stored⟩
    rw [storedName?] at stored
    split at stored
    case isTrue stores =>
        exact ⟨ins, List.mem_filter.mpr ⟨List.mem_of_getElem? isInstruction, stores⟩, stored⟩
    case isFalse =>
        cases stored

end SourceRecovery.Replay
