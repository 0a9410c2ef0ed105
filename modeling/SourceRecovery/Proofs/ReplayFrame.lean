/-
Module: SourceRecovery.Proofs.ReplayFrame
Layer: Proofs
Purpose: A replay does not depend on what lies below on the stack. An instruction that has a result on a stack
  has the same result on top of any other values, and so has a run; the run before a store therefore leaves the
  traced value on whatever stack the store is reached with. That run is the longest one of literal builders before the
  store that fits in the window, also when the window cuts it off.
Imports: SourceRecovery.Analysis.Replay
Trusted boundary: none
Main exports: Replay.step_append, Replay.run_append, Replay.tracedRun, Replay.run_of_traceValue, Replay.run_tracedRun,
  Replay.traceValue_any_stack, Replay.literalRun_append, Replay.traceValue_of_literalRun
Open obligations: none
-/
import SourceRecovery.Analysis.Replay

namespace SourceRecovery.Replay

section

variable {stack after below : Stack}

/-! ### Single instructions -/

theorem pop?_append {count : Nat} {items : List Value} (popped : pop? count stack = some (items, after))
    (below : Stack) : pop? count (stack ++ below) = some (items, after ++ below) := by
  unfold pop? at popped ⊢
  split at popped
  case isTrue enough =>
      cases popped
      rw [if_pos (by rw [List.length_append]; omega), List.take_append_of_le_length enough,
        List.drop_append_of_le_length enough]
  case isFalse =>
      cases popped

theorem change?_append {slot : Nat} {f : Value → Option Value} (changed : change? slot f stack = some after)
    (below : Stack) : change? slot f (stack ++ below) = some (after ++ below) := by
  induction stack generalizing slot after with
  | nil =>
      simp [change?] at changed
  | cons top rest ih =>
      match slot with
      | 0 =>
          cases changed
      | 1 =>
          obtain ⟨value, isValue, rfl⟩ := Option.map_eq_some_iff.mp changed
          exact Option.map_eq_some_iff.mpr ⟨value, isValue, rfl⟩
      | slot + 2 =>
          obtain ⟨deeper, isDeeper, rfl⟩ := Option.map_eq_some_iff.mp changed
          exact Option.map_eq_some_iff.mpr ⟨deeper ++ below, ih isDeeper, rfl⟩

theorem buildKeyed?_append {count : Nat} (built : buildKeyed? count stack = some after) (below : Stack) :
    buildKeyed? count (stack ++ below) = some (after ++ below) := by
  cases stack with
  | nil =>
      cases built
  | cons top rest =>
      obtain ⟨keys, isKeys, built⟩ := Option.bind_eq_some_iff.mp built
      split at built
      case isTrue fits =>
          obtain ⟨⟨values, deeper⟩, isPopped, isAfter⟩ := Option.bind_eq_some_iff.mp built
          cases isAfter
          apply Option.bind_eq_some_iff.mpr
          refine ⟨keys, isKeys, ?_⟩
          rw [if_pos fits]
          exact Option.bind_eq_some_iff.mpr ⟨_, pop?_append isPopped below, rfl⟩
      case isFalse =>
          cases built

/-- An instruction that builds a container from the topmost values builds it on top of any stack. -/
theorem build_append {count : Nat} (build : List Value → Value)
    (built : (pop? count stack).map (fun popped => build popped.1 :: popped.2) = some after) (below : Stack) :
    (pop? count (stack ++ below)).map (fun popped => build popped.1 :: popped.2) = some (after ++ below) := by
  obtain ⟨⟨items, deeper⟩, isPopped, rfl⟩ := Option.map_eq_some_iff.mp built
  exact Option.map_eq_some_iff.mpr ⟨_, pop?_append isPopped below, rfl⟩

/-- An instruction that adds the items of the topmost value to a container does so on top of any stack. -/
theorem extend_append {slot : Nat} {top : Value} {extend : List Value → Value → Option Value}
    (extended : (top.items?.bind fun items => change? slot (extend items) stack) = some after) (below : Stack) :
    (top.items?.bind fun items => change? slot (extend items) (stack ++ below)) = some (after ++ below) := by
  obtain ⟨items, isItems, changed⟩ := Option.bind_eq_some_iff.mp extended
  exact Option.bind_eq_some_iff.mpr ⟨items, isItems, change?_append changed below⟩

/-- An instruction with a result on a stack has it on top of any values. -/
theorem step_append {u : CodeUnit} {ins : Instruction} (stepped : step u stack ins = some after)
    (below : Stack) : step u (stack ++ below) ins = some (after ++ below) := by
  unfold step at stepped ⊢
  cases op : ins.op <;> rw [op] at stepped <;> dsimp only at stepped ⊢
  case loadConst =>
      obtain ⟨value, isValue, rfl⟩ := Option.map_eq_some_iff.mp stepped
      exact Option.map_eq_some_iff.mpr ⟨value, isValue, rfl⟩
  case buildTuple =>
      exact build_append Value.tuple stepped below
  case buildList =>
      exact build_append Value.list stepped below
  case buildSet =>
      exact build_append (fun items => Value.set (items.foldl addToSet [])) stepped below
  case buildMap =>
      exact build_append (fun items => Value.dict (Value.insertAll [] (pairUp items))) stepped below
  case buildConstKeyMap =>
      exact buildKeyed?_append stepped below
  case mapAdd =>
      split at stepped
      case h_1 =>
          exact change?_append stepped below
      case h_2 =>
          cases stepped
  case dictUpdate =>
      split at stepped
      case h_1 =>
          exact change?_append stepped below
      case h_2 =>
          cases stepped
  case listExtend | setUpdate =>
      cases stack with
      | nil =>
          cases stepped
      | cons top rest =>
          exact extend_append stepped below
  case listAppend | setAdd =>
      cases stack with
      | nil =>
          cases stepped
      | cons top rest =>
          exact change?_append stepped below
  all_goals cases stepped

/-! ### Runs -/

/-- A run with a result on a stack has it on top of any values. -/
theorem run_append {u : CodeUnit} {instructions : List Instruction}
    (ran : run u stack instructions = some after) (below : Stack) :
    run u (stack ++ below) instructions = some (after ++ below) := by
  unfold run at ran ⊢
  induction instructions generalizing stack with
  | nil =>
      cases ran
      rfl
  | cons ins rest ih =>
      rw [List.foldlM_cons] at ran ⊢
      obtain ⟨next, stepped, ran⟩ := Option.bind_eq_some_iff.mp ran
      exact Option.bind_eq_some_iff.mpr ⟨next ++ below, step_append stepped below, ih ran⟩

end

/-- The run that decides the value of a store, from the instructions before it, last one first: a single load of
    a constant, or all literal-building instructions up to the window. -/
def tracedRun : (earlier : List Instruction) → List Instruction
  | [] => []
  | last :: before => if last.op = .loadConst then [last] else literalRun (last :: before)

/-- The traced run stands at the end of the instructions before the store. -/
theorem tracedRun_suffix (earlier : List Instruction) : tracedRun earlier <:+ earlier.reverse := by
  cases earlier with
  | nil =>
      exact List.suffix_refl []
  | cons last before =>
      rw [tracedRun]
      split
      · rw [List.reverse_cons]
        exact List.suffix_append before.reverse [last]
      · apply List.reverse_suffix.mpr
        exact (List.takeWhile_prefix _).trans (List.take_prefix _ _)

/-- The traced run builds literals only. -/
theorem buildsLiteral_of_mem_tracedRun {earlier : List Instruction} {ins : Instruction}
    (member : ins ∈ tracedRun earlier) : ins.op.buildsLiteral = true := by
  cases earlier with
  | nil =>
      cases member
  | cons last before =>
      rw [tracedRun] at member
      split at member
      case isTrue isLoad =>
          rw [List.mem_singleton.mp member, isLoad]
          rfl
      case isFalse =>
          exact (List.all_eq_true.mp List.all_takeWhile) ins (List.mem_reverse.mp member)

/-- The traced run is no longer than the window. -/
theorem length_tracedRun_le (earlier : List Instruction) : (tracedRun earlier).length ≤ maxRun := by
  cases earlier with
  | nil =>
      exact Nat.zero_le _
  | cons last before =>
      rw [tracedRun]
      split
      · show 1 ≤ 4096
        decide
      · rw [literalRun, List.length_reverse]
        apply Nat.le_trans (List.takeWhile_prefix _).length_le
        exact List.length_take_le _ _

/-- A traced value is a literal, and on an empty stack the traced run leaves nothing but it. -/
theorem run_of_traceValue {u : CodeUnit} {earlier : List Instruction} {value : Value}
    (traced : traceValue u earlier = some value) :
    tracedRun earlier ≠ [] ∧ run u [] (tracedRun earlier) = some [value] ∧ value.isLiteral = true := by
  cases earlier with
  | nil =>
      cases traced
  | cons last before =>
      rw [traceValue] at traced
      rw [tracedRun]
      split at traced
      case isTrue isLoad =>
          obtain ⟨isConst, isLiteral⟩ := Option.filter_eq_some_iff.mp traced
          rw [if_pos isLoad]
          refine ⟨List.cons_ne_nil _ _, ?_, isLiteral⟩
          simp [run, step, isLoad, isConst]
      case isFalse notLoad =>
          rw [if_neg notLoad]
          split at traced
          case h_1 =>
              cases traced
          case h_2 notEmpty =>
              unfold runValue? at traced
              split at traced
              case h_1 only ran =>
                  split at traced
                  case isTrue isLiteral =>
                      cases traced
                      exact ⟨notEmpty, ran, isLiteral⟩
                  case isFalse =>
                      cases traced
              case h_2 =>
                  cases traced

/-- On any stack, the traced run leaves the traced value on top and nothing else changed. -/
theorem run_tracedRun {u : CodeUnit} {earlier : List Instruction} {value : Value}
    (traced : traceValue u earlier = some value) (below : Stack) :
    run u below (tracedRun earlier) = some (value :: below) := by
  obtain ⟨_, alone, _⟩ := run_of_traceValue traced
  exact run_append alone below

/-- The value traced at a store is a literal. A run of literal-building instructions, not longer than the window, ends
    right before the store, and on any stack it leaves the value on top and nothing else changed. -/
theorem traceValue_any_stack {u : CodeUnit} {store : Nat} {value : Value}
    (traced : traceValue u (u.instructions.take store).reverse = some value) :
    value.isLiteral = true ∧
      ∃ code, code ≠ [] ∧ code.length ≤ maxRun ∧ code <:+ u.instructions.take store ∧
        (∀ ins ∈ code, ins.op.buildsLiteral = true) ∧ ∀ below, run u below code = some (value :: below) := by
  obtain ⟨notEmpty, _, isLiteral⟩ := run_of_traceValue traced
  refine ⟨isLiteral, tracedRun (u.instructions.take store).reverse, notEmpty, length_tracedRun_le _, ?_, ?_, ?_⟩
  · have ends := tracedRun_suffix (u.instructions.take store).reverse
    rwa [List.reverse_reverse] at ends
  · intro ins member
    exact buildsLiteral_of_mem_tracedRun member
  · exact run_tracedRun traced

/-! ### The window -/

/-- A run of literal-building instructions is what the window holds when it fills the window, or when no such
    instruction stands before it. The instructions before it are given with the last one first. -/
theorem literalRun_append {code : List Instruction} (before : List Instruction) (fits : code.length ≤ maxRun)
    (literal : ∀ ins ∈ code, ins.op.buildsLiteral = true)
    (ends : code.length = maxRun ∨ ∀ ins ∈ before.head?, ins.op.buildsLiteral = false) :
    literalRun (code.reverse ++ before) = code := by
  have stops : (before.take (maxRun - code.length)).takeWhile (fun ins => ins.op.buildsLiteral) = [] := by
    rcases ends with fills | other
    · rw [fills, Nat.sub_self, List.take_zero, List.takeWhile_nil]
    · cases before with
      | nil =>
          rw [List.take_nil, List.takeWhile_nil]
      | cons ins rest =>
          have isOther : ins.op.buildsLiteral = false := other ins rfl
          cases maxRun - code.length with
          | zero =>
              rw [List.take_zero, List.takeWhile_nil]
          | succ room =>
              rw [List.take_succ_cons, List.takeWhile_cons, isOther, if_neg Bool.false_ne_true]
  rw [literalRun, List.take_append, List.length_reverse, List.take_of_length_le (by rwa [List.length_reverse]),
    List.takeWhile_append_of_pos fun ins member => literal ins (List.mem_reverse.mp member), stops, List.append_nil,
    List.reverse_reverse]

/-- A run that does not end with a load is replayed as a whole. -/
theorem traceValue_of_literalRun {u : CodeUnit} {last : Instruction} {before code : List Instruction}
    (notLoad : last.op ≠ .loadConst) (isRun : literalRun (last :: before) = code) (notEmpty : code ≠ []) :
    traceValue u (last :: before) = runValue? u code := by
  rw [traceValue, if_neg notLoad, isRun]
  cases code with
  | nil =>
      exact absurd rfl notEmpty
  | cons ins rest =>
      rfl

/-- Loads of the first constant. -/
def loads (count : Nat) : List Instruction :=
  List.replicate count ⟨0, .loadConst, 0⟩

theorem run_loads {u : CodeUnit} {value : Value} (isConst : u.constAt? 0 = some value) (count : Nat)
    (stack : Stack) : run u stack (loads count) = some (List.replicate count value ++ stack) := by
  induction count generalizing stack with
  | zero =>
      rfl
  | succ count ih =>
      have loaded : step u stack ⟨0, .loadConst, 0⟩ = some (value :: stack) :=
        Option.map_eq_some_iff.mpr ⟨value, isConst, rfl⟩
      unfold run loads at ih ⊢
      rw [List.replicate_succ, List.foldlM_cons, loaded, Option.bind_eq_bind, Option.bind_some, ih,
        List.replicate_succ', List.append_assoc, List.singleton_append]

theorem allLiteral_replicate {value : Value} (isLiteral : value.isLiteral = true) (count : Nat) :
    Value.allLiteral (List.replicate count value) = true := by
  induction count with
  | zero =>
      rfl
  | succ count ih =>
      rw [List.replicate_succ, Value.allLiteral, isLiteral, ih]
      rfl

/-- A tuple that fills the window together with its loads is traced, however many loads come before them. -/
theorem traceValue_loads {u : CodeUnit} {value : Value} (isConst : u.constAt? 0 = some value)
    (isLiteral : value.isLiteral = true) (build : Instruction) (isBuild : build.op = .buildTuple)
    (fills : build.arg.toNat + 1 = maxRun) (leftover : Nat) :
    traceValue u (build :: loads (build.arg.toNat + leftover)) =
      some (.tuple (List.replicate build.arg.toNat value)) := by
  have size : (loads build.arg.toNat ++ [build]).length = maxRun := by
    rw [← fills, List.length_append, loads, List.length_replicate, List.length_singleton]
  have literal : ∀ ins ∈ loads build.arg.toNat ++ [build], ins.op.buildsLiteral = true := by
    intro ins member
    rcases List.mem_append.mp member with isLoad | isLast
    · rw [(List.mem_replicate.mp isLoad).2]
      rfl
    · rw [List.mem_singleton.mp isLast, isBuild]
      rfl
  have window : literalRun (build :: loads (build.arg.toNat + leftover)) = loads build.arg.toNat ++ [build] := by
    have whole := literalRun_append (loads leftover) (Nat.le_of_eq size) literal (.inl size)
    rwa [List.reverse_append, List.reverse_singleton, List.singleton_append, List.cons_append, loads, loads,
      List.reverse_replicate, List.replicate_append_replicate] at whole
  have ran : run u [] (loads build.arg.toNat ++ [build]) =
      some [.tuple (List.replicate build.arg.toNat value)] := by
    have loaded := run_loads isConst build.arg.toNat []
    rw [List.append_nil] at loaded
    unfold run at loaded ⊢
    rw [List.foldlM_append, loaded]
    simp [step, isBuild, pop?]
  rw [traceValue_of_literalRun (by rw [isBuild]; exact Opcode.noConfusion) window (by simp), runValue?, ran]
  exact if_pos (allLiteral_replicate isLiteral _)

/-- The instruction that makes a tuple of as many values as the window has room for. -/
def widestTuple : Instruction :=
  ⟨0, .buildTuple, 4095⟩

/-- A body that loads five values more than the tuple takes that it stores. -/
def leftoverLoads : CodeUnit :=
  { CodeUnit.empty "<module>" ⟨3, 8⟩ with
    instructions := (loads 4100 ++ [widestTuple]) ++ [⟨0, .storeName, 0⟩], consts := [.int 7], names := ["X"] }

/-- The window ends between the loads that a tuple takes and those that stay below it. -/
theorem traceValue_any_stack_leftoverLoads :
    traceValue leftoverLoads (leftoverLoads.instructions.take 4101).reverse =
        some (.tuple (List.replicate 4095 (.int 7))) ∧
      ∃ code, code ≠ [] ∧ code.length ≤ maxRun ∧ code <:+ leftoverLoads.instructions.take 4101 ∧
        (∀ ins ∈ code, ins.op.buildsLiteral = true) ∧
        ∀ below, run leftoverLoads below code = some (.tuple (List.replicate 4095 (.int 7)) :: below) := by
  have before : (leftoverLoads.instructions.take 4101).reverse = widestTuple :: loads (4095 + 5) := by
    have size : (loads 4100 ++ [widestTuple]).length = 4101 := by
      rw [List.length_append, loads, List.length_replicate, List.length_singleton]
    rw [leftoverLoads, List.take_left' size, List.reverse_append, loads, List.reverse_replicate]
    rfl
  have traced : traceValue leftoverLoads (leftoverLoads.instructions.take 4101).reverse =
      some (.tuple (List.replicate 4095 (.int 7))) := by
    rw [before]
    exact traceValue_loads rfl rfl widestTuple rfl rfl 5
  exact ⟨traced, (traceValue_any_stack traced).2⟩

end SourceRecovery.Replay
