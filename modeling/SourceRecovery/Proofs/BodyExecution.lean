/-
Module: SourceRecovery.Proofs.BodyExecution
Layer: Proofs
Purpose: Recovered values and the runs of a module body. A body is executed with arbitrary loaded values and one
  conditional jump. A run whose jumps neither land in the code of the stored value nor pass over the last store ends
  with the recovered value; the jump of a short circuit does land there, and then the recovered value is wrong.
Imports: SourceRecovery.Proofs.ReplayFrame, SourceRecovery.Proofs.RecoveredStores
Trusted boundary: none
Main exports: Replay.Machine, Replay.Moves, Replay.Runs, Replay.Harmless, Replay.kept_of_runs,
  Replay.stored_eq_recovered, Replay.recovered_ne_stored
Open obligations: none
-/
import SourceRecovery.Proofs.ReplayFrame
import SourceRecovery.Proofs.RecoveredStores

namespace SourceRecovery.Replay

/-! ### Execution -/

/-- The state of an execution: the position of the next instruction, the stack, and what was stored so far, the
    latest first. -/
structure Machine where
  position : Nat
  stack : Stack
  stored : Bindings

/-- The operation that jumps and keeps the topmost value when it is true, and drops it otherwise. -/
def jumpIfTrueOrPop : Opcode :=
  .other 112

/-- A jump to a byte offset continues at the instruction there, or behind the last one. -/
def Lands (u : CodeUnit) (offset : UInt32) (position : Nat) : Prop :=
  (∃ ins, u.instructions[position]? = some ins ∧ ins.offset = offset.toNat) ∨
    position = u.instructions.length ∧ u.codeSize = offset.toNat

/-- One instruction is executed; a jump that is taken is noted with the position it leaves and the one it leads
    to. Loaded names have any value, and `truth` says which values count as true. -/
inductive Moves (u : CodeUnit) (truth : Value → Bool) : Machine → List (Nat × Nat) → Machine → Prop
  | literal {position : Nat} {stack after : Stack} {stored : Bindings} {ins : Instruction}
      (found : u.instructions[position]? = some ins) (builds : ins.op.buildsLiteral = true)
      (stepped : step u stack ins = some after) :
      Moves u truth ⟨position, stack, stored⟩ [] ⟨position + 1, after, stored⟩
  | load {position : Nat} {stack : Stack} {stored : Bindings} {ins : Instruction}
      (found : u.instructions[position]? = some ins) (loads : ins.op = .loadName) (value : Value) :
      Moves u truth ⟨position, stack, stored⟩ [] ⟨position + 1, value :: stack, stored⟩
  | store {position : Nat} {stack : Stack} {stored : Bindings} {ins : Instruction} {name : String}
      {value : Value} (found : u.instructions[position]? = some ins) (stores : storedName? u ins = some name) :
      Moves u truth ⟨position, value :: stack, stored⟩ [] ⟨position + 1, stack, (name, value) :: stored⟩
  | jump {position target : Nat} {stack : Stack} {stored : Bindings} {ins : Instruction} {top : Value}
      (found : u.instructions[position]? = some ins) (jumps : ins.op = jumpIfTrueOrPop)
      (isTrue : truth top = true) (lands : Lands u ins.arg target) :
      Moves u truth ⟨position, top :: stack, stored⟩ [(position, target)] ⟨target, top :: stack, stored⟩
  | pass {position : Nat} {stack : Stack} {stored : Bindings} {ins : Instruction} {top : Value}
      (found : u.instructions[position]? = some ins) (jumps : ins.op = jumpIfTrueOrPop)
      (isFalse : truth top = false) :
      Moves u truth ⟨position, top :: stack, stored⟩ [] ⟨position + 1, stack, stored⟩

/-- Instructions are executed one after another; the jumps taken are noted in their order. -/
inductive Runs (u : CodeUnit) (truth : Value → Bool) : Machine → List (Nat × Nat) → Machine → Prop
  | done (m : Machine) : Runs u truth m [] m
  | move {first next final : Machine} {taken jumps : List (Nat × Nat)} (moves : Moves u truth first taken next)
      (runs : Runs u truth next jumps final) : Runs u truth first (taken ++ jumps) final

/-- An execution before its first instruction. -/
def Machine.initial : Machine :=
  ⟨0, [], []⟩

/-! ### The code of a stored value -/

/-- Where the code that decides the value of a store begins. -/
def runStart (u : CodeUnit) (store : Nat) : Nat :=
  store - (tracedRun (earlierThan u store)).length

/-- A jump, given by the positions it leaves and leads to, does not bring another value into the last store of a
    name: it does not land behind the start of the code of its value, up to the store, and it passes over the store
    only when no other one stores the name. -/
structure Harmless (u : CodeUnit) (name : String) (jump : Nat × Nat) : Prop where
  notInto : ∀ store, LastStore u name store → jump.2 ≤ runStart u store ∨ store < jump.2
  notOver : ∀ store, LastStore u name store → jump.1 < store → store < jump.2 →
    ∀ other, StoresAt u name other → other = store

/-- A run of instructions from `start` on builds a value on any stack, and the last store of a name follows it. -/
structure Site (u : CodeUnit) (name : String) (value : Value) (start : Nat) (code : List Instruction) : Prop where
  begins : runStart u (start + code.length) = start
  placed : ∀ k < code.length, u.instructions[start + k]? = code[k]?
  builds : ∀ ins ∈ code, ins.op.buildsLiteral = true
  leaves : ∀ below, run u below code = some (value :: below)
  last : LastStore u name (start + code.length)

/-- The code of a recovered value stands before the last store of its name. -/
theorem exists_site {u : CodeUnit} {wanted : List String} {name : String} {value : Value}
    (recovered : (name, value) ∈ recover u wanted) :
    ∃ start code, Site u name value start code := by
  obtain ⟨store, last, traced⟩ := exists_lastStore (mem_recover_iff.mp recovered).2
  obtain ⟨before, whole⟩ := tracedRun_suffix (earlierThan u store)
  rw [earlierThan, List.reverse_reverse] at whole
  obtain ⟨_, found, _⟩ := last.stores
  have inRange : store < u.instructions.length := (List.getElem?_eq_some_iff.mp found).1
  have lengths : before.length + (tracedRun (earlierThan u store)).length = store := by
    rw [← List.length_append, earlierThan, whole, List.length_take]
    omega
  have start : runStart u store = before.length := by
    unfold runStart
    omega
  refine ⟨before.length, tracedRun (earlierThan u store), ?_, ?_, ?_, run_tracedRun traced, ?_⟩
  · rw [lengths]
    exact start
  · intro k inside
    have taken : u.instructions[before.length + k]? = (u.instructions.take store)[before.length + k]? := by
      rw [List.getElem?_take_of_lt (by omega)]
    rw [taken, ← whole, List.getElem?_append_right (Nat.le_add_right _ _), Nat.add_sub_cancel_left]
    rfl
  · intro ins member
    exact buildsLiteral_of_mem_tracedRun member
  · rw [lengths]
    exact last

/-! ### What an execution keeps -/

section

variable {u : CodeUnit} {name : String} {value : Value} {start : Nat} {code : List Instruction}

/-- Inside the code of the value, the stack is what the code so far makes of some stack. Behind the last store, and
    everywhere when there is no other, the name has the value or none. -/
structure Kept (u : CodeUnit) (name : String) (value : Value) (start : Nat) (code : List Instruction)
    (m : Machine) : Prop where
  inside : ∀ k ≤ code.length, m.position = start + k → ∃ below, run u below (code.take k) = some m.stack
  settled : (start + code.length < m.position ∨ ∀ other, StoresAt u name other → other = start + code.length) →
    ∀ stored, m.stored.lookup name = some stored → stored = value

/-- One more instruction of the code. -/
theorem run_take_succ {k : Nat} {ins : Instruction} (isNext : code[k]? = some ins) (below : Stack) :
    run u below (code.take (k + 1)) = (run u below (code.take k)).bind fun stack => step u stack ins := by
  rw [List.take_add_one, isNext]
  unfold run
  rw [List.foldlM_append]
  simp

/-- Before its first instruction, the code has made nothing of the stack. -/
theorem exists_below_of_start {k : Nat} (atStart : k = 0) (stack : Stack) :
    ∃ below, run u below (code.take k) = some stack :=
  ⟨stack, by rw [atStart, List.take_zero]; rfl⟩

theorem kept_initial : Kept u name value start code .initial where
  inside := by
    intro k _ here
    have position : (0 : Nat) = start + k := here
    exact exists_below_of_start (by omega) []
  settled := by
    intro _ stored absurd
    cases absurd

theorem buildsLiteral_of_storedName? {ins : Instruction} (stores : storedName? u ins = some name) :
    ins.op.buildsLiteral = false := by
  unfold storedName? at stores
  split at stores
  case isTrue isStore =>
      cases op : ins.op <;> rw [op] at isStore <;> first | rfl | cases isStore
  case isFalse =>
      cases stores

theorem storedName?_ne_some {ins : Instruction} (stores : ins.op.stores = false) :
    storedName? u ins ≠ some name := by
  intro isName
  rw [storedName?, stores, if_neg Bool.false_ne_true] at isName
  cases isName

namespace Site

variable {position : Nat} {ins : Instruction}

/-- Behind an instruction that builds no literal, the code of the value can only begin. -/
theorem not_inside (site : Site u name value start code) (found : u.instructions[position]? = some ins)
    (other : ins.op.buildsLiteral = false) {k : Nat} (within : k ≤ code.length)
    (next : position + 1 = start + k) : k = 0 := by
  cases k with
  | zero =>
      rfl
  | succ k =>
      have here : position = start + k := by omega
      have placed := site.placed k within
      rw [← here, found] at placed
      have builds := site.builds ins (List.mem_of_getElem? placed.symm)
      rw [other] at builds
      cases builds

/-- An instruction that does not store the name does not stand at the last store. -/
theorem position_ne (site : Site u name value start code) (found : u.instructions[position]? = some ins)
    (other : storedName? u ins ≠ some name) : position ≠ start + code.length := by
  rintro rfl
  obtain ⟨store, isStore, stores⟩ := site.last.stores
  rw [found] at isStore
  cases isStore
  exact other stores

end Site

namespace Kept

variable {position : Nat} {stack : Stack} {stored : Bindings} {ins : Instruction}

/-- An instruction that does not store the name leaves what is known of it. -/
theorem settled_next (kept : Kept u name value start code ⟨position, stack, stored⟩)
    (site : Site u name value start code) (found : u.instructions[position]? = some ins)
    (other : storedName? u ins ≠ some name)
    (behind : start + code.length < position + 1 ∨ ∀ other, StoresAt u name other → other = start + code.length) :
    ∀ found, stored.lookup name = some found → found = value := by
  have elsewhere := site.position_ne found other
  apply kept.settled
  rcases behind with after | only
  · exact .inl (by dsimp only; omega)
  · exact .inr only

/-- A literal-building instruction goes on with the code of the value, or stands outside of it. -/
theorem literal (kept : Kept u name value start code ⟨position, stack, stored⟩)
    (site : Site u name value start code) (found : u.instructions[position]? = some ins)
    (builds : ins.op.buildsLiteral = true) {after : Stack} (stepped : step u stack ins = some after) :
    Kept u name value start code ⟨position + 1, after, stored⟩ := by
  refine ⟨?_, kept.settled_next site found ?_⟩
  · intro k within next
    cases k with
    | zero =>
        exact exists_below_of_start rfl after
    | succ k =>
        have here : position = start + k := Nat.succ.inj next
        obtain ⟨below, sofar⟩ := kept.inside k (Nat.le_of_succ_le within) here
        have isNext : code[k]? = some ins := by rw [← site.placed k within, ← here, found]
        refine ⟨below, ?_⟩
        rw [run_take_succ isNext, sofar]
        exact stepped
  · intro stores
    rw [buildsLiteral_of_storedName? stores] at builds
    cases builds

/-- An instruction that neither builds a literal nor stores may leave any stack. -/
theorem other (kept : Kept u name value start code ⟨position, stack, stored⟩)
    (site : Site u name value start code) (found : u.instructions[position]? = some ins)
    (builds : ins.op.buildsLiteral = false) (stores : ins.op.stores = false) (after : Stack) :
    Kept u name value start code ⟨position + 1, after, stored⟩ := by
  refine ⟨?_, kept.settled_next site found ?_⟩
  · intro k within next
    exact exists_below_of_start (site.not_inside found builds within next) after
  · exact storedName?_ne_some stores

/-- The last store of the name takes the value of its code. -/
theorem value_eq {stacked : Value} (kept : Kept u name value start code ⟨position, stacked :: stack, stored⟩)
    (site : Site u name value start code) (here : position = start + code.length) : stacked = value := by
  obtain ⟨below, whole⟩ := kept.inside code.length (Nat.le_refl _) here
  rw [List.take_length, site.leaves below] at whole
  cases whole
  rfl

/-- A store of the name that is not followed by its last store is its last store. -/
theorem store {stacked : Value} {written : String}
    (kept : Kept u name value start code ⟨position, stacked :: stack, stored⟩)
    (site : Site u name value start code) (found : u.instructions[position]? = some ins)
    (stores : storedName? u ins = some written) :
    Kept u name value start code ⟨position + 1, stack, (written, stacked) :: stored⟩ := by
  refine ⟨?_, ?_⟩
  · intro k within next
    exact exists_below_of_start (site.not_inside found (buildsLiteral_of_storedName? stores) within next) stack
  · intro behind
    by_cases same : written = name
    · subst same
      have bound := site.last.last position ⟨ins, found, stores⟩
      have here : position = start + code.length := by
        rcases behind with after | only
        · have passed : start + code.length < position + 1 := after
          omega
        · exact only position ⟨ins, found, stores⟩
      intro latest isLatest
      rw [List.lookup_cons, beq_self_eq_true] at isLatest
      cases isLatest
      exact kept.value_eq site here
    · have differs : (name == written) = false := beq_eq_false_iff_ne.mpr (Ne.symm same)
      rw [List.lookup_cons, differs]
      apply kept.settled_next site found _ behind
      rw [stores]
      exact fun isName => same (Option.some.inj isName)

/-- A jump that does no harm leads to the start of the code of the value or outside of it, and passes over the last
    store only when there is no other. -/
theorem jump (kept : Kept u name value start code ⟨position, stack, stored⟩) (site : Site u name value start code)
    (found : u.instructions[position]? = some ins) (stores : ins.op.stores = false) {target : Nat}
    (clear : Harmless u name (position, target)) : Kept u name value start code ⟨target, stack, stored⟩ := by
  refine ⟨?_, ?_⟩
  · intro k within here
    apply exists_below_of_start
    have landed : target = start + k := here
    have outside : target ≤ runStart u (start + code.length) ∨ start + code.length < target :=
      clear.notInto _ site.last
    rw [site.begins] at outside
    omega
  · intro behind
    have elsewhere : position ≠ start + code.length := site.position_ne found (storedName?_ne_some stores)
    apply kept.settled
    rcases behind with after | only
    · rcases Nat.lt_or_gt_of_ne elsewhere with before | later
      · exact .inr (clear.notOver _ site.last before after)
      · exact .inl later
    · exact .inr only

end Kept

/-- One instruction keeps what is known of the name, when a jump it takes does no harm. -/
theorem kept_of_moves (site : Site u name value start code) {truth : Value → Bool} {first next : Machine}
    {taken : List (Nat × Nat)} (moves : Moves u truth first taken next)
    (harmless : ∀ jump ∈ taken, Harmless u name jump) (kept : Kept u name value start code first) :
    Kept u name value start code next := by
  cases moves with
  | literal found builds stepped =>
      exact kept.literal site found builds stepped
  | load found loads loaded =>
      exact kept.other site found (by rw [loads]; rfl) (by rw [loads]; rfl) _
  | store found stores =>
      exact kept.store site found stores
  | jump found jumps _ _ =>
      exact kept.jump site found (by rw [jumps]; rfl) (harmless _ (List.mem_singleton_self _))
  | pass found jumps _ =>
      exact kept.other site found (by rw [jumps]; rfl) (by rw [jumps]; rfl) _

/-- A whole run keeps what is known of the name. -/
theorem kept_of_runs (site : Site u name value start code) {truth : Value → Bool} {first final : Machine}
    {jumps : List (Nat × Nat)} (runs : Runs u truth first jumps final)
    (harmless : ∀ jump ∈ jumps, Harmless u name jump) (kept : Kept u name value start code first) :
    Kept u name value start code final := by
  induction runs with
  | done m =>
      exact kept
  | move moves _ ih =>
      apply ih
      · exact fun jump member => harmless jump (List.mem_append_right _ member)
      · exact kept_of_moves site moves (fun jump member => harmless jump (List.mem_append_left _ member)) kept

end

/-- A run of a whole body whose jumps do no harm to a recovered name, and that stores the name at all, stores the
    recovered value last. -/
theorem stored_eq_recovered {u : CodeUnit} {wanted : List String} {name : String} {value : Value}
    (recovered : (name, value) ∈ recover u wanted) {truth : Value → Bool} {jumps : List (Nat × Nat)}
    {final : Machine} (runs : Runs u truth .initial jumps final)
    (ended : final.position = u.instructions.length) (harmless : ∀ jump ∈ jumps, Harmless u name jump)
    {stored : Value} (isStored : final.stored.lookup name = some stored) : stored = value := by
  obtain ⟨start, code, site⟩ := exists_site recovered
  have kept := kept_of_runs site runs harmless kept_initial
  obtain ⟨ins, found, _⟩ := site.last.stores
  have behind : start + code.length < final.position := by
    rw [ended]
    exact (List.getElem?_eq_some_iff.mp found).1
  exact kept.settled (.inl behind) stored isStored

/-- A module body with the given words, constants and names. -/
def bodyOf (code : List UInt8) (consts : List Value) (names : List String) : CodeUnit :=
  { CodeUnit.empty "<module>" ⟨3, 8⟩ with
    code, codeSize := code.length, instructions := Instruction.decode ⟨3, 8⟩ code, consts, names }

/-- The body of `Y = f or 1` and then `X = 5`. -/
def afterShortCircuit : CodeUnit :=
  bodyOf [101, 0, 112, 6, 100, 0, 90, 1, 100, 1, 90, 2] [.int 1, .int 5] ["f", "Y", "X"]

/-- A jump that ends before the code of a value does no harm to it: whatever `f` is, five is stored. -/
theorem stored_eq_recovered_afterShortCircuit :
    ("X", Value.int 5) ∈ recover afterShortCircuit ["X"] ∧
      ∃ final, Runs afterShortCircuit (fun _ => true) .initial [(1, 3)] final ∧
        final.stored.lookup "Y" = some (.str "f") ∧
        ∀ stored, final.stored.lookup "X" = some stored → stored = .int 5 := by
  have recovered : ("X", Value.int 5) ∈ recover afterShortCircuit ["X"] := List.mem_singleton_self _
  have last : LastStore afterShortCircuit "X" 5 := by
    refine ⟨⟨⟨10, .storeName, 2⟩, rfl, rfl⟩, ?_⟩
    rintro other ⟨ins, found, _⟩
    exact Nat.le_of_lt_succ (List.getElem?_eq_some_iff.mp found).1
  have only : ∀ store, LastStore afterShortCircuit "X" store → store = 5 := fun store isLast =>
    Nat.le_antisymm (last.last store isLast.stores) (isLast.last 5 last.stores)
  have harmless : Harmless afterShortCircuit "X" (1, 3) := by
    constructor
    · intro store isLast
      rw [only store isLast]
      exact .inl (by decide)
    · intro store isLast _ passed
      rw [only store isLast] at passed
      exact absurd passed (by decide)
  have runs : Runs afterShortCircuit (fun _ => true) .initial [(1, 3)]
      ⟨6, [], [("X", .int 5), ("Y", .str "f")]⟩ := by
    have ending : Runs afterShortCircuit (fun _ => true) ⟨3, [.str "f"], []⟩ ([] ++ ([] ++ ([] ++ [])))
        ⟨6, [], [("X", .int 5), ("Y", .str "f")]⟩ :=
      .move (.store rfl rfl) (.move (.literal rfl rfl rfl) (.move (.store rfl rfl) (.done _)))
    have jumping : Moves afterShortCircuit (fun _ => true) ⟨1, [.str "f"], []⟩ [(1, 3)] ⟨3, [.str "f"], []⟩ :=
      .jump rfl rfl rfl (.inl ⟨_, rfl, rfl⟩)
    exact .move (.load rfl rfl (.str "f")) (.move jumping ending)
  refine ⟨recovered, _, runs, rfl, ?_⟩
  intro stored isStored
  apply stored_eq_recovered recovered runs rfl _ isStored
  intro jump member
  rw [List.mem_singleton.mp member]
  exact harmless

/-- The body of `X = f or 5`. -/
def shortCircuit : CodeUnit :=
  bodyOf [101, 0, 112, 6, 100, 0, 90, 1] [.int 5] ["f", "X"]

/-- The jump of a short circuit lands between the code of the value and its store, so a recovered value need not be
    the one that is stored. -/
theorem recovered_ne_stored :
    ¬ ∀ (u : CodeUnit) (wanted : List String) (name : String) (value : Value),
      (name, value) ∈ recover u wanted →
        ∀ (truth : Value → Bool) (jumps : List (Nat × Nat)) (final : Machine),
          Runs u truth .initial jumps final → final.position = u.instructions.length →
            ∀ stored, final.stored.lookup name = some stored → stored = value := by
  intro sound
  have recovered : ("X", Value.int 5) ∈ recover shortCircuit ["X"] := List.mem_singleton_self _
  have runs : Runs shortCircuit (fun _ => true) .initial [(1, 3)] ⟨4, [], [("X", .str "f")]⟩ := by
    have ending : Runs shortCircuit (fun _ => true) ⟨3, [.str "f"], []⟩ ([] ++ []) ⟨4, [], [("X", .str "f")]⟩ :=
      .move (.store rfl rfl) (.done _)
    have jumping : Moves shortCircuit (fun _ => true) ⟨1, [.str "f"], []⟩ [(1, 3)] ⟨3, [.str "f"], []⟩ :=
      .jump rfl rfl rfl (.inl ⟨_, rfl, rfl⟩)
    exact .move (.load rfl rfl (.str "f")) (.move jumping ending)
  have same := sound shortCircuit ["X"] "X" (.int 5) recovered _ _ _ runs rfl (.str "f") rfl
  cases same

end SourceRecovery.Replay
