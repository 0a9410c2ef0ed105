/-
Module: SourceRecovery.Proofs.DisplayCode
Layer: Proofs
Purpose: The code a compiler makes of displays, and its replay. The code of a plain display leaves the value of the
  display on top of any stack. A plain display that stands alone before a store, within the window, is therefore
  recovered with exactly its value. Where a text is unpacked, or equal keys of different types meet, the replay and the
  language part.
Imports: SourceRecovery.Proofs.DisplayValues, SourceRecovery.Proofs.ReplayFrame, SourceRecovery.Proofs.RecoveredStores
Trusted boundary: human-reviewed spec (the code of displays)
Main exports: Replay.Display.code, Replay.runWords_code, Replay.traceValue_display, Replay.displays_not_recovered
Open obligations: none
-/
import SourceRecovery.Proofs.DisplayValues
import SourceRecovery.Proofs.ReplayFrame
import SourceRecovery.Proofs.RecoveredStores

namespace SourceRecovery.Replay

/-! ### The code of displays -/

/-- An instruction apart from its place: the operation and its argument. -/
abbrev Word := Opcode × UInt32

/-- The operation and the argument of an instruction. -/
def wordOf (ins : Instruction) : Word :=
  (ins.op, ins.arg)

/-- The operation that builds a container. -/
def Row.op : Row → Opcode
  | .tuple => .buildTuple
  | .list => .buildList
  | .set => .buildSet

/-- The operation that lets a container grow. -/
def Growth.op : Growth → Opcode
  | .extendList => .listExtend
  | .updateSet => .setUpdate
  | .updateDict => .dictUpdate
  | .appendList => .listAppend
  | .addToSet => .setAdd

mutual

/-- The code of a display: the code of its parts in the order in which they are evaluated, and an instruction that puts
    them together. A container that grows lies right below what it takes up. -/
def Display.code : Display → List Word
  | .const position => [(.loadConst, position)]
  | .row kind items => Display.codeAll items ++ [(kind.op, UInt32.ofNat items.length)]
  | .dict entries => Display.codePairs entries ++ [(.buildMap, UInt32.ofNat entries.length)]
  | .keyed values keys => Display.codeAll values ++ keys.code ++ [(.buildConstKeyMap, UInt32.ofNat values.length)]
  | .grown growth base operand => base.code ++ operand.code ++ [(growth.op, 1)]
  | .put base key value => base.code ++ key.code ++ value.code ++ [(.mapAdd, 1)]

/-- The code of displays in a row. -/
def Display.codeAll : List Display → List Word
  | [] => []
  | item :: items => item.code ++ Display.codeAll items

/-- The code of pairs of displays, keys first. -/
def Display.codePairs : List (Display × Display) → List Word
  | [] => []
  | (key, value) :: entries => key.code ++ value.code ++ Display.codePairs entries

end

/-- The stack after a run of instructions, wherever they stand. -/
def runWords (u : CodeUnit) (stack : Stack) (words : List Word) : Option Stack :=
  words.foldlM (fun stack word => step u stack ⟨0, word.1, word.2⟩) stack

/-- Where instructions stand makes no difference. -/
theorem run_eq_runWords (u : CodeUnit) (stack : Stack) (instructions : List Instruction) :
    run u stack instructions = runWords u stack (instructions.map wordOf) := by
  rw [runWords, List.foldlM_map]
  rfl

/-! ### Comparing keys -/

theorem Clear.sublist {keys more : List Value} (clear : Clear more) (among : keys.Sublist more) : Clear keys :=
  List.Pairwise.sublist among clear

theorem Clear.front {keys later : List Value} {key : Value} (clear : Clear (keys ++ key :: later)) :
    Clear (keys ++ [key]) :=
  clear.sublist (List.Sublist.append_left (List.singleton_sublist.mpr List.mem_cons_self) keys)

/-- Keys stay clear when the next one is taken in, whether it is dropped or goes to the end. -/
theorem Clear.taken {keys kept later : List Value} {key : Value} (clear : Clear (keys ++ key :: later))
    (isKept : kept = keys ∨ kept = keys ++ [key]) : Clear (kept ++ later) := by
  rcases isKept with rfl | rfl
  · exact clear.sublist (List.Sublist.append_left (List.sublist_cons_self _ _) _)
  · rwa [List.append_assoc]

/-- Where keys are clear they compare as equal exactly when they are equal. -/
theorem same_eq_equalKeys {front : List Value} {a b : Value} (clear : Clear (front ++ [b])) (member : a ∈ front)
    (key : b.isKey = true) : a.same b = a.equalKeys b := by
  have alike := (List.pairwise_append.mp clear).2.2 a member b (List.mem_singleton_self b)
  rw [Bool.eq_iff_iff]
  exact ⟨Value.equalKeys_of_same key, fun equal => (Value.same_iff_unsigned (alike equal).1 b).mpr (alike equal).2⟩

/-- One more entry of a set: it is dropped, or it goes to the end. -/
theorem addToSet_of_addEntry {items all : List Value} {value : Value} (clear : Clear (items ++ [value]))
    (built : Value.addEntry items value = some all) :
    addToSet items value = all ∧ (all = items ∨ all = items ++ [value]) := by
  rw [Value.addEntry, Option.ite_none_right_eq_some, Option.some_inj] at built
  obtain ⟨key, rfl⟩ := built
  have same : (items.any fun item => item.same value) = items.any fun item => item.equalKeys value := by
    rw [Bool.eq_iff_iff, List.any_eq_true, List.any_eq_true]
    exact exists_congr fun item => and_congr_right fun member => by rw [same_eq_equalKeys clear member key]
  rw [addToSet, same]
  refine ⟨rfl, ?_⟩
  split
  · exact .inl rfl
  · exact .inr rfl

theorem foldl_addToSet {items added all : List Value} (clear : Clear (items ++ added))
    (built : added.foldlM Value.addEntry items = some all) : added.foldl addToSet items = all := by
  induction added generalizing items with
  | nil =>
      cases built
      rfl
  | cons value added ih =>
      rw [List.foldlM_cons, Option.bind_eq_bind, Option.bind_eq_some_iff] at built
      obtain ⟨more, isMore, later⟩ := built
      obtain ⟨step, isKept⟩ := addToSet_of_addEntry clear.front isMore
      rw [List.foldl_cons, step]
      exact ih (clear.taken isKept) later

/-- The keys of a dictionary after a pair is written: they stay, or the key goes to the end. -/
theorem keys_writePair (key value : Value) (pairs : List (Value × Value)) :
    (Value.writePair key value pairs).map Prod.fst = pairs.map Prod.fst ∨
      (Value.writePair key value pairs).map Prod.fst = pairs.map Prod.fst ++ [key] := by
  induction pairs with
  | nil =>
      exact .inr rfl
  | cons entry pairs ih =>
      rw [Value.writePair]
      split
      · exact .inl rfl
      · exact ih.imp (congrArg (entry.1 :: ·)) (congrArg (entry.1 :: ·))

theorem insert_eq_writePair {key value : Value} {pairs : List (Value × Value)}
    (clear : Clear (pairs.map Prod.fst ++ [key])) (isKey : key.isKey = true) :
    Value.insert key value pairs = Value.writePair key value pairs := by
  induction pairs with
  | nil =>
      rfl
  | cons entry pairs ih =>
      have same := same_eq_equalKeys clear List.mem_cons_self isKey
      rw [Value.insert, Value.writePair, same, ih (clear.sublist (List.sublist_cons_self _ _))]

theorem insertAll_of_foldlM {pairs added all : List (Value × Value)}
    (clear : Clear (pairs.map Prod.fst ++ added.map Prod.fst)) (built : added.foldlM Value.putPair pairs = some all) :
    Value.insertAll pairs added = all := by
  induction added generalizing pairs with
  | nil =>
      cases built
      rfl
  | cons entry added ih =>
      rw [List.foldlM_cons, Option.bind_eq_bind, Option.bind_eq_some_iff] at built
      obtain ⟨more, isMore, later⟩ := built
      rw [Value.putPair, Option.ite_none_right_eq_some, Option.some_inj] at isMore
      obtain ⟨isKey, rfl⟩ := isMore
      rw [List.map_cons] at clear
      have step : Value.insertAll pairs (entry :: added) =
          Value.insertAll (Value.writePair entry.1 entry.2 pairs) added := by
        rw [← insert_eq_writePair clear.front isKey]
        rfl
      rw [step]
      exact ih (clear.taken (keys_writePair entry.1 entry.2 pairs)) later

/-! ### Single instructions -/

section

variable {u : CodeUnit} {stack : Stack}

theorem runWords_cons (op : Opcode) (arg : UInt32) (rest : List Word) :
    runWords u stack ((op, arg) :: rest) =
      (step u stack ⟨0, op, arg⟩).bind fun after => runWords u after rest :=
  List.foldlM_cons ..

/-- Values that were pushed one after another are popped in the same order. -/
theorem pop?_pushed (values : List Value) (stack : Stack) :
    pop? values.length (values.reverse ++ stack) = some (values, stack) := by
  rw [pop?, if_pos (by rw [List.length_append, List.length_reverse]; exact Nat.le_add_right _ _),
    List.take_left' List.length_reverse, List.drop_left' List.length_reverse, List.reverse_reverse]

/-- Keys and values that were pushed in turn are paired up again. -/
theorem pairUp_flatMap (pairs : List (Value × Value)) :
    pairUp (pairs.flatMap fun entry => [entry.1, entry.2]) = pairs := by
  induction pairs with
  | nil =>
      rfl
  | cons entry pairs ih =>
      rw [List.flatMap_cons, List.cons_append, List.singleton_append, pairUp, ih]

theorem length_flatMap_pair (pairs : List (Value × Value)) :
    (pairs.flatMap fun entry => [entry.1, entry.2]).length = 2 * pairs.length := by
  induction pairs with
  | nil =>
      rfl
  | cons entry pairs ih =>
      rw [List.flatMap_cons, List.length_append, ih, List.length_cons]
      simp only [List.length_cons, List.length_nil]
      omega

theorem step_row {kind : Row} {values : List Value} {v : Value} {count : UInt32} (clear : kind.Clear values)
    (built : kind.build values = some v) (isCount : count.toNat = values.length) :
    step u (values.reverse ++ stack) ⟨0, kind.op, count⟩ = some (v :: stack) := by
  have popped := pop?_pushed values stack
  cases kind with
  | tuple =>
      cases built
      simp [step, Row.op, isCount, popped]
  | list =>
      cases built
      simp [step, Row.op, isCount, popped]
  | set =>
      obtain ⟨items, isItems, rfl⟩ := Option.map_eq_some_iff.mp built
      have all : values.foldl addToSet [] = items := foldl_addToSet clear isItems
      simp [step, Row.op, isCount, popped, all]

theorem step_dict {pairs all : List (Value × Value)} {count : UInt32} (clear : Clear (pairs.map Prod.fst))
    (built : pairs.foldlM Value.putPair [] = some all) (isCount : count.toNat = pairs.length) :
    step u ((pairs.flatMap fun entry => [entry.1, entry.2]).reverse ++ stack) ⟨0, .buildMap, count⟩ =
      some (.dict all :: stack) := by
  have popped := pop?_pushed (pairs.flatMap fun entry => [entry.1, entry.2]) stack
  rw [length_flatMap_pair] at popped
  have inserted : Value.insertAll [] pairs = all := insertAll_of_foldlM clear built
  simp only [step, isCount, popped, Option.map_some, pairUp_flatMap, inserted]

theorem step_keyed {keys v : Value} {values : List Value} {count : UInt32} (clear : Clear keys.entries)
    (built : buildKeyed keys values = some v) (isCount : count.toNat = values.length) :
    step u (keys :: (values.reverse ++ stack)) ⟨0, .buildConstKeyMap, count⟩ = some (v :: stack) := by
  have popped := pop?_pushed values stack
  cases keys with
  | tuple row =>
      rw [buildKeyed, Option.ite_none_right_eq_some] at built
      obtain ⟨asMany, built⟩ := built
      obtain ⟨all, isAll, rfl⟩ := Option.map_eq_some_iff.mp built
      have keys : (row.zip values).map Prod.fst = row := List.map_fst_zip (Nat.le_of_eq asMany)
      have inserted : Value.insertAll [] (row.zip values) = all := by
        refine insertAll_of_foldlM ?_ isAll
        rw [keys]
        exact clear
      simp [step, buildKeyed?, Value.items?, isCount, asMany, popped, inserted]
  | _ =>
      cases built

/-- The value right below the topmost one is changed in its place. -/
theorem change?_top (f : Value → Option Value) (base : Value) :
    change? (1 : UInt32).toNat f (base :: stack) = (f base).map (· :: stack) :=
  rfl

theorem items?_of_isRow {v : Value} (row : isRow v = true) : v.items? = v.entries? := by
  cases v <;> first | rfl | cases row

theorem isRow_of_isSequence {v : Value} (sequence : isSequence v = true) : isRow v = true := by
  cases v <;> first | rfl | cases sequence

theorem step_grown {growth : Growth} {base operand v : Value} (clear : growth.Clear base operand)
    (built : growth.build base operand = some v) :
    step u (operand :: base :: stack) ⟨0, growth.op, 1⟩ = some (v :: stack) := by
  cases growth with
  | extendList =>
      cases base with
      | list items =>
          obtain ⟨added, isAdded, rfl⟩ := Option.map_eq_some_iff.mp built
          simp only [step, Growth.op, change?_top, items?_of_isRow (isRow_of_isSequence clear), isAdded,
            Option.bind_some, extendList, Option.map_some]
      | _ =>
          cases built
  | updateSet =>
      cases base with
      | set items =>
          obtain ⟨added, isAdded, built⟩ := Option.bind_eq_some_iff.mp built
          obtain ⟨all, isAll, rfl⟩ := Option.map_eq_some_iff.mp built
          have entries : operand.entries = added := by rw [Value.entries, isAdded, Option.getD_some]
          have keys := clear.2
          rw [entries] at keys
          have all : added.foldl addToSet items = all := foldl_addToSet keys isAll
          simp only [step, Growth.op, change?_top, items?_of_isRow clear.1, isAdded, Option.bind_some, extendSet,
            Option.map_some, all]
      | _ =>
          cases built
  | updateDict =>
      cases base with
      | dict pairs =>
          cases operand with
          | dict added =>
              obtain ⟨all, isAll, rfl⟩ := Option.map_eq_some_iff.mp built
              simp only [step, Growth.op, change?_top, extendDict, Option.map_some, insertAll_of_foldlM clear isAll]
          | _ =>
              cases built
      | _ =>
          cases built
  | appendList =>
      cases base with
      | list items =>
          cases built
          rfl
      | _ =>
          cases built
  | addToSet =>
      cases base with
      | set items =>
          obtain ⟨all, isAll, rfl⟩ := Option.map_eq_some_iff.mp built
          have added : addToSet items operand = all := (addToSet_of_addEntry clear isAll).1
          simp only [step, Growth.op, change?_top, extendSet, List.foldl_cons, List.foldl_nil, added, Option.map_some]
      | _ =>
          cases built

theorem step_put {base key value v : Value} (clear : Clear (base.entries ++ [key]))
    (built : buildPut base key value = some v) :
    step u (value :: key :: base :: stack) ⟨0, .mapAdd, 1⟩ = some (v :: stack) := by
  cases base with
  | dict pairs =>
      obtain ⟨all, isAll, rfl⟩ := Option.map_eq_some_iff.mp built
      have one : [(key, value)].foldlM Value.putPair pairs = some all := by
        rw [List.foldlM_cons, isAll]
        rfl
      have inserted : Value.insertAll pairs [(key, value)] = all := insertAll_of_foldlM clear one
      simp only [step, change?_top, extendDict, inserted, Option.map_some]
  | _ =>
      cases built

/-! ### Whole displays -/

theorem code_ne_nil (e : Display) : e.code ≠ [] := by
  cases e <;> simp [Display.code]

theorem length_le_length_codeAll (items : List Display) : items.length ≤ (Display.codeAll items).length := by
  induction items with
  | nil =>
      exact Nat.le_refl _
  | cons item items ih =>
      have positive := List.length_pos_iff.mpr (code_ne_nil item)
      rw [Display.codeAll, List.length_cons, List.length_append]
      omega

theorem length_le_length_codePairs (entries : List (Display × Display)) :
    entries.length ≤ (Display.codePairs entries).length := by
  induction entries with
  | nil =>
      exact Nat.le_refl _
  | cons entry entries ih =>
      have positive := List.length_pos_iff.mpr (code_ne_nil entry.1)
      rw [Display.codePairs, List.length_cons, List.length_append, List.length_append]
      omega

theorem length_of_evalAll? {items : List Display} {values : List Value}
    (isRow : Display.evalAll? u items = some values) : values.length = items.length := by
  induction items generalizing values with
  | nil =>
      cases isRow
      rfl
  | cons item items ih =>
      obtain ⟨value, _, isRow⟩ := Option.bind_eq_some_iff.mp isRow
      obtain ⟨rest, isRest, rfl⟩ := Option.map_eq_some_iff.mp isRow
      rw [List.length_cons, List.length_cons, ih isRest]

theorem length_of_evalPairs? {entries : List (Display × Display)} {pairs : List (Value × Value)}
    (isRow : Display.evalPairs? u entries = some pairs) : pairs.length = entries.length := by
  induction entries generalizing pairs with
  | nil =>
      cases isRow
      rfl
  | cons entry entries ih =>
      obtain ⟨key, _, isRow⟩ := Option.bind_eq_some_iff.mp isRow
      obtain ⟨value, _, isRow⟩ := Option.bind_eq_some_iff.mp isRow
      obtain ⟨rest, isRest, rfl⟩ := Option.map_eq_some_iff.mp isRow
      rw [List.length_cons, List.length_cons, ih isRest]

/-- A count that is no greater than the length of a short code is written whole. -/
theorem toNat_count {count size : Nat} (within : count ≤ size) (small : size < UInt32.size) :
    (UInt32.ofNat count).toNat = count :=
  UInt32.toNat_ofNat_of_lt' (Nat.lt_of_le_of_lt within small)

mutual

/-- The code of a plain display, with any code behind it, goes on with the value of the display on the stack. -/
theorem runWords_code : ∀ {e : Display} {v : Value}, e.Plain u → e.eval? u = some v → e.code.length < UInt32.size →
    ∀ (stack : Stack) (rest : List Word), runWords u stack (e.code ++ rest) = runWords u (v :: stack) rest
  | .const position, v, _, isValue, _, stack, rest => by
      have loaded : step u stack ⟨0, .loadConst, position⟩ = (u.constAt? position).map (· :: stack) := rfl
      rw [Display.eval?] at isValue
      rw [Display.code, List.singleton_append, runWords_cons, loaded, isValue]
      rfl
  | .row kind items, v, plain, isValue, small, stack, rest => by
      rw [Display.code, List.length_append] at small
      obtain ⟨values, isRow, built⟩ := Option.bind_eq_some_iff.mp isValue
      have isCount : (UInt32.ofNat items.length).toNat = values.length := by
        rw [toNat_count (length_le_length_codeAll items) (by omega), length_of_evalAll? isRow]
      rw [Display.code, List.append_assoc, runWords_codeAll plain.1 isRow (by omega), List.singleton_append,
        runWords_cons, step_row (plain.2 values isRow) built isCount]
      rfl
  | .dict entries, v, plain, isValue, small, stack, rest => by
      rw [Display.code, List.length_append] at small
      obtain ⟨pairs, isRow, built⟩ := Option.bind_eq_some_iff.mp isValue
      obtain ⟨all, isAll, rfl⟩ := Option.map_eq_some_iff.mp built
      have isCount : (UInt32.ofNat entries.length).toNat = pairs.length := by
        rw [toNat_count (length_le_length_codePairs entries) (by omega), length_of_evalPairs? isRow]
      rw [Display.code, List.append_assoc, runWords_codePairs plain.1 isRow (by omega), List.singleton_append,
        runWords_cons, step_dict (plain.2 pairs isRow) isAll isCount]
      rfl
  | .keyed values keys, v, plain, isValue, small, stack, rest => by
      rw [Display.code, List.length_append, List.length_append] at small
      obtain ⟨plainValues, plainKeys, clear⟩ := plain
      obtain ⟨row, isRow, isValue⟩ := Option.bind_eq_some_iff.mp isValue
      obtain ⟨tuple, isTuple, built⟩ := Option.bind_eq_some_iff.mp isValue
      have isCount : (UInt32.ofNat values.length).toNat = row.length := by
        rw [toNat_count (length_le_length_codeAll values) (by omega), length_of_evalAll? isRow]
      rw [Display.code, List.append_assoc, List.append_assoc, runWords_codeAll plainValues isRow (by omega),
        runWords_code plainKeys isTuple (by omega), List.singleton_append, runWords_cons,
        step_keyed (clear tuple isTuple) built isCount]
      rfl
  | .grown growth base operand, v, plain, isValue, small, stack, rest => by
      rw [Display.code, List.length_append, List.length_append] at small
      obtain ⟨plainBase, plainOperand, clear⟩ := plain
      obtain ⟨container, isContainer, isValue⟩ := Option.bind_eq_some_iff.mp isValue
      obtain ⟨taken, isTaken, built⟩ := Option.bind_eq_some_iff.mp isValue
      rw [Display.code, List.append_assoc, List.append_assoc, runWords_code plainBase isContainer (by omega),
        runWords_code plainOperand isTaken (by omega), List.singleton_append, runWords_cons,
        step_grown (clear container isContainer taken isTaken) built]
      rfl
  | .put base key value, v, plain, isValue, small, stack, rest => by
      rw [Display.code, List.length_append, List.length_append, List.length_append] at small
      obtain ⟨plainBase, plainKey, plainValue, clear⟩ := plain
      obtain ⟨container, isContainer, isValue⟩ := Option.bind_eq_some_iff.mp isValue
      obtain ⟨written, isWritten, isValue⟩ := Option.bind_eq_some_iff.mp isValue
      obtain ⟨taken, isTaken, built⟩ := Option.bind_eq_some_iff.mp isValue
      rw [Display.code, List.append_assoc, List.append_assoc, List.append_assoc,
        runWords_code plainBase isContainer (by omega), runWords_code plainKey isWritten (by omega),
        runWords_code plainValue isTaken (by omega), List.singleton_append, runWords_cons,
        step_put (clear container isContainer written isWritten) built]
      rfl

/-- The code of displays in a row pushes their values one after another. -/
theorem runWords_codeAll : ∀ {items : List Display} {values : List Value}, Display.AllPlain u items →
    Display.evalAll? u items = some values → (Display.codeAll items).length < UInt32.size →
    ∀ (stack : Stack) (rest : List Word),
      runWords u stack (Display.codeAll items ++ rest) = runWords u (values.reverse ++ stack) rest
  | [], _, _, isRow, _, stack, rest => by
      cases isRow
      rfl
  | item :: items, _, plain, isRow, small, stack, rest => by
      rw [Display.codeAll, List.length_append] at small
      obtain ⟨value, isValue, isRow⟩ := Option.bind_eq_some_iff.mp isRow
      obtain ⟨values, isValues, rfl⟩ := Option.map_eq_some_iff.mp isRow
      rw [Display.codeAll, List.append_assoc, runWords_code plain.1 isValue (by omega),
        runWords_codeAll plain.2 isValues (by omega), List.reverse_cons, List.append_assoc, List.singleton_append]

/-- The code of pairs pushes keys and values in turn. -/
theorem runWords_codePairs : ∀ {entries : List (Display × Display)} {pairs : List (Value × Value)},
    Display.PairsPlain u entries → Display.evalPairs? u entries = some pairs →
    (Display.codePairs entries).length < UInt32.size → ∀ (stack : Stack) (rest : List Word),
      runWords u stack (Display.codePairs entries ++ rest) =
        runWords u ((pairs.flatMap fun entry => [entry.1, entry.2]).reverse ++ stack) rest
  | [], _, _, isRow, _, stack, rest => by
      cases isRow
      rfl
  | (first, second) :: entries, _, plain, isRow, small, stack, rest => by
      rw [Display.codePairs, List.length_append, List.length_append] at small
      obtain ⟨plainFirst, plainSecond, plainRest⟩ := plain
      obtain ⟨key, isKey, isRow⟩ := Option.bind_eq_some_iff.mp isRow
      obtain ⟨value, isValue, isRow⟩ := Option.bind_eq_some_iff.mp isRow
      obtain ⟨pairs, isPairs, rfl⟩ := Option.map_eq_some_iff.mp isRow
      rw [Display.codePairs, List.append_assoc, List.append_assoc, runWords_code plainFirst isKey (by omega),
        runWords_code plainSecond isValue (by omega), runWords_codePairs plainRest isPairs (by omega),
        List.flatMap_cons, List.reverse_append, List.append_assoc]
      rfl

end

mutual

/-- The code of a display builds literals only. -/
theorem buildsLiteral_of_mem_code : ∀ (e : Display), ∀ word ∈ e.code, word.1.buildsLiteral = true
  | .const _, word, member => by
      rw [List.mem_singleton.mp member]
      rfl
  | .row kind items, word, member => by
      rw [Display.code, List.mem_append, List.mem_singleton] at member
      rcases member with inItems | rfl
      · exact buildsLiteral_of_mem_codeAll items word inItems
      · cases kind <;> rfl
  | .dict entries, word, member => by
      rw [Display.code, List.mem_append, List.mem_singleton] at member
      rcases member with inEntries | rfl
      · exact buildsLiteral_of_mem_codePairs entries word inEntries
      · rfl
  | .keyed values keys, word, member => by
      rw [Display.code, List.mem_append, List.mem_append, List.mem_singleton] at member
      rcases member with (inValues | inKeys) | rfl
      · exact buildsLiteral_of_mem_codeAll values word inValues
      · exact buildsLiteral_of_mem_code keys word inKeys
      · rfl
  | .grown growth base operand, word, member => by
      rw [Display.code, List.mem_append, List.mem_append, List.mem_singleton] at member
      rcases member with (inBase | inOperand) | rfl
      · exact buildsLiteral_of_mem_code base word inBase
      · exact buildsLiteral_of_mem_code operand word inOperand
      · cases growth <;> rfl
  | .put base key value, word, member => by
      rw [Display.code, List.mem_append, List.mem_append, List.mem_append, List.mem_singleton] at member
      rcases member with ((inBase | inKey) | inValue) | rfl
      · exact buildsLiteral_of_mem_code base word inBase
      · exact buildsLiteral_of_mem_code key word inKey
      · exact buildsLiteral_of_mem_code value word inValue
      · rfl

theorem buildsLiteral_of_mem_codeAll : ∀ (items : List Display), ∀ word ∈ Display.codeAll items,
    word.1.buildsLiteral = true
  | [], _, member => absurd member List.not_mem_nil
  | item :: items, word, member => by
      rw [Display.codeAll, List.mem_append] at member
      rcases member with here | behind
      · exact buildsLiteral_of_mem_code item word here
      · exact buildsLiteral_of_mem_codeAll items word behind

theorem buildsLiteral_of_mem_codePairs : ∀ (entries : List (Display × Display)),
    ∀ word ∈ Display.codePairs entries, word.1.buildsLiteral = true
  | [], _, member => absurd member List.not_mem_nil
  | (key, value) :: entries, word, member => by
      rw [Display.codePairs, List.mem_append, List.mem_append] at member
      rcases member with (inKey | inValue) | behind
      · exact buildsLiteral_of_mem_code key word inKey
      · exact buildsLiteral_of_mem_code value word inValue
      · exact buildsLiteral_of_mem_codePairs entries word behind

end

end

/-! ### Displays before a store -/

/-- The code of a display ends with a load only when the display is a constant. -/
theorem exists_last_code (e : Display) :
    ∃ front last, e.code = front ++ [last] ∧
      (last.1 = .loadConst → ∃ position, e = .const position ∧ front = []) := by
  cases e with
  | const position =>
      exact ⟨[], (.loadConst, position), rfl, fun _ => ⟨position, rfl, rfl⟩⟩
  | row kind items =>
      refine ⟨_, _, rfl, ?_⟩
      cases kind <;> exact fun isLoad => Opcode.noConfusion isLoad
  | dict entries =>
      exact ⟨_, _, rfl, fun isLoad => Opcode.noConfusion isLoad⟩
  | keyed values keys =>
      exact ⟨_, _, rfl, fun isLoad => Opcode.noConfusion isLoad⟩
  | grown growth base operand =>
      refine ⟨_, _, rfl, ?_⟩
      cases growth <;> exact fun isLoad => Opcode.noConfusion isLoad
  | put base key value =>
      exact ⟨_, _, rfl, fun isLoad => Opcode.noConfusion isLoad⟩

/-- A run that is the code of a plain display leaves the value of the display alone on the stack. -/
theorem runValue?_code {u : CodeUnit} {e : Display} {v : Value} {code : List Instruction} (plain : e.Plain u)
    (isValue : e.eval? u = some v) (literal : v.isLiteral = true) (compiled : code.map wordOf = e.code)
    (fits : code.length ≤ maxRun) : runValue? u code = some v := by
  have small : e.code.length < UInt32.size := by
    rw [← compiled, List.length_map]
    exact Nat.lt_of_le_of_lt fits (by decide)
  have ran : run u [] code = some [v] := by
    have whole := runWords_code plain isValue small [] []
    rwa [List.append_nil, ← compiled, ← run_eq_runWords] at whole
  simp only [runValue?, ran, literal, if_true]

/-- The code of a display stands right before a store, within the window and with no literal-building instruction before
    it. -/
structure Stored (u : CodeUnit) (e : Display) (before code : List Instruction) (store : Instruction)
    (after : List Instruction) : Prop where
  body : u.instructions = before ++ code ++ store :: after
  compiled : code.map wordOf = e.code
  fits : code.length ≤ maxRun
  alone : ∀ ins ∈ before.getLast?, ins.op.buildsLiteral = false

/-- A plain display that evaluates to a literal is recovered with this literal. -/
theorem traceValue_display {u : CodeUnit} {e : Display} {before code after : List Instruction} {store : Instruction}
    {v : Value} (stored : Stored u e before code store after) (isValue : e.eval? u = some v)
    (literal : v.isLiteral = true) (plain : e.Plain u) :
    traceValue u (earlierThan u (before.length + code.length)) = some v := by
  obtain ⟨body, compiled, fits, alone⟩ := stored
  have place : earlierThan u (before.length + code.length) = (before ++ code).reverse := by
    rw [earlierThan, body, ← List.length_append, List.take_left]
  obtain ⟨front, last, isCode, constant⟩ := exists_last_code e
  obtain ⟨earlier, final, rfl, isFront, isFinal⟩ := List.map_eq_append_iff.mp (compiled.trans isCode)
  obtain ⟨ins, rfl, isLast⟩ := List.map_eq_singleton_iff.mp isFinal
  have reversed : (before ++ (earlier ++ [ins])).reverse = ins :: (earlier.reverse ++ before.reverse) := by
    simp
  rw [place]
  by_cases isLoad : ins.op = .loadConst
  · -- a single load, which is not replayed
    rw [← isLast] at constant
    obtain ⟨position, rfl, rfl⟩ := constant isLoad
    have isWord : (ins.op, ins.arg) = (Opcode.loadConst, position) := by
      cases isCode
      exact isLast
    rw [Display.eval?] at isValue
    rw [reversed, traceValue, if_pos isLoad, (Prod.mk.inj isWord).2, isValue, Option.filter_some, literal, if_pos rfl]
  · have literals : ∀ other ∈ earlier ++ [ins], other.op.buildsLiteral = true := by
      intro other member
      apply buildsLiteral_of_mem_code e (wordOf other)
      rw [← compiled]
      exact List.mem_map_of_mem member
    have window := literalRun_append before.reverse fits literals (.inr (by rwa [List.head?_reverse]))
    rw [← List.reverse_append, reversed] at window
    rw [reversed, traceValue_of_literalRun isLoad window (by simp)]
    exact runValue?_code plain isValue literal compiled fits

/-- A body that drops a loaded name and then stores a dictionary, which is built empty, updated, and put into once. -/
def storedTable : CodeUnit :=
  { CodeUnit.empty "<module>" ⟨3, 9⟩ with
    instructions := Instruction.decode ⟨3, 9⟩
      [101, 0, 1, 0, 105, 0, 100, 0, 100, 0, 100, 1, 100, 0, 104, 3, 100, 2, 156, 2, 165, 1, 100, 3, 103, 0, 100, 2,
        162, 1, 147, 1, 90, 1]
    consts := [.int 1, .int 2, .tuple [.str "a", .str "b"], .str "a"]
    names := ["f", "X"] }

/-- The dictionary of the body: two keys are given together, and the first one is written again. -/
def table : Display :=
  .put
    (.grown .updateDict (.dict [])
      (.keyed [.const 0, .row .set [.const 0, .const 1, .const 0]] (.const 2)))
    (.const 3) (.grown .extendList (.row .list []) (.const 2))

/-- The second value of the first key stands in its first place, and the set has each entry once. -/
theorem traceValue_display_table :
    table.eval? storedTable = some
        (.dict [(.str "a", .list [.str "a", .str "b"]), (.str "b", .set [.int 1, .int 2])]) ∧
      traceValue storedTable (earlierThan storedTable 16) = some
        (.dict [(.str "a", .list [.str "a", .str "b"]), (.str "b", .set [.int 1, .int 2])]) := by
  have first : storedTable.constAt? 0 = some (.int 1) := rfl
  have second : storedTable.constAt? 1 = some (.int 2) := rfl
  have third : storedTable.constAt? 2 = some (.tuple [.str "a", .str "b"]) := rfl
  have fourth : storedTable.constAt? 3 = some (.str "a") := rfl
  have differ : Quantity.ofInt 1 ≠ Quantity.ofInt 2 := by decide +kernel
  have isValue : table.eval? storedTable = some
      (.dict [(.str "a", .list [.str "a", .str "b"]), (.str "b", .set [.int 1, .int 2])]) := by
    simp [table, Display.eval?, Display.evalAll?, Display.evalPairs?, first, second, third, fourth, buildKeyed,
      buildPut, Growth.build, Row.build, Value.addEntry, Value.putPair, Value.writePair, Value.entries?, Value.isKey,
      Value.equalKeys, Value.equalScalars, Value.equalForms, Value.number?, differ]
  have noNaN : (Value.int 1).NaNFree ∧ (Value.str "a").NaNFree :=
    ⟨Value.naNFree_of_isScalar rfl rfl, Value.naNFree_of_isScalar rfl rfl⟩
  have plain : table.Plain storedTable := by
    simp [table, Display.Plain, Display.AllPlain, Display.PairsPlain, Display.eval?, Display.evalAll?,
      Display.evalPairs?, first, second, third, fourth, buildKeyed, Growth.build, Row.build, Row.Clear, Growth.Clear,
      Clear, isSequence, Value.addEntry, Value.putPair, Value.writePair, Value.entries, Value.entries?, Value.isKey,
      Value.equalKeys, Value.equalScalars, Value.equalForms, Value.number?, differ, differ.symm, noNaN]
  have stored : Stored storedTable table (storedTable.instructions.take 2) ((storedTable.instructions.take 16).drop 2)
      ⟨32, .storeName, 1⟩ [] := ⟨rfl, rfl, by decide, by decide⟩
  exact ⟨isValue, traceValue_display stored isValue rfl plain⟩

/-! #### Displays that are not plain -/

/-- A body that stores what it builds from some constants. -/
def storing (code : List UInt8) (consts : List Value) : CodeUnit :=
  { CodeUnit.empty "<module>" ⟨3, 9⟩ with
    instructions := Instruction.decode ⟨3, 9⟩ (code ++ [90, 0])
    consts
    names := ["X"] }

/-- The list `[*'ab', 1]`. -/
def unpackedText : Display :=
  .grown .appendList (.grown .extendList (.row .list []) (.const 0)) (.const 1)

/-- The body that stores the list. -/
def storedText : CodeUnit :=
  storing [103, 0, 100, 0, 162, 1, 100, 1, 145, 1] [.str "ab", .int 1]

/-- The dictionary `{1: 'a', True: 'b'}`. -/
def equalNumbers : Display :=
  .keyed [.const 0, .const 1] (.const 2)

/-- The body that stores the dictionary. -/
def storedNumbers : CodeUnit :=
  storing [100, 0, 100, 1, 100, 2, 156, 2] [.str "a", .str "b", .tuple [.int 1, .bool true]]

/-- Two displays that evaluate to literals and stand alone before a store. The characters of the unpacked text are not
    found, so nothing is recovered; and the keys that are equal numbers are kept apart, so another dictionary is
    recovered than the one that is stored. -/
theorem displays_not_recovered :
    (Stored storedText unpackedText [] (storedText.instructions.take 5) ⟨10, .storeName, 0⟩ [] ∧
      unpackedText.eval? storedText = some (.list [.str "a", .str "b", .int 1]) ∧
      traceValue storedText (earlierThan storedText 5) = none) ∧
    (Stored storedNumbers equalNumbers [] (storedNumbers.instructions.take 4) ⟨8, .storeName, 0⟩ [] ∧
      equalNumbers.eval? storedNumbers = some (.dict [(.int 1, .str "b")]) ∧
      traceValue storedNumbers (earlierThan storedNumbers 4) =
        some (.dict [(.int 1, .str "a"), (.bool true, .str "b")])) := by
  refine ⟨⟨⟨rfl, rfl, by decide, by decide⟩, rfl, rfl⟩, ⟨rfl, rfl, by decide, by decide⟩, ?_, rfl⟩
  have number : (Value.int 1).equalKeys (.bool true) = true := by
    simp [Value.equalKeys, Value.equalScalars, Value.number?]
  have values : Display.evalAll? storedNumbers [.const 0, .const 1] = some [.str "a", .str "b"] := rfl
  have keys : Display.eval? storedNumbers (.const 2) = some (.tuple [.int 1, .bool true]) := rfl
  rw [equalNumbers, Display.eval?, values, keys]
  simp [buildKeyed, Value.putPair, Value.writePair, Value.isKey, number]

end SourceRecovery.Replay
