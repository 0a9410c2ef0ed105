/-
Module: SourceRecovery.Proofs.DictionaryUpdates
Layer: Proofs
Purpose: Dictionaries as ordered maps. A dictionary is seen through the row of its keys and through the value that was
  written last to a key. Pairs inserted one by one leave the keys in the order in which they first occur, each with its
  last value; putting one dictionary into another replaces values in place and adds the new keys behind, and how such
  updates are grouped does not matter.
Imports: SourceRecovery.Analysis.Replay, SourceRecovery.Proofs.DictionaryKeys, SourceRecovery.Proofs.ValueEquality
Trusted boundary: none
Main exports: Value.IsDictionary, Value.lastValue?, Value.firstKeys, Value.updated, Value.lastValue?_insertAll,
  Value.insertAll_dictionaries
Open obligations: none
-/
import SourceRecovery.Analysis.Replay
import SourceRecovery.Proofs.DictionaryKeys
import SourceRecovery.Proofs.ValueEquality

namespace SourceRecovery

namespace Value

/-- No NaN occurs in a key. -/
def NaNFreeKeys (pairs : List (Value × Value)) : Prop :=
  ∀ entry ∈ pairs, entry.1.NaNFree

/-- Pairs with distinct keys, in which no NaN occurs. -/
structure IsDictionary (pairs : List (Value × Value)) : Prop where
  distinct : DistinctKeys pairs
  free : NaNFreeKeys pairs

/-- The value that was written last to a key. -/
def lastValue? (pairs : List (Value × Value)) (key : Value) : Option Value :=
  (pairs.filter fun entry => key.same entry.1).getLast?.map Prod.snd

/-- The keys in the order in which they first occur, each once. -/
def firstKeys (pairs : List (Value × Value)) : List Value :=
  (pairs.map Prod.fst).eraseDupsBy same

/-- A dictionary into which another one is put: keys of both have the values of the other one, and its new keys follow
    behind. -/
def updated (first second : List (Value × Value)) : List (Value × Value) :=
  (first.map fun entry => (entry.1, (lastValue? second entry.1).getD entry.2)) ++
    second.filter fun entry => !first.any fun old => old.1.same entry.1

/-! ### The last value of a key -/

theorem lastValue?_append (front back : List (Value × Value)) (key : Value) :
    lastValue? (front ++ back) key = (lastValue? back key).or (lastValue? front key) := by
  unfold lastValue?
  rw [List.filter_append, List.getLast?_append, Option.map_or]

theorem lastValue?_cons (entry : Value × Value) (pairs : List (Value × Value)) (key : Value) :
    lastValue? (entry :: pairs) key =
      (lastValue? pairs key).or (if key.same entry.1 then some entry.2 else Option.none) := by
  have single : lastValue? [entry] key = if key.same entry.1 then some entry.2 else Option.none := by
    unfold lastValue?
    rw [List.filter_cons, List.filter_nil]
    cases key.same entry.1 with
    | true => rfl
    | false => rfl
  rw [← single, ← lastValue?_append]
  rfl

theorem lastValue?_eq_none {pairs : List (Value × Value)} {key : Value}
    (absent : ∀ entry ∈ pairs, key.same entry.1 = false) : lastValue? pairs key = Option.none := by
  have nothing : (pairs.filter fun entry => key.same entry.1) = [] := by
    apply List.filter_eq_nil_iff.mpr
    exact fun entry member => Bool.eq_false_iff.mp (absent entry member)
  rw [lastValue?, nothing]
  rfl

section

variable {pairs added : List (Value × Value)} {key other : Value}

/-- Insertion writes a value to its key, as if the pair were added at the end. -/
theorem lastValue?_insert (dictionary : IsDictionary pairs) (freeOther : other.NaNFree) (key value : Value) :
    lastValue? (insert key value pairs) other = lastValue? (pairs ++ [(key, value)]) other := by
  obtain ⟨distinct, free⟩ := dictionary
  induction pairs with
  | nil =>
      rfl
  | cons entry pairs ih =>
      obtain ⟨differs, distinct⟩ := List.pairwise_cons.mp distinct
      obtain ⟨freeEntry, free⟩ := List.forall_mem_cons.mp free
      rw [insert]
      split
      case isTrue equal =>
          have alike : other.same entry.1 = other.same key := freeOther.same_congr_right freeEntry equal
          rw [lastValue?_append, lastValue?_cons, lastValue?_cons, lastValue?_cons, alike]
          cases isKey : other.same key with
          | true =>
              -- no later key is equal to the one whose value is replaced
              have absent : lastValue? pairs other = Option.none := by
                apply lastValue?_eq_none
                intro later member
                rw [freeOther.same_congr freeEntry (alike.trans isKey)]
                exact differs later member
              rw [absent]
              rfl
          | false =>
              rfl
      case isFalse =>
          rw [List.cons_append, lastValue?_cons, lastValue?_cons, ih distinct free]

theorem naNFreeKeys_insert (free : NaNFreeKeys pairs) (freeKey : key.NaNFree) (value : Value) :
    NaNFreeKeys (insert key value pairs) := by
  intro entry member
  rcases fst_of_mem_insert member with isKey | ⟨old, isOld, same⟩
  · rw [isKey]
    exact freeKey
  · rw [same]
    exact free old isOld

theorem IsDictionary.insert (dictionary : IsDictionary pairs) (freeKey : key.NaNFree) (value : Value) :
    IsDictionary (Value.insert key value pairs) :=
  ⟨distinctKeys_insert dictionary.distinct key value, naNFreeKeys_insert dictionary.free freeKey value⟩

theorem isDictionary_nil : IsDictionary [] :=
  ⟨.nil, List.forall_mem_nil _⟩

theorem IsDictionary.insertAll (dictionary : IsDictionary pairs) (free : NaNFreeKeys added) :
    IsDictionary (Value.insertAll pairs added) := by
  induction added generalizing pairs with
  | nil =>
      exact dictionary
  | cons entry added ih =>
      obtain ⟨freeEntry, free⟩ := List.forall_mem_cons.mp free
      exact ih (dictionary.insert freeEntry entry.2) free

/-- A dictionary has for a key what was written last to it. -/
theorem lastValue?_insertAll (dictionary : IsDictionary pairs) (free : NaNFreeKeys added) (freeOther : other.NaNFree) :
    lastValue? (insertAll pairs added) other = lastValue? (pairs ++ added) other := by
  induction added generalizing pairs with
  | nil =>
      rw [List.append_nil]
      rfl
  | cons entry added ih =>
      obtain ⟨freeEntry, free⟩ := List.forall_mem_cons.mp free
      have step : insertAll pairs (entry :: added) = insertAll (insert entry.1 entry.2 pairs) added := rfl
      rw [step, ih (dictionary.insert freeEntry entry.2) free, lastValue?_append,
        lastValue?_insert dictionary freeOther, ← lastValue?_append, List.append_assoc]
      rfl

/-- In a dictionary, the value of a key is the one that stands beside it. -/
theorem IsDictionary.lastValue?_of_mem (dictionary : IsDictionary pairs) {entry : Value × Value}
    (member : entry ∈ pairs) : lastValue? pairs entry.1 = some entry.2 := by
  obtain ⟨distinct, free⟩ := dictionary
  induction pairs with
  | nil =>
      cases member
  | cons first pairs ih =>
      obtain ⟨differs, distinct⟩ := List.pairwise_cons.mp distinct
      obtain ⟨freeFirst, free⟩ := List.forall_mem_cons.mp free
      rw [lastValue?_cons]
      rcases List.mem_cons.mp member with rfl | later
      · rw [lastValue?_eq_none differs, if_pos freeFirst.same_self]
        rfl
      · rw [ih later distinct free]
        rfl

/-! ### The keys of a dictionary -/

theorem naNFreeKeys_besides (free : NaNFreeKeys pairs) (key : Value) : NaNFreeKeys (besides key pairs) :=
  fun entry member => free entry (List.mem_filter.mp member).1

/-- The keys of a dictionary are those that were written, in the order in which they were written first. -/
theorem map_fst_insertAll (pairs : List (Value × Value)) (free : NaNFreeKeys pairs) :
    (insertAll [] pairs).map Prod.fst = firstKeys pairs := by
  -- the recursion is on the pairs that are left when those of the first key are taken out
  match pairs with
  | [] =>
      rfl
  | entry :: added =>
      obtain ⟨freeEntry, freeAdded⟩ := List.forall_mem_cons.mp free
      have first : insertAll [] (entry :: added) = insertAll [entry] added := rfl
      have shorter := length_besides_le entry.1 added
      have rest := map_fst_insertAll (besides entry.1 added) (naNFreeKeys_besides freeAdded entry.1)
      have kept : (besides entry.1 added).map Prod.fst =
          (added.map Prod.fst).filter fun key => decide (key.same entry.1 = false) := by
        rw [List.filter_map]
        refine congrArg (List.map Prod.fst) (List.filter_congr fun other member => ?_)
        rw [Function.comp_apply, freeEntry.same_comm (freeAdded other member)]
        cases other.1.same entry.1 with
        | true => rfl
        | false => rfl
      rw [first, insertAll_cons, List.map_cons, rest, firstKeys, firstKeys, List.map_cons, List.eraseDupsBy_cons, kept]
termination_by pairs.length

/-! ### Updates -/

/-- The pairs of a dictionary, inserted one by one, are that dictionary. -/
theorem insertAll_nil_of_distinctKeys (distinct : DistinctKeys pairs) : insertAll [] pairs = pairs := by
  have whole : DistinctKeys ([] ++ pairs) := distinct
  exact insertAll_of_distinctKeys whole

theorem besides_cons (key : Value) (entry : Value × Value) (pairs : List (Value × Value)) :
    besides key (entry :: pairs) = if key.same entry.1 then besides key pairs else entry :: besides key pairs := by
  rw [besides, List.filter_cons]
  cases key.same entry.1 with
  | true => rfl
  | false => rfl

/-- The pairs of other keys are those that remain when the pairs of a key are left out before they are inserted. -/
theorem besides_insert (free : NaNFreeKeys pairs) (freeOther : other.NaNFree) (key value : Value) :
    besides other (insert key value pairs) =
      if other.same key then besides other pairs else insert key value (besides other pairs) := by
  induction pairs with
  | nil =>
      rw [insert, besides_cons]
      rfl
  | cons entry pairs ih =>
      obtain ⟨freeEntry, free⟩ := List.forall_mem_cons.mp free
      rw [insert, besides_cons]
      split
      case isTrue equal =>
          have alike : other.same entry.1 = other.same key := freeOther.same_congr_right freeEntry equal
          rw [besides_cons, alike]
          split
          · rfl
          · rw [insert, if_pos equal]
      case isFalse differs =>
          rw [besides_cons, ih free]
          cases other.same entry.1 with
          | true =>
              rfl
          | false =>
              simp only [Bool.false_eq_true, if_false]
              split
              · rfl
              · rw [insert, if_neg differs]

theorem besides_insertAll (free : NaNFreeKeys pairs) (freeAdded : NaNFreeKeys added) (freeOther : other.NaNFree) :
    besides other (insertAll pairs added) = insertAll (besides other pairs) (besides other added) := by
  induction added generalizing pairs with
  | nil =>
      rfl
  | cons entry added ih =>
      obtain ⟨freeEntry, freeAdded⟩ := List.forall_mem_cons.mp freeAdded
      have step : insertAll pairs (entry :: added) = insertAll (insert entry.1 entry.2 pairs) added := rfl
      rw [step, ih (naNFreeKeys_insert free freeEntry entry.2) freeAdded, besides_insert free freeOther,
        besides_cons]
      cases other.same entry.1 with
      | true => rfl
      | false => rfl

/-- What is left out for one key does not change the last value of another one. -/
theorem lastValue?_besides (freeKey : key.NaNFree) (freeOther : other.NaNFree) (apart : key.same other = false)
    (pairs : List (Value × Value)) : lastValue? (besides key pairs) other = lastValue? pairs other := by
  unfold lastValue? besides
  rw [List.filter_filter]
  refine congrArg (fun found => (List.getLast? found).map Prod.snd) (List.filter_congr fun entry _ => ?_)
  cases equal : other.same entry.1 with
  | false =>
      rfl
  | true =>
      have unlike : key.same entry.1 = false := by
        rw [← freeKey.same_congr_right freeOther equal]
        exact apart
      rw [unlike]
      rfl

/-- Putting a dictionary into another one replaces values in place and adds the new keys behind. -/
theorem insertAll_eq_updated {first second : List (Value × Value)} (isFirst : IsDictionary first)
    (isSecond : IsDictionary second) : insertAll first second = updated first second := by
  obtain ⟨distinct, free⟩ := isFirst
  induction first generalizing second with
  | nil =>
      rw [insertAll_nil_of_distinctKeys isSecond.distinct, updated, List.filter_eq_self.mpr (by simp)]
      rfl
  | cons entry first ih =>
      obtain ⟨differs, distinct⟩ := List.pairwise_cons.mp distinct
      obtain ⟨freeEntry, free⟩ := List.forall_mem_cons.mp free
      have isRest : IsDictionary (besides entry.1 second) :=
        ⟨isSecond.distinct.filter _, naNFreeKeys_besides isSecond.free entry.1⟩
      have replaced : (first.map fun old => (old.1, (lastValue? (besides entry.1 second) old.1).getD old.2)) =
          first.map fun old => (old.1, (lastValue? second old.1).getD old.2) := by
        apply List.map_congr_left
        intro old member
        rw [lastValue?_besides freeEntry (free old member) (differs old member)]
      have behind : ((besides entry.1 second).filter fun new => !first.any fun old => old.1.same new.1) =
          second.filter fun new => !(entry :: first).any fun old => old.1.same new.1 := by
        rw [besides, List.filter_filter]
        apply List.filter_congr
        intro new _
        rw [List.any_cons, Bool.not_or, Bool.and_comm]
      rw [insertAll_cons, ih isRest distinct free, updated, updated, replaced, behind]
      rfl

theorem insertAll_append (pairs front back : List (Value × Value)) :
    insertAll pairs (front ++ back) = insertAll (insertAll pairs front) back :=
  List.foldl_append

/-- Pairs can be collected in a dictionary of their own before they are put into another one. -/
theorem insertAll_insertAll_nil (free : NaNFreeKeys pairs) (freeAdded : NaNFreeKeys added) :
    insertAll pairs (insertAll [] added) = insertAll pairs added := by
  induction pairs generalizing added with
  | nil =>
      exact insertAll_nil_of_distinctKeys (isDictionary_nil.insertAll freeAdded).distinct
  | cons entry pairs ih =>
      obtain ⟨freeEntry, free⟩ := List.forall_mem_cons.mp free
      have last : lastWritten entry.1 entry.2 (insertAll [] added) = lastWritten entry.1 entry.2 added :=
        congrArg (Option.getD · entry.2) (lastValue?_insertAll isDictionary_nil freeAdded freeEntry)
      have rest : besides entry.1 (insertAll [] added) = insertAll [] (besides entry.1 added) :=
        besides_insertAll isDictionary_nil.free freeAdded freeEntry
      rw [insertAll_cons, insertAll_cons, last, rest, ih free (naNFreeKeys_besides freeAdded entry.1)]

/-- How updates are grouped does not matter. -/
theorem insertAll_assoc {first second third : List (Value × Value)} (isFirst : IsDictionary first)
    (isSecond : IsDictionary second) (isThird : IsDictionary third) :
    insertAll (insertAll first second) third = insertAll first (insertAll second third) := by
  have alone : insertAll [] second = second := insertAll_nil_of_distinctKeys isSecond.distinct
  have freeBoth : NaNFreeKeys (second ++ third) := List.forall_mem_append.mpr ⟨isSecond.free, isThird.free⟩
  calc insertAll (insertAll first second) third
      = insertAll first (second ++ third) := (insertAll_append first second third).symm
    _ = insertAll first (insertAll [] (second ++ third)) := (insertAll_insertAll_nil isFirst.free freeBoth).symm
    _ = insertAll first (insertAll second third) := by rw [insertAll_append, alone]

end

end Value

/-- The value in a slot is changed, and all others stay. -/
theorem Replay.change?_slot (f : Value → Option Value) (upper lower : Stack) (base : Value) :
    change? (upper.length + 1) f (upper ++ base :: lower) = (f base).map fun changed => upper ++ changed :: lower := by
  induction upper with
  | nil =>
      rfl
  | cons top upper ih =>
      have deeper : change? (upper.length + 1 + 1) f (top :: (upper ++ base :: lower)) =
          (change? (upper.length + 1) f (upper ++ base :: lower)).map (top :: ·) := rfl
      rw [List.length_cons, List.cons_append, deeper, ih, Option.map_map]
      rfl

namespace Value

/-- Pairs inserted one by one give a dictionary of their keys, in the order in which these first occur, each with the
    value that was written last to it. So a dictionary that is put into another one, as the instruction for it does on
    the stack, replaces the values of the keys of both in place and adds its new keys behind; and of three
    dictionaries it does not matter which two are put together first. -/
theorem insertAll_dictionaries {pairs first second third : List (Value × Value)} (free : NaNFreeKeys pairs)
    (isFirst : IsDictionary first) (isSecond : IsDictionary second) (isThird : IsDictionary third) :
    (IsDictionary (insertAll [] pairs) ∧ (insertAll [] pairs).map Prod.fst = firstKeys pairs ∧
      ∀ entry ∈ insertAll [] pairs, lastValue? pairs entry.1 = some entry.2) ∧
    (insertAll first second = updated first second ∧
      ∀ (u : CodeUnit) (start slot : UInt32) (upper lower : Replay.Stack), slot.toNat = upper.length + 1 →
        Replay.step u (.dict second :: (upper ++ .dict first :: lower)) ⟨start, .dictUpdate, slot⟩ =
          some (upper ++ .dict (updated first second) :: lower)) ∧
    insertAll (insertAll first second) third = insertAll first (insertAll second third) := by
  have dictionary : IsDictionary (insertAll [] pairs) := isDictionary_nil.insertAll free
  have put : insertAll first second = updated first second := insertAll_eq_updated isFirst isSecond
  refine ⟨⟨dictionary, map_fst_insertAll pairs free, ?_⟩, ⟨put, ?_⟩, insertAll_assoc isFirst isSecond isThird⟩
  · intro entry member
    have written := lastValue?_insertAll isDictionary_nil free (dictionary.free entry member)
    rw [dictionary.lastValue?_of_mem member] at written
    exact written.symm
  · intro u start slot upper lower isSlot
    simp only [Replay.step, isSlot, Replay.change?_slot, Replay.extendDict, put]
    rfl

/-- Pairs in which both zeros are keys. -/
def zeroPairs : List (Value × Value) :=
  [(.float Double.zero.negate, .int 1), (.str "a", .int 2), (.float Double.zero, .int 3)]

/-- A dictionary that has the key `"a"` in common with the pairs above, and a key of its own. -/
def namedPairs : List (Value × Value) :=
  [(.str "b", .int 4), (.str "a", .int 5)]

theorem insertAll_dictionaries_zeroPairs :
    (NaNFreeKeys zeroPairs ∧ IsDictionary namedPairs ∧ IsDictionary (insertAll [] zeroPairs)) ∧
      (insertAll [] zeroPairs).map Prod.fst = [.float Double.zero.negate, .str "a"] ∧
      lastValue? zeroPairs (.float Double.zero.negate) = some (.int 3) ∧
      insertAll namedPairs (insertAll [] zeroPairs) =
        [(.str "b", .int 4), (.str "a", .int 2), (.float Double.zero.negate, .int 3)] ∧
      insertAll (insertAll namedPairs (insertAll [] zeroPairs)) namedPairs =
        insertAll namedPairs (insertAll (insertAll [] zeroPairs) namedPairs) := by
  have text (name : String) : (Value.str name).NaNFree := naNFree_of_isScalar rfl rfl
  have free : NaNFreeKeys zeroPairs :=
    List.forall_mem_cons.mpr ⟨naNFree_of_isScalar rfl rfl,
      List.forall_mem_cons.mpr ⟨text "a", List.forall_mem_singleton.mpr (naNFree_of_isScalar rfl rfl)⟩⟩
  have named : IsDictionary namedPairs :=
    { distinct := .cons (List.forall_mem_singleton.mpr rfl) (List.pairwise_singleton _ _)
      free := List.forall_mem_cons.mpr ⟨text "b", List.forall_mem_singleton.mpr (text "a")⟩ }
  have zeros : IsDictionary (insertAll [] zeroPairs) := isDictionary_nil.insertAll free
  obtain ⟨⟨_, keys, last⟩, ⟨put, _⟩, grouped⟩ := insertAll_dictionaries free named zeros named
  refine ⟨⟨free, named, zeros⟩, keys.trans rfl, ?_, put.trans rfl, grouped⟩
  exact last (.float Double.zero.negate, .int 3) (.head _)

end Value

end SourceRecovery
