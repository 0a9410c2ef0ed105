/-
Module: SourceRecovery.Proofs.LineEdits
Layer: Proofs
Purpose: Ranges of lines replaced one after the other and all at once. An edit names its lines by their numbers in the
  text as it was, and every edit that is made moves the lines behind it. Made from the last one to the first one, edits
  move only lines that no edit still to come names, so the result is what it would be if all were made at once. Repair
  puts in its stubs in this order.
Imports: SourceRecovery.Proofs.KeyOrder, SourceRecovery.Repair.Basic
Trusted boundary: none
Main exports: Patch.Edit, Patch.replaced, Patch.Compatible, Patch.foldl_apply_of_descending,
  Patch.foldl_apply_fromEnd, Repair.stubbed_eq_replaced
Open obligations: none
-/
import SourceRecovery.Proofs.KeyOrder
import SourceRecovery.Repair.Basic

namespace SourceRecovery

namespace Patch

/-- A range of lines and the text that takes its place. A range without lines stands before the line at its start. -/
structure Edit where
  start : Nat
  stop : Nat
  text : String
deriving DecidableEq, Repr

/-- Lines after an edit. -/
def Edit.apply (lines : List String) (edit : Edit) : List String :=
  splice lines edit.start edit.stop edit.text

/-- Edits from the last one to the first one. -/
def fromEnd (edits : List Edit) : List Edit :=
  edits.mergeSort fun a b => b.start ≤ a.start

/-! ### All edits at once -/

/-- The lines that edits put before the line at a place. -/
def putAt (edits : List Edit) (place : Nat) : List String :=
  (edits.filter fun edit => edit.start == place).flatMap fun edit => Text.split edit.text

/-- The line at a place is in the range of an edit. -/
def covers (edits : List Edit) (place : Nat) : Bool :=
  edits.any fun edit => edit.start ≤ place && place < edit.stop

/-- What becomes of a numbered line: the lines that are put before it, and the line itself unless an edit covers it. -/
def changed (edits : List Edit) (line : String × Nat) : List String :=
  putAt edits line.2 ++ if covers edits line.2 then [] else [line.1]

/-- Lines with all edits made at once: a walk over the numbered lines, and what is put behind the last one. -/
def replaced (lines : List String) (edits : List Edit) : List String :=
  lines.zipIdx.flatMap (changed edits) ++ putAt edits lines.length

/-- The ranges of two edits have nothing in common: one of them ends before the other starts, or where it starts. So
    neither starts between two lines of the other. -/
def Edit.Apart (a b : Edit) : Prop :=
  a.stop ≤ b.start ∨ b.stop ≤ a.start

/-- Edits that can be made at once: their ranges lie within the lines and apart, and no two start at one place. -/
structure Compatible (lines : List String) (edits : List Edit) : Prop where
  ordered : ∀ edit ∈ edits, edit.start ≤ edit.stop
  inside : ∀ edit ∈ edits, edit.stop ≤ lines.length
  apart : edits.Pairwise Edit.Apart
  starts : edits.Pairwise fun a b => a.start ≠ b.start

/-! ### One edit after the other -/

/-- The second edit stands before the first one. -/
def Edit.Before (later earlier : Edit) : Prop :=
  earlier.stop ≤ later.start ∧ earlier.start < later.start

/-- Edits one before the other, from the last one on, within a number of lines. -/
structure Descending (bound : Nat) (edits : List Edit) : Prop where
  inside : ∀ edit ∈ edits, edit.start ≤ edit.stop ∧ edit.stop ≤ bound
  before : edits.Pairwise Edit.Before

variable {lines : List String} {edits : List Edit} {edit : Edit} {bound place : Nat}

/-- The other edits lie within the lines before the last one. -/
theorem Descending.tail (descending : Descending bound (edit :: edits)) : Descending edit.start edits where
  inside other member :=
    ⟨(descending.inside other (List.mem_cons_of_mem _ member)).1, (List.rel_of_pairwise_cons descending.before member).1⟩
  before := descending.before.tail

theorem splice_eq {start stop : Nat} (ordered : start ≤ stop) (inside : stop ≤ lines.length) (text : String) :
    splice lines start stop text = lines.take start ++ (Text.split text ++ lines.drop stop) := by
  unfold splice
  dsimp only
  rw [Nat.min_eq_left inside, Nat.min_eq_left ordered, List.append_assoc]

/-- Lines behind all the ranges only move. -/
theorem foldl_apply_append (descending : Descending lines.length edits) (behind : List String) :
    edits.foldl Edit.apply (lines ++ behind) = edits.foldl Edit.apply lines ++ behind := by
  induction edits generalizing lines behind with
  | nil =>
      rfl
  | cons edit edits ih =>
      obtain ⟨ordered, inside⟩ := descending.inside edit List.mem_cons_self
      have front : (lines.take edit.start).length = edit.start := List.length_take_of_le (ordered.trans inside)
      have rest : Descending (lines.take edit.start).length edits := front.symm ▸ descending.tail
      have longer : edit.stop ≤ (lines ++ behind).length := by
        rw [List.length_append]
        exact inside.trans (Nat.le_add_right _ _)
      rw [List.foldl_cons, List.foldl_cons, Edit.apply, Edit.apply, splice_eq ordered inside, splice_eq ordered longer,
        List.take_append_of_le_length (ordered.trans inside), List.drop_append_of_le_length inside, ih rest, ih rest]
      simp only [List.append_assoc]

/-- After the last edit, the others are made in the lines before it. -/
theorem foldl_apply_cons (descending : Descending lines.length (edit :: edits)) :
    (edit :: edits).foldl Edit.apply lines =
      edits.foldl Edit.apply (lines.take edit.start) ++ (Text.split edit.text ++ lines.drop edit.stop) := by
  obtain ⟨ordered, inside⟩ := descending.inside edit List.mem_cons_self
  have front : (lines.take edit.start).length = edit.start := List.length_take_of_le (ordered.trans inside)
  rw [List.foldl_cons, Edit.apply, splice_eq ordered inside]
  exact foldl_apply_append (front.symm ▸ descending.tail) _

/-! ### The walk over the lines -/

theorem putAt_cons_self (edit : Edit) (edits : List Edit) :
    putAt (edit :: edits) edit.start = Text.split edit.text ++ putAt edits edit.start := by
  rw [putAt, List.filter_cons, if_pos (beq_self_eq_true edit.start), List.flatMap_cons, putAt]

theorem putAt_cons_of_ne (other : edit.start ≠ place) : putAt (edit :: edits) place = putAt edits place := by
  rw [putAt, List.filter_cons_of_neg (by simpa using other), putAt]

theorem putAt_eq_nil (none : ∀ edit ∈ edits, edit.start ≠ place) : putAt edits place = [] := by
  rw [putAt, List.filter_eq_nil_iff.mpr (by simpa using none), List.flatMap_nil]

theorem covers_cons (edit : Edit) (edits : List Edit) (place : Nat) :
    covers (edit :: edits) place = (decide (edit.start ≤ place) && decide (place < edit.stop) || covers edits place) :=
  List.any_cons

theorem covers_eq_false (none : ∀ edit ∈ edits, edit.stop ≤ place) : covers edits place = false := by
  rw [covers, List.any_eq_false]
  intro edit member inside
  simp only [Bool.and_eq_true, decide_eq_true_eq] at inside
  exact absurd inside.2 (Nat.not_lt_of_le (none edit member))

/-- The last edit changes nothing before its start. -/
theorem changed_cons_of_lt {line : String × Nat} (early : line.2 < edit.start) :
    changed (edit :: edits) line = changed edits line := by
  have uncovered : decide (edit.start ≤ line.2) = false := decide_eq_false (Nat.not_le_of_lt early)
  rw [changed, changed, putAt_cons_of_ne (Nat.ne_of_gt early), covers_cons, uncovered, Bool.false_and, Bool.false_or]

/-- From the start of the last edit on no other edit changes anything. -/
theorem changed_of_descending (descending : Descending edit.start edits) {line : String × Nat}
    (late : edit.start < line.2) : changed (edit :: edits) line = if line.2 < edit.stop then [] else [line.1] := by
  have uncovered : covers edits line.2 = false :=
    covers_eq_false fun other member => (descending.inside other member).2.trans late.le
  have nothing : putAt (edit :: edits) line.2 = [] := by
    rw [putAt_cons_of_ne late.ne]
    refine putAt_eq_nil fun other member same => ?_
    have inside := descending.inside other member
    omega
  rw [changed, nothing, covers_cons, uncovered, decide_eq_true late.le, Bool.true_and, Bool.or_false, List.nil_append]
  simp only [decide_eq_true_eq]

/-- Lines without those before a place. -/
theorem flatMap_zipIdx_drop (stop : Nat) (lines : List String) (first : Nat) :
    (lines.zipIdx first).flatMap (fun line => if line.2 < stop then [] else [line.1]) = lines.drop (stop - first) := by
  induction lines generalizing first with
  | nil =>
      rw [List.zipIdx_nil, List.flatMap_nil, List.drop_nil]
  | cons line lines ih =>
      rw [List.zipIdx_cons, List.flatMap_cons, ih]
      by_cases early : first < stop
      · have more : stop - first = stop - (first + 1) + 1 := by omega
        rw [if_pos early, more, List.drop_succ_cons, List.nil_append]
      · have none : stop - first = 0 := by omega
        have still : stop - (first + 1) = 0 := by omega
        rw [if_neg early, none, still, List.drop_zero, List.drop_zero, List.singleton_append]

/-- From the start of the last edit on stand its text and the lines behind its range. -/
theorem walk_from_start (ordered : edit.start ≤ edit.stop) (descending : Descending edit.start edits)
    (starts : ∀ other ∈ edits, other.start ≠ edit.start) (lines : List String) :
    (lines.zipIdx edit.start).flatMap (changed (edit :: edits)) ++
        putAt (edit :: edits) (edit.start + lines.length) =
      Text.split edit.text ++ lines.drop (edit.stop - edit.start) := by
  have here : putAt (edit :: edits) edit.start = Text.split edit.text := by
    rw [putAt_cons_self, putAt_eq_nil starts, List.append_nil]
  cases lines with
  | nil =>
      rw [List.zipIdx_nil, List.flatMap_nil, List.length_nil, Nat.add_zero, here, List.drop_nil, List.nil_append,
        List.append_nil]
  | cons line lines =>
      -- only the first of these lines has the start of an edit before it
      have first : changed (edit :: edits) (line, edit.start) =
          Text.split edit.text ++ if edit.start < edit.stop then [] else [line] := by
        have uncovered : covers edits edit.start = false :=
          covers_eq_false fun other member => (descending.inside other member).2
        rw [changed, here, covers_cons, uncovered, decide_eq_true (Nat.le_refl _), Bool.true_and, Bool.or_false]
        simp only [decide_eq_true_eq]
      have later : (lines.zipIdx (edit.start + 1)).flatMap (changed (edit :: edits)) =
          (lines.zipIdx (edit.start + 1)).flatMap fun line => if line.2 < edit.stop then [] else [line.1] :=
        List.flatMap_congr fun line member =>
          changed_of_descending descending (Nat.lt_of_succ_le (List.le_snd_of_mem_zipIdx member))
      have last : putAt (edit :: edits) (edit.start + (line :: lines).length) = [] := by
        refine putAt_eq_nil fun other member same => ?_
        rw [List.length_cons] at same
        rcases List.mem_cons.mp member with rfl | member
        · omega
        · have inside := descending.inside other member
          omega
      have whole := flatMap_zipIdx_drop edit.stop (line :: lines) edit.start
      rw [List.zipIdx_cons, List.flatMap_cons] at whole ⊢
      rw [first, later, last, List.append_nil, List.append_assoc, whole]

/-- With the last edit, the walk goes on behind the lines before it. -/
theorem replaced_cons (descending : Descending lines.length (edit :: edits)) :
    replaced lines (edit :: edits) =
      replaced (lines.take edit.start) edits ++ (Text.split edit.text ++ lines.drop edit.stop) := by
  obtain ⟨ordered, inside⟩ := descending.inside edit List.mem_cons_self
  have front : (lines.take edit.start).length = edit.start := List.length_take_of_le (ordered.trans inside)
  have starts : ∀ other ∈ edits, other.start ≠ edit.start :=
    fun other member => (List.rel_of_pairwise_cons descending.before member).2.ne
  have early : ((lines.take edit.start).zipIdx).flatMap (changed (edit :: edits)) =
      ((lines.take edit.start).zipIdx).flatMap (changed edits) := by
    refine List.flatMap_congr fun line member => changed_cons_of_lt ?_
    have within := List.snd_lt_of_mem_zipIdx member
    omega
  have split : lines.zipIdx = (lines.take edit.start).zipIdx ++ (lines.drop edit.start).zipIdx edit.start := by
    conv_lhs => rw [← List.take_append_drop edit.start lines]
    rw [List.zipIdx_append, front, Nat.zero_add]
  have length : lines.length = edit.start + (lines.drop edit.start).length := by
    rw [List.length_drop]
    omega
  have behind := walk_from_start ordered descending.tail starts (lines.drop edit.start)
  rw [List.drop_drop, Nat.add_sub_cancel' ordered, ← length] at behind
  rw [replaced, replaced, front, putAt_eq_nil starts, split, List.flatMap_append, early, List.append_nil,
    List.append_assoc, behind]

/-- Edits from the last one on, each made in the lines that the ones before it have left, are all made at once. -/
theorem foldl_apply_of_descending (descending : Descending lines.length edits) :
    edits.foldl Edit.apply lines = replaced lines edits := by
  induction edits generalizing lines with
  | nil =>
      have unchanged : changed [] = fun line => [line.1] := rfl
      rw [List.foldl_nil, replaced, unchanged]
      have whole := flatMap_zipIdx_drop 0 lines 0
      simp only [Nat.not_lt_zero, if_false, Nat.sub_zero, List.drop_zero] at whole
      rw [whole]
      exact (List.append_nil lines).symm
  | cons edit edits ih =>
      have ordered := descending.inside edit List.mem_cons_self
      have front : (lines.take edit.start).length = edit.start := List.length_take_of_le (ordered.1.trans ordered.2)
      rw [foldl_apply_cons descending, ih (front.symm ▸ descending.tail), replaced_cons descending]

/-! ### Edits in any order -/

theorem putAt_perm {others : List Edit} (same : edits.Perm others) (starts : edits.Pairwise fun a b => a.start ≠ b.start)
    (place : Nat) : putAt edits place = putAt others place := by
  have filtered := same.filter fun edit => edit.start == place
  -- at most one edit starts at the place, so there is nothing to permute
  have single : (edits.filter fun edit => edit.start == place).length ≤ 1 := by
    have distinct := starts.filter fun edit => edit.start == place
    cases found : edits.filter fun edit => edit.start == place with
    | nil => exact Nat.zero_le _
    | cons first rest =>
        cases rest with
        | nil => exact Nat.le_refl _
        | cons second rest =>
            have here : ∀ edit ∈ first :: second :: rest, edit.start = place := by
              intro edit member
              rw [← found] at member
              exact eq_of_beq (List.mem_filter.mp member).2
            rw [found] at distinct
            have differ := List.rel_of_pairwise_cons distinct List.mem_cons_self
            exact absurd ((here first (by simp)).trans (here second (by simp)).symm) differ
  rw [putAt, putAt]
  cases found : edits.filter fun edit => edit.start == place with
  | nil =>
      rw [found] at filtered
      rw [filtered.nil_eq]
  | cons first rest =>
      rw [found] at filtered single
      obtain rfl : rest = [] := List.eq_nil_of_length_eq_zero (by simpa using single)
      rw [List.singleton_perm.mp filtered]

theorem replaced_perm {others : List Edit} (same : edits.Perm others)
    (starts : edits.Pairwise fun a b => a.start ≠ b.start) : replaced lines edits = replaced lines others := by
  have puts := putAt_perm same starts
  have covered : covers edits = covers others := funext fun place => same.any_eq
  have changes : changed edits = changed others := by
    funext line
    rw [changed, changed, puts, covered]
  rw [replaced, replaced, changes, puts]

namespace Compatible

/-- Whatever order puts compatible edits one before the other, from the last one on. -/
theorem descending (compatible : Compatible lines edits) {others : List Edit} (same : others.Perm edits)
    (fromLast : others.Pairwise fun a b => b.start ≤ a.start) : Descending lines.length others where
  inside edit member :=
    ⟨compatible.ordered edit (same.mem_iff.mp member), compatible.inside edit (same.mem_iff.mp member)⟩
  before := by
    have apart : others.Pairwise Edit.Apart :=
      (same.pairwise_iff fun {a b} (apart : Edit.Apart a b) => apart.symm).mpr compatible.apart
    have starts : others.Pairwise fun a b => a.start ≠ b.start :=
      (same.pairwise_iff fun {a b} => Ne.symm).mpr compatible.starts
    have every := fromLast.and (apart.and starts)
    refine every.imp_of_mem fun {later earlier} isLater _ facts => ?_
    have ordered := compatible.ordered later (same.mem_iff.mp isLater)
    obtain ⟨order, apart | apart, differ⟩ := facts
    · -- the later edit would end before the earlier one starts
      exact absurd (Nat.le_antisymm (ordered.trans apart) order) differ
    · exact ⟨apart, Nat.lt_of_le_of_ne order differ.symm⟩

end Compatible

theorem pairwise_mergeSort_start {α : Type} (start : α → Nat) (entries : List α) :
    (entries.mergeSort fun a b => start b ≤ start a).Pairwise fun a b => start b ≤ start a :=
  @pairwise_mergeSort_key α Natᵒᵈ _ _ (fun entry => OrderDual.toDual (start entry))
    (fun _ _ => by rw [decide_eq_true_iff]; exact Iff.rfl) entries

/-- Compatible edits that are made from the last one to the first one give the lines outside all ranges in their order,
    and for each range its text. -/
theorem foldl_apply_fromEnd (lines : List String) (edits : List Edit) (compatible : Compatible lines edits) :
    (fromEnd edits).foldl Edit.apply lines = replaced lines edits := by
  have same : (fromEnd edits).Perm edits := List.mergeSort_perm _ _
  have descending := compatible.descending same (pairwise_mergeSort_start Edit.start edits)
  rw [foldl_apply_of_descending descending]
  exact (replaced_perm same.symm compatible.starts).symm

/-- A range that grows, one that shrinks, a line put between two touching ranges, and one put behind the last line. -/
theorem foldl_apply_fromEnd_touching :
    Compatible ["a", "b", "c", "d", "e"] [⟨0, 1, "A\nA"⟩, ⟨5, 5, "z"⟩, ⟨1, 1, "i"⟩, ⟨2, 4, "C"⟩] ∧
      (fromEnd [⟨0, 1, "A\nA"⟩, ⟨5, 5, "z"⟩, ⟨1, 1, "i"⟩, ⟨2, 4, "C"⟩]).foldl Edit.apply ["a", "b", "c", "d", "e"] =
        ["A", "A", "i", "b", "C", "e", "z"] := by
  have compatible : Compatible ["a", "b", "c", "d", "e"]
      [⟨0, 1, "A\nA"⟩, ⟨5, 5, "z"⟩, ⟨1, 1, "i"⟩, ⟨2, 4, "C"⟩] :=
    ⟨by decide, by decide, by simp [Edit.Apart], by simp⟩
  refine ⟨compatible, (foldl_apply_fromEnd _ _ compatible).trans ?_⟩
  decide +kernel

end Patch

/-! ### Stubs -/

namespace Repair

variable [Source.Grammar]

/-- The edit that puts in the stub of an item, when it has one. -/
def stubEdit? (index : Index) (settings : Settings) (item : IncompleteItem) : Option Patch.Edit :=
  (Stub.build? item index settings).map fun stub => ⟨item.start, item.stop, stub⟩

/-- The stubs of a text, in the order of its items. -/
def stubEdits (source : String) (index : Index) (settings : Settings) : List Patch.Edit :=
  (incompleteItems source (some index) settings).filterMap (stubEdit? index settings)

omit [Source.Grammar] in
/-- Items that have no stub are passed over. -/
theorem foldl_stubItem (index : Index) (settings : Settings) (items : List IncompleteItem) (lines : List String) :
    items.foldl (stubItem index settings) lines =
      (items.filterMap (stubEdit? index settings)).foldl Patch.Edit.apply lines := by
  induction items generalizing lines with
  | nil =>
      rfl
  | cons item items ih =>
      rw [List.foldl_cons, ih, List.filterMap_cons, stubItem, stubEdit?]
      cases Stub.build? item index settings with
      | none => rfl
      | some stub => rfl

/-- When the items of a text lie apart, all stubs are put in at once. -/
theorem stubbed_eq_replaced {source : String} {index : Index} {settings : Settings}
    (compatible : Patch.Compatible (Text.split source) (stubEdits source index settings)) :
    stubbed source index settings =
      Text.join (Patch.replaced (Text.split source) (stubEdits source index settings)) := by
  have same : ((itemsFromEnd source index settings).filterMap (stubEdit? index settings)).Perm
      (stubEdits source index settings) :=
    (List.mergeSort_perm _ _).filterMap _
  have fromLast : ((itemsFromEnd source index settings).filterMap (stubEdit? index settings)).Pairwise
      fun a b => b.start ≤ a.start := by
    refine List.Pairwise.filterMap _ ?_ (Patch.pairwise_mergeSort_start IncompleteItem.start _)
    rintro first second order _ isFirst _ isSecond
    obtain ⟨_, _, rfl⟩ := Option.map_eq_some_iff.mp isFirst
    obtain ⟨_, _, rfl⟩ := Option.map_eq_some_iff.mp isSecond
    exact order
  have descending := compatible.descending same fromLast
  rw [stubbed, foldl_stubItem, Patch.foldl_apply_of_descending descending]
  rw [Patch.replaced_perm same.symm compatible.starts]

end Repair

end SourceRecovery
