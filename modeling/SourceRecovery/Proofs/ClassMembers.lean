/-
Module: SourceRecovery.Proofs.ClassMembers
Layer: Proofs
Purpose: The members of a class body with instructions. They are the names that the body stores and the functions
  in it that have names of their own, each once and in the order in which they first come, without the standard
  fields. A name with functions is a method and any other an attribute; so a class is only confirmed to be empty
  when nothing but standard fields is stored in it and nothing but standard fields and anonymous units is nested in it.
Imports: SourceRecovery.Analysis.Completeness
Trusted boundary: none
Main exports: Index.storeTargets, Index.namedChildren, Index.namesakes, Index.names_foldl_addMember,
  Index.mem_foldl_addMember, Index.memberCandidates_eq, Index.members_eq_bound
Open obligations: none
-/
import SourceRecovery.Analysis.Completeness

namespace SourceRecovery.Index

/-! ### Members in a row -/

theorem addMember_eq (known : List ClassMember) (member : ClassMember) :
    addMember known member =
      if member.name ∈ standardFields ∨ member.name ∈ known.map ClassMember.name then known
      else known ++ [member] := by
  have test : (standardFields.contains member.name || known.any fun other => other.name == member.name) = true ↔
      member.name ∈ standardFields ∨ member.name ∈ known.map ClassMember.name := by
    rw [Bool.or_eq_true, List.contains_iff_mem, List.any_eq_true, List.mem_map]
    simp only [beq_iff_eq]
  simp only [addMember, test]

/-- One member more keeps the names apart. -/
theorem nodup_addMember {known : List ClassMember} (apart : (known.map ClassMember.name).Nodup)
    (member : ClassMember) : ((addMember known member).map ClassMember.name).Nodup := by
  rw [addMember_eq]
  split
  case isTrue =>
    exact apart
  case isFalse isNew =>
    rw [List.map_append, List.map_singleton, List.nodup_append]
    refine ⟨apart, List.pairwise_singleton _ _, ?_⟩
    rintro name inside other isOther rfl
    rw [List.mem_singleton.mp isOther] at inside
    exact isNew (.inr inside)

theorem nodup_foldl_addMember (candidates : List ClassMember) :
    ∀ {known : List ClassMember}, (known.map ClassMember.name).Nodup →
      ((candidates.foldl addMember known).map ClassMember.name).Nodup := by
  induction candidates with
  | nil =>
      intro known apart
      exact apart
  | cons member candidates ih =>
      intro known apart
      exact ih (nodup_addMember apart member)

/-- The names of candidates come behind those that are known, each where it first comes. -/
theorem names_foldl_addMember (candidates : List ClassMember) :
    ∀ known : List ClassMember,
      (candidates.foldl addMember known).map ClassMember.name =
        known.map ClassMember.name ++ ((candidates.map ClassMember.name).filter fun name =>
          name ∉ standardFields ∧ name ∉ known.map ClassMember.name).eraseDups := by
  induction candidates with
  | nil =>
      intro known
      exact (List.append_nil _).symm
  | cons member candidates ih =>
      intro known
      rw [List.foldl_cons, ih, addMember_eq, List.map_cons]
      by_cases passed : member.name ∈ standardFields ∨ member.name ∈ known.map ClassMember.name
      · rw [if_pos passed, List.filter_cons_of_neg]
        rw [decide_eq_true_eq]
        rintro ⟨notStandard, isNew⟩
        exact passed.elim notStandard isNew
      · rw [not_or] at passed
        rw [if_neg (not_or.mpr passed), List.filter_cons_of_pos (by exact decide_eq_true passed), List.eraseDups_cons,
          List.filter_filter, List.map_append, List.map_singleton, List.append_assoc, List.singleton_append]
        congr 3
        -- The name that was added is now known, and just that name is erased from the rest.
        apply List.filter_congr
        intro name _
        rw [Bool.eq_iff_iff]
        simp only [List.mem_append, List.mem_singleton, not_or, decide_eq_true_eq, Bool.and_eq_true, Bool.not_eq_true',
          beq_eq_false_iff_ne]
        exact ⟨fun ⟨notStandard, isNew, differs⟩ => ⟨differs, notStandard, isNew⟩,
          fun ⟨differs, notStandard, isNew⟩ => ⟨notStandard, isNew, differs⟩⟩

/-- A member that was not known is the first candidate of its name. -/
theorem mem_foldl_addMember (candidates : List ClassMember) {member : ClassMember} :
    ∀ {known : List ClassMember}, member ∈ candidates.foldl addMember known →
      member ∈ known ∨
        (member.name ∉ standardFields ∧ member.name ∉ known.map ClassMember.name ∧
          candidates.find? (fun other => other.name == member.name) = some member) := by
  induction candidates with
  | nil =>
      intro known inside
      exact .inl inside
  | cons first candidates ih =>
      intro known inside
      have later := ih inside
      rw [addMember_eq] at later
      by_cases passed : first.name ∈ standardFields ∨ first.name ∈ known.map ClassMember.name
      · rw [if_pos passed] at later
        refine later.imp_right ?_
        rintro ⟨notStandard, isNew, found⟩
        have differs : ¬ first.name = member.name := by
          intro same
          rw [same] at passed
          exact passed.elim notStandard isNew
        exact ⟨notStandard, isNew, by rwa [List.find?_cons_of_neg (by simpa using differs)]⟩
      · rw [if_neg passed, List.mem_append, List.mem_singleton, List.map_append, List.map_singleton] at later
        rcases later with (earlier | rfl) | ⟨notStandard, isNew, found⟩
        · exact .inl earlier
        · rw [not_or] at passed
          exact .inr ⟨passed.1, passed.2, List.find?_cons_of_pos (beq_self_eq_true _)⟩
        · rw [List.mem_append, List.mem_singleton, not_or] at isNew
          have differs : ¬ first.name = member.name := fun same => isNew.2 same.symm
          exact .inr ⟨notStandard, isNew.1, by rwa [List.find?_cons_of_neg (by simpa using differs)]⟩

/-! ### What a body binds -/

/-- The names that the instructions of a body store. -/
def storeTargets (u : CodeUnit) : List String :=
  u.instructions.filterMap fun ins => if ins.op = .storeName then u.nameAt? ins.arg else none

/-- The units in a body whose names do not start with an angle bracket. -/
def namedChildren (index : Index) (u : CodeUnit) : List Nat :=
  u.children.filter fun child => (index.unit child).name.toList.head? ≠ some '<'

/-- The units in a body with a name of their own. -/
def namesakes (index : Index) (u : CodeUnit) (name : String) : List Nat :=
  (index.namedChildren u).filter fun child => (index.unit child).name == name

/-- The unit that a name of a body stands for: the last one of the name when the name is stored, and the first one
    when it is not. -/
def boundUnit (index : Index) (u : CodeUnit) (name : String) : Option Nat :=
  if name ∈ storeTargets u then (index.namesakes u name).getLast? else (index.namesakes u name).head?

/-- A name that stands for a unit is a method. -/
def kindOf : Option Nat → MemberKind
  | some child => .method (some child)
  | none => .attribute

section Body

variable {index : Index} {u : CodeUnit}

theorem isAnonymous_iff (name : String) : isAnonymous name = true ↔ name.toList.head? = some '<' := by
  have pattern : "<".toList = ['<'] := rfl
  unfold isAnonymous Text.startsWith Text.Chars.startsWith
  rw [pattern]
  cases name.toList with
  | nil =>
      simp
  | cons c cs =>
      rw [List.isPrefixOf_cons_cons, List.isPrefixOf_nil_left, Bool.and_true, beq_iff_eq, List.head?_cons, Option.some.injEq]
      exact eq_comm

theorem methods_eq : index.methods u = (index.namedChildren u).map fun child => ((index.unit child).name, child) := by
  rw [methods, List.filter_map, namedChildren]
  congr 1
  apply List.filter_congr
  intro child _
  rw [Bool.eq_iff_iff, Function.comp_apply, Bool.not_eq_true', Bool.eq_false_iff, ne_eq, isAnonymous_iff,
    decide_eq_true_eq]

theorem lookup_map_self {f : Nat → String} (children : List Nat) (name : String) :
    (children.map fun child => (f child, child)).lookup name = children.find? fun child => f child == name := by
  induction children with
  | nil =>
      rfl
  | cons child children ih =>
      rw [List.map_cons, List.lookup_cons, ih, List.find?_cons, BEq.comm (a := name)]

theorem find?_beq_of_mem {names : List String} {name : String} (inside : name ∈ names) :
    names.find? (fun other => other == name) = some name := by
  cases found : names.find? (fun other => other == name) with
  | none =>
      exact absurd (beq_self_eq_true name) (List.find?_eq_none.mp found name inside)
  | some other =>
      have same := List.find?_some found
      rw [beq_iff_eq] at same
      rw [same]

/-- The last function of a name. -/
theorem methodNamed?_eq (name : String) : methodNamed? (index.methods u) name = (index.namesakes u name).getLast? := by
  rw [methodNamed?, methods_eq, ← List.map_reverse, lookup_map_self, namesakes, List.getLast?_filter]

/-- The candidates of a body with instructions. -/
theorem memberCandidates_eq (running : u.instructions ≠ []) :
    index.memberCandidates u =
      ((storeTargets u).map fun name => ⟨name, kindOf (index.namesakes u name).getLast?⟩) ++
        (index.namedChildren u).map fun child => ⟨(index.unit child).name, .method (some child)⟩ := by
  have nonempty : u.instructions.isEmpty = false := by rwa [List.isEmpty_eq_false_iff]
  have stored : ((u.instructions.filter fun ins => ins.op == .storeName).filterMap fun ins => u.nameAt? ins.arg) =
      storeTargets u := by
    rw [List.filterMap_filter]
    simp only [beq_iff_eq]
    rfl
  unfold memberCandidates
  rw [nonempty, if_neg Bool.false_ne_true, stored]
  dsimp only
  congr 1
  · apply List.map_congr_left
    intro name _
    rw [methodNamed?_eq]
    cases (index.namesakes u name).getLast? <;> rfl
  · rw [methods_eq, List.map_map]
    rfl

/-- The names of the candidates are the names that are stored, and those of the units behind them. -/
theorem names_memberCandidates (running : u.instructions ≠ []) :
    (index.memberCandidates u).map ClassMember.name =
      storeTargets u ++ (index.namedChildren u).map fun child => (index.unit child).name := by
  rw [memberCandidates_eq running, List.map_append, List.map_map, List.map_map]
  congr 1
  exact List.map_id _

/-- The first candidate of a name is bound to the unit that the name stands for. -/
theorem kind_of_find? (running : u.instructions ≠ []) {name : String} {member : ClassMember}
    (found : (index.memberCandidates u).find? (fun other => other.name == name) = some member) :
    member.kind = kindOf (index.boundUnit u name) := by
  rw [memberCandidates_eq running, List.find?_append, List.find?_map, List.find?_map] at found
  by_cases isStored : name ∈ storeTargets u
  · have first : (storeTargets u).find? (fun other => other == name) = some name := find?_beq_of_mem isStored
    rw [Function.comp_def, first] at found
    cases found
    rw [boundUnit, if_pos isStored]
  · have none : (storeTargets u).find? (fun other => other == name) = none := by
      rw [List.find?_eq_none]
      intro other member same
      exact isStored (beq_iff_eq.mp same ▸ member)
    rw [Function.comp_def, none, Option.map_none, Option.none_or] at found
    obtain ⟨child, isFirst, rfl⟩ := Option.map_eq_some_iff.mp found
    rw [boundUnit, if_neg isStored, namesakes, List.head?_filter]
    exact congrArg kindOf isFirst.symm

theorem mem_namesakes_of_boundUnit {name : String} {child : Nat} (isBound : index.boundUnit u name = some child) :
    child ∈ index.namesakes u name := by
  unfold boundUnit at isBound
  split at isBound
  · exact List.mem_of_getLast? isBound
  · exact List.mem_of_head? isBound

theorem boundUnit_eq_none_iff {name : String} : index.boundUnit u name = none ↔ index.namesakes u name = [] := by
  unfold boundUnit
  split
  · exact List.getLast?_eq_none_iff
  · exact List.head?_eq_none_iff

/-- A name stands for a unit exactly when there is one with the name. -/
theorem exists_method_iff (name : String) :
    (∃ child ∈ index.namesakes u name, kindOf (index.boundUnit u name) = .method (some child)) ↔
      index.namesakes u name ≠ [] := by
  constructor
  · rintro ⟨child, isNamesake, _⟩
    exact List.ne_nil_of_mem isNamesake
  · intro nonempty
    rw [ne_eq, ← boundUnit_eq_none_iff] at nonempty
    obtain ⟨child, isBound⟩ := Option.ne_none_iff_exists'.mp nonempty
    exact ⟨child, mem_namesakes_of_boundUnit isBound, congrArg kindOf isBound⟩

end Body

theorem classifyClass_eq_emptyConfirmed_iff (index : Index) (position : Nat) :
    classifyClass index position = .emptyConfirmed ↔ index.members position = [] := by
  unfold classifyClass
  cases index.members position <;> simp

section Members

variable {index : Index} {position : Nat} (running : (index.unit position).instructions ≠ [])

include running

theorem names_members :
    (index.members position).map ClassMember.name =
      ((storeTargets (index.unit position) ++
        (index.namedChildren (index.unit position)).map fun child => (index.unit child).name).filter
          fun name => name ∉ standardFields).eraseDups := by
  have names := names_foldl_addMember (index.memberCandidates (index.unit position)) []
  rw [names_memberCandidates running] at names
  simp only [List.map_nil, List.nil_append, List.not_mem_nil, not_false_eq_true, and_true] at names
  exact names

theorem kind_of_mem_members {member : ClassMember} (inside : member ∈ index.members position) :
    member.kind = kindOf (index.boundUnit (index.unit position) member.name) := by
  rcases mem_foldl_addMember _ inside with known | ⟨_, _, found⟩
  · cases known
  · exact kind_of_find? running found

/-- There are no members exactly when nothing but standard fields is bound. -/
theorem members_eq_nil_iff :
    index.members position = [] ↔
      (∀ name ∈ storeTargets (index.unit position), name ∈ standardFields) ∧
        ∀ child ∈ index.namedChildren (index.unit position), (index.unit child).name ∈ standardFields := by
  rw [← List.map_eq_nil_iff, names_members running, List.eq_nil_iff_forall_not_mem]
  simp only [List.mem_eraseDups, ← List.eq_nil_iff_forall_not_mem]
  rw [List.filter_eq_nil_iff, List.forall_mem_append, List.forall_mem_map]
  simp only [decide_eq_true_eq, Decidable.not_not]

end Members

/-- The members of a class body with instructions. Their names are those that the body stores and those of the units in
    it that do not start with an angle bracket, each once where it first comes, without the standard fields. A member
    is the method of a unit with its name exactly when there is one; the last unit is taken when the name is stored,
    and the first one when it is not. The class is confirmed to be empty exactly when all that is stored is
    standard fields, and every unit in it has the name of a standard field or one that starts with an angle bracket. -/
theorem members_eq_bound {index : Index} {position : Nat} (running : (index.unit position).instructions ≠ []) :
    let u := index.unit position
    let bound := storeTargets u ++ (index.namedChildren u).map fun child => (index.unit child).name
    let members := index.members position
    members.map ClassMember.name = (bound.filter fun name => name ∉ standardFields).eraseDups ∧
      (members.map ClassMember.name).Nodup ∧
      (∀ member ∈ members,
        member.kind = kindOf (index.boundUnit u member.name) ∧
        ((∃ child ∈ index.namesakes u member.name, member.kind = .method (some child)) ↔
          index.namesakes u member.name ≠ [])) ∧
      (classifyClass index position = .emptyConfirmed ↔
        (∀ name ∈ storeTargets u, name ∈ standardFields) ∧
          ∀ child ∈ u.children, (index.unit child).name ∈ standardFields ∨
            (index.unit child).name.toList.head? = some '<') := by
  intro u bound members
  refine ⟨names_members running, nodup_foldl_addMember _ List.nodup_nil, ?_, ?_⟩
  · intro member inside
    have isKind := kind_of_mem_members running inside
    refine ⟨isKind, ?_⟩
    rw [isKind]
    exact exists_method_iff member.name
  · rw [classifyClass_eq_emptyConfirmed_iff, members_eq_nil_iff running]
    refine and_congr_right fun _ => ?_
    constructor
    · intro standard child inside
      by_cases anonymous : (index.unit child).name.toList.head? = some '<'
      · exact .inr anonymous
      · exact .inl (standard child (List.mem_filter.mpr ⟨inside, decide_eq_true anonymous⟩))
    · intro allowed child isNamed
      obtain ⟨inside, named⟩ := List.mem_filter.mp isNamed
      exact (allowed child inside).resolve_right (of_decide_eq_true named)

/-- A class body that stores a field, a function that is defined twice and a name that it does not have. A second name
    is defined twice and not stored, and an anonymous function is nested in the body. -/
def crowded : Index where
  version := ⟨3, 8⟩
  units :=
    [{ CodeUnit.empty "C" ⟨3, 8⟩ with
        instructions := [⟨0, .storeName, 0⟩, ⟨2, .storeName, 1⟩, ⟨4, .storeName, 2⟩, ⟨6, .storeName, 9⟩, ⟨8, .storeName, 1⟩]
        names := ["__module__", "x", "f"]
        children := [1, 2, 3, 4, 5] },
      .empty "f" ⟨3, 8⟩, .empty "g" ⟨3, 8⟩, .empty "<lambda>" ⟨3, 8⟩, .empty "f" ⟨3, 8⟩, .empty "g" ⟨3, 8⟩]
  root := 0
  paths := []

example : crowded.members 0 = [⟨"x", .attribute⟩, ⟨"f", .method (some 4)⟩, ⟨"g", .method (some 2)⟩] := by decide

/-- The class binds three names, and is not confirmed to be empty. -/
theorem members_eq_bound_crowded :
    (crowded.members 0).map ClassMember.name = ["x", "f", "g"] ∧
      (∀ member ∈ crowded.members 0, member.kind = kindOf (crowded.boundUnit (crowded.unit 0) member.name)) ∧
        classifyClass crowded 0 ≠ .emptyConfirmed := by
  have running : (crowded.unit 0).instructions ≠ [] := by decide
  obtain ⟨names, _, kinds, empty⟩ := members_eq_bound running
  refine ⟨names.trans (by decide), fun member inside => (kinds member inside).1, ?_⟩
  rw [ne_eq, empty]
  decide

end SourceRecovery.Index
