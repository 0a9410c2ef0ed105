/-
Module: SourceRecovery.Proofs.PathPlaces
Layer: Proofs
Purpose: Paths below a root. The parts of such a path are those of the root and the names after it, the path seen from
  the root is the names again, and another extension changes only the last name. So the paths for the texts of
  artifacts are known name by name, and two artifacts have one path only in one case: without an extension for the
  texts, a name of one point and a name of two points both lead upward.
Imports: Mathlib.Data.List.Basic, SourceRecovery.Directory
Trusted boundary: none
Main exports: Path.IsName, Path.below, Path.Below, Path.components_below, Path.relativeTo?_below,
  Path.withExtension_append, Directory.Lies, Directory.Lies.target_eq, Directory.Lies.eq_or_upward_of_target
Open obligations: none
-/
import Mathlib.Data.List.Basic
import SourceRecovery.Directory

namespace SourceRecovery

namespace Path

/-! ### Pieces that count -/

/-- A piece that is a part of a path. -/
structure IsPiece (piece : List Char) : Prop where
  counts : isTrivial piece = false
  plain : '/' ∉ piece

/-- A piece that names a file or a directory: it does not lead upward. -/
structure IsName (name : List Char) : Prop extends IsPiece name where
  down : name ≠ ['.', '.']

instance (piece : List Char) : Decidable (IsPiece piece) :=
  decidable_of_iff (isTrivial piece = false ∧ '/' ∉ piece)
    ⟨fun both => ⟨both.1, both.2⟩, fun piece => ⟨piece.counts, piece.plain⟩⟩

instance (name : List Char) : Decidable (IsName name) :=
  decidable_of_iff (IsPiece name ∧ name ≠ ['.', '.'])
    ⟨fun both => ⟨both.1, both.2⟩, fun name => ⟨name.toIsPiece, name.down⟩⟩

theorem isTrivial_iff {piece : List Char} : isTrivial piece = true ↔ piece = [] ∨ piece = ['.'] := by
  simp [isTrivial]

theorem ne_nil_of_counts {piece : List Char} (counts : isTrivial piece = false) : piece ≠ [] := by
  rintro rfl
  cases counts

theorem ne_point_of_counts {piece : List Char} (counts : isTrivial piece = false) : piece ≠ ['.'] := by
  rintro rfl
  cases counts

/-- The part that a piece stands for which counts. -/
def partOf (piece : List Char) : Component :=
  if piece = ['.', '.'] then .parent else .normal piece

theorem partOf_injective {piece other : List Char} (same : partOf piece = partOf other) : piece = other := by
  unfold partOf at same
  split at same <;> split at same <;> simp_all

theorem ofPiece_of_counts {piece : List Char} (counts : isTrivial piece = false) :
    ofPiece piece = some (partOf piece) := by
  by_cases up : piece = ['.', '.']
  · subst up
    rfl
  · simp [ofPiece, partOf, counts, up]

theorem filterMap_ofPiece {pieces : List (List Char)} (arePieces : ∀ piece ∈ pieces, IsPiece piece) :
    pieces.filterMap ofPiece = pieces.map partOf := by
  apply List.filterMap_eq_map_iff_forall_eq_some.mpr
  intro piece member
  exact ofPiece_of_counts (arePieces piece member).counts

theorem trimFront_of_counts {piece : List Char} (counts : isTrivial piece = false) (pieces : List (List Char)) :
    trimFront (piece :: pieces) = piece :: pieces := by
  simp [trimFront, counts]

theorem trimBack_of_counts {piece : List Char} (counts : isTrivial piece = false) (pieces : List (List Char)) :
    trimBack (pieces ++ [piece]) = pieces ++ [piece] := by
  simp [trimBack, trimFront_of_counts counts]

/-- Dropping as many parts as stand in front of pieces leaves the pieces, apart from what does not count. -/
theorem trimFront_dropParts {pieces : List (List Char)} (settled : trimFront pieces = pieces)
    (front : List (List Char)) :
    trimFront (dropParts (front.filterMap ofPiece).length (front ++ pieces)) = pieces := by
  induction front with
  | nil =>
      simpa [dropParts] using settled
  | cons piece front ih =>
      cases trivial : isTrivial piece with
      | true =>
          have dropped : (piece :: front).filterMap ofPiece = front.filterMap ofPiece := by
            simp [ofPiece, trivial]
          rw [dropped]
          cases count : (front.filterMap ofPiece).length with
          | zero =>
              rw [count] at ih
              simpa [dropParts, trimFront, trivial] using ih
          | succ count' =>
              rw [count] at ih
              simpa [dropParts, trivial] using ih
      | false =>
          have counted : ((piece :: front).filterMap ofPiece).length = (front.filterMap ofPiece).length + 1 := by
            rw [List.filterMap_cons_some (ofPiece_of_counts trivial), List.length_cons]
          rw [counted]
          simpa [dropParts, trivial] using ih

/-! ### The start of a path -/

theorem openPieces_nil_cons {more : List (List Char)} (nonempty : more ≠ []) :
    openPieces ([] :: more) = (some .root, more) := by
  cases more with
  | nil => exact absurd rfl nonempty
  | cons next rest => rfl

theorem openPieces_cons {piece : List Char} (empty : piece ≠ []) (point : piece ≠ ['.'])
    (more : List (List Char)) : openPieces (piece :: more) = (none, piece :: more) := by
  unfold openPieces
  split
  · next same => exact absurd (List.cons.inj same).1 empty
  · next same => exact absurd (List.cons.inj same).1 point
  · rfl

/-- What marks the start of pieces is in the first of them, and does not depend on what follows. -/
theorem openPieces_append {front : List (List Char)} (nonempty : front ≠ []) :
    ∃ start others, ∀ more, more ≠ [] ∨ front ≠ [[]] → openPieces (front ++ more) = (start, others ++ more) := by
  cases front with
  | nil =>
      exact absurd rfl nonempty
  | cons piece front =>
      by_cases empty : piece = []
      · subst empty
        refine ⟨some .root, front, fun more goesOn => openPieces_nil_cons ?_⟩
        intro nothing
        obtain ⟨rfl, rfl⟩ := List.append_eq_nil_iff.mp nothing
        simp at goesOn
      · by_cases point : piece = ['.']
        · subst point
          exact ⟨some .current, front, fun more _ => rfl⟩
        · exact ⟨none, piece :: front, fun more _ => openPieces_cons empty point _⟩

/-- Without a mark at the start, the first of several pieces counts. -/
theorem isTrivial_of_openPieces_none {pieces : List (List Char)} {piece next : List Char} {rest : List (List Char)}
    (opened : openPieces pieces = (none, piece :: next :: rest)) : isTrivial piece = false := by
  unfold openPieces at opened
  split at opened
  · cases opened
  · cases opened
  · next noRoot noPoint =>
      cases opened
      rw [← Bool.not_eq_true, isTrivial_iff]
      rintro (rfl | rfl)
      · exact noRoot next rest rfl
      · exact noPoint _ rfl

/-- Pieces with their separators put back, where a mark at the start is kept. -/
theorem trimmed_of_split {path : List Char} {front : List (List Char)} {piece : List Char}
    (split : path.splitOn '/' = front ++ [piece]) (counts : isTrivial piece = false) : trimmed path = path := by
  have whole : glue (front ++ [piece]) = path := by
    rw [← split]
    exact List.intercalate_splitOn '/'
  unfold trimmed opening
  rw [split]
  cases front with
  | nil =>
      rw [List.nil_append, openPieces_cons (ne_nil_of_counts counts) (ne_point_of_counts counts)]
      simpa [trimBack, trimFront_of_counts counts] using whole
  | cons first front =>
      have behind : front ++ [piece] ≠ [] := by simp
      by_cases empty : first = []
      · subst empty
        rw [List.cons_append, openPieces_nil_cons behind]
        dsimp only
        rw [trimBack_of_counts counts, ← whole]
        cases front with
        | nil => simp [glue]
        | cons next front => simp [glue, List.intercalate_cons_cons]
      · by_cases point : first = ['.']
        · subst point
          simp only [List.cons_append, openPieces]
          rw [trimBack_of_counts counts, ← whole, List.cons_append]
        · rw [List.cons_append, openPieces_cons empty point]
          dsimp only
          rw [← List.cons_append, trimBack_of_counts counts, whole]

/-! ### Paths below a root -/

/-- Pieces below a root. -/
def below (root : String) (pieces : List (List Char)) : String :=
  join root (String.ofList (glue pieces))

/-- A path that leads down from a root to something else. -/
def Below (root path : String) : Prop :=
  ∃ pieces, pieces ≠ [] ∧ (∀ piece ∈ pieces, IsName piece) ∧ path = below root pieces

/-- The text of a root with a separator at its end, if there is a root. -/
def base (root : String) : List Char :=
  if root.toList.getLast?.all (· == '/') then root.toList else root.toList ++ ['/']

section Pieces

variable {pieces : List (List Char)}

theorem splitOn_glue (nonempty : pieces ≠ []) (arePieces : ∀ piece ∈ pieces, IsPiece piece) :
    (glue pieces).splitOn '/' = pieces :=
  List.splitOn_intercalate '/' (fun piece member => (arePieces piece member).plain) nonempty

theorem head?_glue_ne_separator (arePieces : ∀ piece ∈ pieces, IsPiece piece) :
    (glue pieces).head? ≠ some '/' := by
  cases pieces with
  | nil =>
      simp [glue]
  | cons piece pieces =>
      have isPiece := arePieces piece List.mem_cons_self
      have front : ∃ behind, glue (piece :: pieces) = piece ++ behind := by
        cases pieces with
        | nil => exact ⟨[], by simp [glue]⟩
        | cons next pieces => exact ⟨'/' :: glue (next :: pieces), by simp [glue, List.intercalate_cons_cons]⟩
      obtain ⟨behind, whole⟩ := front
      rw [whole]
      intro starts
      cases piece with
      | nil =>
          exact ne_nil_of_counts isPiece.counts rfl
      | cons c piece =>
          obtain rfl : c = '/' := by simpa using starts
          exact isPiece.plain List.mem_cons_self

theorem toList_below (root : String) (arePieces : ∀ piece ∈ pieces, IsPiece piece) :
    (below root pieces).toList = base root ++ glue pieces := by
  have relative : isAbsolute (String.ofList (glue pieces)) = false := by
    simpa [isAbsolute] using head?_glue_ne_separator arePieces
  unfold below join base
  rw [relative]
  simp only [Bool.false_eq_true, if_false]
  split <;> simp

/-- The root of a path and the pieces below it share what marks their start. -/
theorem opening_below (root : String) (nonempty : pieces ≠ []) (arePieces : ∀ piece ∈ pieces, IsPiece piece) :
    ∃ start front idle, opening root.toList = (start, front ++ idle) ∧ idle.filterMap ofPiece = [] ∧
      opening (below root pieces).toList = (start, front ++ pieces) := by
  rw [toList_below root arePieces]
  unfold opening base
  rcases List.eq_nil_or_concat root.toList with empty | ⟨text, last, ends⟩
  · obtain ⟨piece, more, rfl⟩ := List.exists_cons_of_ne_nil nonempty
    have counts := (arePieces piece List.mem_cons_self).counts
    refine ⟨none, [], [[]], ?_, rfl, ?_⟩
    · rw [empty]
      rfl
    · simp only [empty, List.getLast?_nil, Option.all_none, if_true, List.nil_append]
      rw [splitOn_glue nonempty arePieces, openPieces_cons (ne_nil_of_counts counts) (ne_point_of_counts counts)]
  · rw [List.concat_eq_append] at ends
    by_cases closed : last = '/'
    · -- The root ends with a separator, so that its last piece is empty.
      subst closed
      obtain ⟨start, front, opened⟩ := openPieces_append (List.splitOn_ne_nil '/' text)
      refine ⟨start, front, [[]], ?_, rfl, ?_⟩
      · rw [ends, List.splitOn_append_cons_self, List.splitOn_nil]
        exact opened [[]] (.inl (by simp))
      · simp only [ends, List.getLast?_append, List.getLast?_singleton, Option.some_or, Option.all_some,
          beq_self_eq_true, if_true, List.append_assoc, List.singleton_append]
        rw [List.splitOn_append_cons_self, splitOn_glue nonempty arePieces]
        exact opened pieces (.inl nonempty)
    · obtain ⟨start, front, opened⟩ := openPieces_append (List.splitOn_ne_nil '/' root.toList)
      have more : root.toList.splitOn '/' ≠ [[]] := by
        intro single
        have whole : ['/'].intercalate (root.toList.splitOn '/') = root.toList := List.intercalate_splitOn '/'
        rw [single, ends] at whole
        simp at whole
      refine ⟨start, front, [], ?_, rfl, ?_⟩
      · simpa using opened [] (.inr more)
      · have closedAfter : root.toList.getLast?.all (· == '/') = false := by
          simp [ends, closed]
        simp only [closedAfter, Bool.false_eq_true, if_false, List.append_assoc, List.singleton_append]
        rw [List.splitOn_append_cons_self, splitOn_glue nonempty arePieces]
        exact opened pieces (.inl nonempty)

/-- The parts of a path below a root. -/
theorem components_below (root : String) (nonempty : pieces ≠ [])
    (arePieces : ∀ piece ∈ pieces, IsPiece piece) :
    components (below root pieces).toList = components root.toList ++ pieces.map partOf := by
  obtain ⟨start, front, idle, rootOpens, nothing, opens⟩ := opening_below root nonempty arePieces
  unfold components
  rw [rootOpens, opens]
  dsimp only
  rw [List.filterMap_append, List.filterMap_append, nothing, filterMap_ofPiece arePieces, List.append_nil,
    List.append_assoc]

/-- What is left of a path after the parts in front of pieces is the pieces. -/
theorem rest_of_opening {path : List Char} {start : Option Component} {front : List (List Char)}
    (opens : opening path = (start, front ++ pieces)) (nonempty : pieces ≠ [])
    (arePieces : ∀ piece ∈ pieces, IsPiece piece) :
    rest (start.toList ++ front.filterMap ofPiece).length path = glue pieces := by
  have settledFront : trimFront pieces = pieces := by
    obtain ⟨piece, more, rfl⟩ := List.exists_cons_of_ne_nil nonempty
    exact trimFront_of_counts (arePieces piece List.mem_cons_self).counts more
  have settledBack (others : List (List Char)) : trimBack (others ++ pieces) = others ++ pieces := by
    rcases List.eq_nil_or_concat pieces with empty | ⟨more, piece, rfl⟩
    · exact absurd empty nonempty
    · rw [List.concat_eq_append, ← List.append_assoc]
      exact trimBack_of_counts (arePieces piece (by simp)).counts _
  have left := trimFront_dropParts settledFront front
  cases start with
  | some mark =>
      rw [Option.toList_some, List.singleton_append, List.length_cons]
      unfold rest
      rw [opens]
      dsimp only
      rw [left, ← List.nil_append pieces, settledBack]
  | none =>
      rw [Option.toList_none, List.nil_append]
      cases front with
      | nil =>
          unfold rest
          rw [List.filterMap_nil, List.length_nil]
          simp only [trimmed, opens]
          rw [settledBack, List.nil_append]
      | cons first front =>
          -- Without a mark, the first piece in front counts, so that something is dropped.
          obtain ⟨next, behind, continues⟩ : ∃ next behind, front ++ pieces = next :: behind :=
            List.exists_cons_of_ne_nil (by simp [nonempty])
          have counts : isTrivial first = false := by
            rw [opening, List.cons_append, continues] at opens
            exact isTrivial_of_openPieces_none opens
          rw [List.filterMap_cons_some (ofPiece_of_counts counts), List.length_cons] at left ⊢
          unfold rest
          rw [opens]
          dsimp only
          rw [left, ← List.nil_append pieces, settledBack]

/-- A path below a root, seen from the root. -/
theorem relativeTo?_below (root : String) (nonempty : pieces ≠ [])
    (arePieces : ∀ piece ∈ pieces, IsPiece piece) :
    relativeTo? (below root pieces) root = some (String.ofList (glue pieces)) := by
  have inFront : (components root.toList).isPrefixOf (components (below root pieces).toList) = true := by
    rw [components_below root nonempty arePieces, List.isPrefixOf_iff_prefix]
    exact List.prefix_append _ _
  obtain ⟨start, front, idle, rootOpens, nothing, opens⟩ := opening_below root nonempty arePieces
  have parts : components root.toList = start.toList ++ front.filterMap ofPiece := by
    unfold components
    rw [rootOpens]
    dsimp only
    rw [List.filterMap_append, nothing, List.append_nil]
  unfold relativeTo?
  dsimp only
  rw [if_pos inFront, parts, rest_of_opening opens nonempty arePieces]

end Pieces

/-! ### The last piece -/

section LastPiece

variable {path : List Char} {front : List (List Char)} {piece : List Char}

theorem opening_of_split (split : path.splitOn '/' = front ++ [piece]) (counts : isTrivial piece = false) :
    ∃ start others, opening path = (start, others ++ [piece]) := by
  rw [opening, split]
  by_cases nonempty : front = []
  · subst nonempty
    exact ⟨none, [], openPieces_cons (ne_nil_of_counts counts) (ne_point_of_counts counts) []⟩
  · obtain ⟨start, others, opened⟩ := openPieces_append nonempty
    exact ⟨start, others, opened [piece] (.inl (by simp))⟩

theorem fileName?_of_split (split : path.splitOn '/' = front ++ [piece]) (counts : isTrivial piece = false) :
    fileName? path = if piece = ['.', '.'] then none else some piece := by
  obtain ⟨start, others, opens⟩ := opening_of_split split counts
  unfold fileName?
  rw [opens]
  dsimp only
  rw [List.reverse_append, List.reverse_singleton, List.singleton_append, trimFront_of_counts counts]
  simp

end LastPiece

/-! ### Extensions -/

/-- A name is split at a point behind which there is no other. -/
theorem splitName_append {before after : List Char} (nonempty : before ≠ []) (last : '.' ∉ after) :
    splitName (before ++ '.' :: after) = some (before, after) := by
  have reversed : ((before ++ '.' :: after).reverse.takeWhile (· != '.')).reverse = after := by
    rw [List.reverse_append, List.reverse_cons, List.append_assoc, List.takeWhile_append_of_pos]
    · simp
    · intro c member
      have here : c ∈ after := List.mem_reverse.mp member
      simp only [bne_iff_ne, ne_eq]
      rintro rfl
      exact last here
  have count : (before ++ '.' :: after).length - after.length = before.length + 1 := by
    simp only [List.length_append, List.length_cons]
    omega
  obtain ⟨c, rest, rfl⟩ := List.exists_cons_of_ne_nil nonempty
  unfold splitName
  dsimp only
  rw [reversed, count]
  simp

/-- A name that is split has a point where it is split. -/
theorem splitName_eq_some {name before after : List Char} (split : splitName name = some (before, after)) :
    before ≠ [] ∧ '.' ∉ after ∧ name = before ++ '.' :: after := by
  unfold splitName at split
  dsimp only at split
  have parts : (name.reverse.dropWhile (· != '.')).reverse ++ (name.reverse.takeWhile (· != '.')).reverse = name := by
    rw [← List.reverse_append, List.takeWhile_append_dropWhile, List.reverse_reverse]
  have last : '.' ∉ (name.reverse.takeWhile (· != '.')).reverse := by
    intro member
    have kept := List.all_eq_true.mp List.all_takeWhile '.' (List.mem_reverse.mp member)
    simp at kept
  generalize (name.reverse.takeWhile (· != '.')).reverse = behind at split parts last
  cases dropped : name.reverse.dropWhile (· != '.') with
  | nil =>
      rw [dropped, List.reverse_nil, List.nil_append] at parts
      rw [parts, Nat.sub_self] at split
      cases split
  | cons point front =>
      have isPoint : point = '.' := by
        have stops := List.head?_dropWhile_not (· != '.') name.reverse
        simpa [dropped] using stops
      subst isPoint
      have whole : name = front.reverse ++ '.' :: behind := by
        rw [← parts, dropped]
        simp
      have count : name.length - behind.length = front.length + 1 := by
        rw [whole]
        simp only [List.length_append, List.length_reverse, List.length_cons]
        omega
      rw [count] at split
      cases front with
      | nil =>
          cases split
      | cons c front =>
          obtain ⟨rfl, rfl⟩ : name.take (c :: front).length = before ∧ behind = after := by
            simpa using split
          have taken : name.take (c :: front).length = (c :: front).reverse := by
            rw [whole, List.take_left']
            simp
          rw [taken]
          exact ⟨by simp, last, whole⟩

/-- The separators on the way through directories. -/
def lead (directories : List (List Char)) : List Char :=
  directories.flatMap (· ++ ['/'])

theorem glue_append_singleton (directories : List (List Char)) (piece : List Char) :
    glue (directories ++ [piece]) = lead directories ++ piece := by
  induction directories with
  | nil =>
      simp [glue, lead]
  | cons directory directories ih =>
      obtain ⟨next, behind, continues⟩ : ∃ next behind, directories ++ [piece] = next :: behind :=
        List.exists_cons_of_ne_nil (by simp)
      unfold glue lead at *
      rw [List.cons_append, continues, List.intercalate_cons_cons, ← continues, ih]
      simp

/-- A text before a piece: nothing, or something that ends with a separator. -/
def Leads (text : List Char) : Prop :=
  text = [] ∨ ∃ front, text = front ++ ['/']

theorem leads_base (root : String) : Leads (base root) := by
  unfold base
  rcases List.eq_nil_or_concat root.toList with empty | ⟨text, last, ends⟩
  · left
    simp [empty]
  · right
    rw [List.concat_eq_append] at ends
    split
    · next closed =>
        obtain rfl : last = '/' := by simpa [ends] using closed
        exact ⟨text, ends⟩
    · exact ⟨root.toList, rfl⟩

theorem Leads.append_lead {text : List Char} (leads : Leads text) (directories : List (List Char)) :
    Leads (text ++ lead directories) := by
  rcases List.eq_nil_or_concat directories with rfl | ⟨front, directory, rfl⟩
  · simpa [lead] using leads
  · right
    exact ⟨text ++ lead front ++ directory, by simp [lead]⟩

theorem Leads.splitOn {text : List Char} (leads : Leads text) {piece : List Char} (plain : '/' ∉ piece) :
    ∃ front, (text ++ piece).splitOn '/' = front ++ [piece] := by
  have single : piece.splitOn '/' = [piece] := List.splitOn_eq_singleton plain
  rcases leads with rfl | ⟨front, rfl⟩
  · exact ⟨[], single⟩
  · refine ⟨front.splitOn '/', ?_⟩
    rw [List.append_assoc, List.singleton_append, List.splitOn_append_cons_self, single]

/-- The name with another extension, given what stands before the last point. One point is not followed by an
    extension, for with the point after it, it leads upward. -/
def renamed (extension before : List Char) : List Char :=
  if before = ['.'] then ['.', '.']
  else if extension = [] then before
  else before ++ '.' :: extension

section Extension

variable {text before after : List Char}

theorem extension?_append (leads : Leads text) (isName : IsName (before ++ '.' :: after)) (nonempty : before ≠ [])
    (last : '.' ∉ after) :
    extension? (String.ofList (text ++ (before ++ '.' :: after))) = some (String.ofList after) := by
  obtain ⟨front, split⟩ := leads.splitOn isName.plain
  unfold extension?
  rw [String.toList_ofList, fileName?_of_split split isName.counts, if_neg isName.down, Option.bind_some,
    splitName_append nonempty last, Option.map_some]

/-- Another extension changes only the name behind the last separator. -/
theorem withExtension_append (leads : Leads text) (isName : IsName (before ++ '.' :: after)) (nonempty : before ≠ [])
    (last : '.' ∉ after) (extension : String) :
    withExtension (String.ofList (text ++ (before ++ '.' :: after))) extension =
      String.ofList (text ++ renamed extension.toList before) := by
  have cut : cutExtension (String.ofList (text ++ (before ++ '.' :: after))) = text ++ (before ++ ['.']) := by
    unfold cutExtension
    rw [extension?_append leads isName nonempty last, String.toList_ofList]
    have whole : text ++ (before ++ '.' :: after) = (text ++ (before ++ ['.'])) ++ after := by simp
    rw [whole, Option.getD_some, String.length_ofList, String.length_ofList, List.length_append, Nat.add_sub_cancel,
      List.take_left]
  have counts : isTrivial (before ++ ['.']) = false := by
    rw [← Bool.not_eq_true, isTrivial_iff]
    simp [nonempty]
  have plain : '/' ∉ before ++ ['.'] := by
    have free := isName.plain
    simp only [List.mem_append, List.mem_cons, not_or] at free ⊢
    exact ⟨free.1, by decide, List.not_mem_nil⟩
  obtain ⟨front, split⟩ := leads.splitOn plain
  unfold withExtension setExtension
  rw [cut, fileName?_of_split split counts]
  apply congrArg String.ofList
  by_cases point : before = ['.']
  · subst point
    rfl
  · have noUp : before ++ ['.'] ≠ ['.', '.'] := by
      intro same
      exact point (List.append_cancel_right (same.trans (List.singleton_append).symm))
    rw [if_neg noUp]
    dsimp only
    rw [trimmed_of_split split counts, stem, splitName_append nonempty List.not_mem_nil]
    cases extension.toList <;> simp [renamed, point]

theorem isPiece_renamed (isName : IsName (before ++ '.' :: after)) (nonempty : before ≠ []) {extension : List Char}
    (plain : '/' ∉ extension) : IsPiece (renamed extension before) := by
  have free : '/' ∉ before := fun inside => isName.plain (List.mem_append_left _ inside)
  unfold renamed
  split
  · exact ⟨rfl, by decide⟩
  · next point =>
      split
      · refine ⟨?_, free⟩
        rw [← Bool.not_eq_true, isTrivial_iff]
        simp [nonempty, point]
      · refine ⟨?_, by simp [free, plain]⟩
        rw [← Bool.not_eq_true, isTrivial_iff]
        obtain ⟨c, before, rfl⟩ := List.exists_cons_of_ne_nil nonempty
        simp

/-- Names that are not the same stay apart with another extension, unless they become two points. -/
theorem renamed_injective {extension other : List Char} (nonempty : before ≠ []) (otherNonempty : other ≠ [])
    (same : renamed extension before = renamed extension other) :
    before = other ∨ extension = [] ∧ (before = ['.'] ∧ other = ['.', '.'] ∨ before = ['.', '.'] ∧ other = ['.']) := by
  have tooLong {front : List Char} (some : front ≠ []) : front ++ '.' :: extension = ['.', '.'] → front = ['.'] := by
    intro whole
    obtain ⟨c, rest, rfl⟩ := List.exists_cons_of_ne_nil some
    cases rest with
    | nil => simp_all
    | cons next rest => simp at whole
  unfold renamed at same
  by_cases point : before = ['.'] <;> by_cases otherPoint : other = ['.'] <;> by_cases empty : extension = [] <;>
    simp only [point, otherPoint, empty, if_true, if_false] at same
  · simp [point, otherPoint]
  · simp [point, otherPoint]
  · simp [point, empty, ← same]
  · exact absurd (tooLong otherNonempty same.symm) otherPoint
  · simp [otherPoint, empty, same]
  · exact absurd (tooLong nonempty same) point
  · exact .inl same
  · exact .inl (List.append_cancel_right same)

end Extension

theorem below_append_singleton (root : String) {folders : List (List Char)} {piece : List Char}
    (arePieces : ∀ other ∈ folders ++ [piece], IsPiece other) :
    below root (folders ++ [piece]) = String.ofList (base root ++ lead folders ++ piece) := by
  rw [← String.toList_inj, toList_below root arePieces, glue_append_singleton, String.toList_ofList,
    List.append_assoc]

end Path

namespace Directory

open SourceRecovery.Path

/-- An artifact lies below the root of the artifacts: through folders, at a name with an extension. -/
structure Lies (directory : Directory) (kind : List Char) (artifact : String) (folders : List (List Char))
    (before : List Char) : Prop where
  above : ∀ folder ∈ folders, IsName folder
  name : IsName (before ++ '.' :: kind)
  nonempty : before ≠ []
  last : '.' ∉ kind
  path : artifact = below directory.sourceRoot (folders ++ [before ++ '.' :: kind])

theorem exists_lies {directory : Directory} {artifact kind : String} (inside : Below directory.sourceRoot artifact)
    (named : extension? artifact = some kind) : ∃ folders before, directory.Lies kind.toList artifact folders before := by
  obtain ⟨pieces, nonempty, areNames, rfl⟩ := inside
  rcases List.eq_nil_or_concat pieces with rfl | ⟨folders, name, rfl⟩
  · exact absurd rfl nonempty
  · rw [List.concat_eq_append] at *
    have isName := areNames name (by simp)
    have text := below_append_singleton directory.sourceRoot fun piece member => (areNames piece member).toIsPiece
    obtain ⟨front, split⟩ := ((leads_base directory.sourceRoot).append_lead folders).splitOn isName.plain
    rw [text, extension?, String.toList_ofList, fileName?_of_split split isName.counts, if_neg isName.down,
      Option.bind_some, Option.map_eq_some_iff] at named
    obtain ⟨⟨before, after⟩, cut, rfl⟩ := named
    obtain ⟨some, last, rfl⟩ := splitName_eq_some cut
    rw [String.toList_ofList]
    exact ⟨folders, before,
      { above := fun folder member => areNames folder (List.mem_append_left _ member)
        name := isName
        nonempty := some
        last
        path := rfl }⟩

section Places

variable {directory : Directory} {kind : List Char} {artifact other : String} {folders others : List (List Char)}
  {before behind : List Char}

theorem Lies.arePieces (lies : directory.Lies kind artifact folders before) {piece : List Char}
    (isPiece : IsPiece piece) : ∀ other ∈ folders ++ [piece], IsPiece other := by
  intro other member
  rcases List.mem_append.mp member with above | here
  · exact (lies.above other above).toIsPiece
  · rw [List.mem_singleton.mp here]
    exact isPiece

theorem Lies.isPiece (lies : directory.Lies kind artifact folders before) (plain : '/' ∉ directory.extension.toList) :
    IsPiece (renamed directory.extension.toList before) :=
  isPiece_renamed lies.name lies.nonempty plain

/-- The path for the text of an artifact: through the same folders below the other root. -/
theorem Lies.target_eq (lies : directory.Lies kind artifact folders before)
    (plain : '/' ∉ directory.extension.toList) :
    directory.target artifact =
      below directory.outputRoot (folders ++ [renamed directory.extension.toList before]) := by
  have leads := (leads_base directory.outputRoot).append_lead folders
  have areNames := lies.arePieces lies.name.toIsPiece
  unfold target counterpart
  rw [lies.path, relativeTo?_below _ (by simp) areNames, Option.getD_some]
  change withExtension (below directory.outputRoot (folders ++ [before ++ '.' :: kind])) _ = _
  rw [below_append_singleton _ areNames, withExtension_append leads lies.name lies.nonempty lies.last,
    below_append_singleton _ (lies.arePieces (lies.isPiece plain))]

/-- Two artifacts whose texts have the same folders and name are the same, or lead upward from one folder. -/
theorem Lies.eq_or_upward (lies : directory.Lies kind artifact folders before)
    (otherLies : directory.Lies kind other others behind)
    (same : folders ++ [renamed directory.extension.toList before] =
      others ++ [renamed directory.extension.toList behind]) :
    artifact = other ∨ directory.extension = "" ∧ folders = others ∧
      (before = ['.'] ∧ behind = ['.', '.'] ∨ before = ['.', '.'] ∧ behind = ['.']) := by
  obtain ⟨rfl, lastSame⟩ := List.append_inj' same rfl
  have renamedSame := (List.cons.inj lastSame).1
  rcases renamed_injective lies.nonempty otherLies.nonempty renamedSame with rfl | ⟨empty, up⟩
  · left
    rw [lies.path, otherLies.path]
  · right
    exact ⟨String.toList_eq_nil_iff.mp empty, rfl, up⟩

/-- Distinct artifacts have distinct paths for their texts, except for two that lead upward from one folder. -/
theorem Lies.eq_or_upward_of_target (lies : directory.Lies kind artifact folders before)
    (otherLies : directory.Lies kind other others behind) (plain : '/' ∉ directory.extension.toList)
    (same : components (directory.target artifact).toList = components (directory.target other).toList) :
    artifact = other ∨ directory.extension = "" ∧ folders = others ∧
      (before = ['.'] ∧ behind = ['.', '.'] ∨ before = ['.', '.'] ∧ behind = ['.']) := by
  rw [lies.target_eq plain, otherLies.target_eq plain,
    components_below _ (by simp) (lies.arePieces (lies.isPiece plain)),
    components_below _ (by simp) (otherLies.arePieces (otherLies.isPiece plain))] at same
  exact lies.eq_or_upward otherLies
    ((List.map_inj_right fun _ _ => partOf_injective).mp (List.append_cancel_left same))

end Places

end Directory

end SourceRecovery
