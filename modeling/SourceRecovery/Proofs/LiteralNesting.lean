/-
Module: SourceRecovery.Proofs.LiteralNesting
Layer: Proofs
Purpose: What is true of every literal that is read. Every reader leaves an end of the text it was given, and every
  container uses up a bracket that opens it. So a property of values that holds of the scalars that are read, passes to
  numbers with the other sign and from parts to containers, one bracket later, holds of every literal for the brackets
  in its text. One such property is that no unit is named.
Imports: SourceRecovery.Proofs.UnitNesting
Trusted boundary: none
Main exports: Literal.openings, Literal.Rules, Literal.Gives, Literal.part_of_readWhole, Literal.below_of_readWhole
Open obligations: none
-/
import SourceRecovery.Proofs.UnitNesting

namespace SourceRecovery.Literal

open Text

/-! ### What a reader leaves -/

theorem skipFrom_suffix (comment : Bool) (cs : List Char) : skipFrom comment cs <:+ cs := by
  induction cs generalizing comment with
  | nil =>
      cases comment <;> exact List.suffix_rfl
  | cons c cs ih =>
      cases comment with
      | true =>
          rw [skipFrom]
          exact (ih _).trans (List.suffix_cons c cs)
      | false =>
          rw [skipFrom]
          split
          case isTrue => exact (ih _).trans (List.suffix_cons c cs)
          case isFalse =>
            split
            case isTrue => exact (ih _).trans (List.suffix_cons c cs)
            case isFalse => exact List.suffix_rfl

theorem skip_suffix (cs : List Char) : skip cs <:+ cs :=
  skipFrom_suffix false cs

/-- The token is used up with what stands before it. -/
theorem suffix_of_eat? {token : Char} {cs rest : List Char} (found : eat? token cs = some rest) :
    token :: rest <:+ cs := by
  unfold eat? at found
  split at found
  case h_1 c after next =>
    split at found
    case isTrue same =>
      cases found
      rw [← eq_of_beq same, ← next]
      exact skip_suffix cs
    case isFalse => cases found
  case h_2 => cases found

theorem suffix_of_expect {token : Char} {cs rest : List Char} (done : expect token cs = .ok rest) :
    token :: rest <:+ cs := by
  unfold expect at done
  split at done
  case h_1 found =>
    cases done
    exact suffix_of_eat? found
  case h_2 => cases done

theorem readSigns_suffix (comment : Bool) (minus : Nat) (cs : List Char) : (readSigns comment minus cs).2 <:+ cs := by
  induction cs generalizing comment minus with
  | nil => cases comment <;> exact List.suffix_rfl
  | cons c cs ih =>
      have later : ∀ comment minus, (readSigns comment minus cs).2 <:+ c :: cs :=
        fun comment minus => (ih comment minus).trans (List.suffix_cons c cs)
      cases comment with
      | true =>
          rw [readSigns]
          exact later _ _
      | false =>
          rw [readSigns]
          split
          · exact later _ _
          · split
            · exact later _ _
            · split
              · exact later _ _
              · split
                · exact later _ _
                · exact List.suffix_rfl

theorem scanDecimal_suffix (float marked : Bool) (cs : List Char) : (scanDecimal float marked cs).2.2 <:+ cs := by
  induction cs generalizing float marked with
  | nil => exact List.suffix_rfl
  | cons c cs ih =>
      have later : ∀ float marked, (scanDecimal float marked cs).2.2 <:+ c :: cs :=
        fun float marked => (ih float marked).trans (List.suffix_cons c cs)
      rw [scanDecimal]
      split
      · exact later _ _
      · split
        · exact later _ _
        · split
          · exact later _ _
          · split
            · exact later _ _
            · exact List.suffix_rfl

theorem suffix_of_takeBytes? {size : Nat} {cs taken rest : List Char} (found : takeBytes? size cs = some (taken, rest)) :
    rest <:+ cs := by
  induction cs generalizing size taken rest with
  | nil =>
      cases size <;> cases found
      exact List.suffix_rfl
  | cons c cs ih =>
      cases size with
      | zero =>
          cases found
          exact List.suffix_rfl
      | succ size =>
          rw [takeBytes?] at found
          split at found
          case isTrue =>
            split at found
            case h_1 more =>
              cases found
              exact (ih more).trans (List.suffix_cons c cs)
            case h_2 => cases found
          case isFalse => cases found

theorem readOctal_suffix (more acc : Nat) (cs : List Char) : (readOctal more acc cs).2 <:+ cs := by
  induction cs generalizing more acc with
  | nil => cases more <;> exact List.suffix_rfl
  | cons c cs ih =>
      cases more with
      | zero => exact List.suffix_rfl
      | succ more =>
          rw [readOctal]
          split
          · exact (ih _ _).trans (List.suffix_cons c cs)
          · exact List.suffix_rfl

theorem suffix_of_readHexEscape {size : Nat} {cs piece rest : List Char}
    (done : readHexEscape size cs = .ok (piece, rest)) : rest <:+ cs := by
  unfold readHexEscape at done
  split at done
  case h_1 => cases done
  case h_2 found =>
    split at done
    case h_1 => cases done
    case h_2 =>
      split at done <;> cases done
      exact suffix_of_takeBytes? found

theorem suffix_of_readEscape {raw : Bool} {cs piece rest : List Char} (done : readEscape raw cs = .ok (piece, rest)) :
    rest <:+ cs := by
  cases cs with
  | nil => cases done
  | cons c cs =>
      have next : cs <:+ c :: cs := List.suffix_cons c cs
      unfold readEscape at done
      dsimp only at done
      split at done
      case isTrue =>
        cases done
        exact next
      case isFalse =>
        split at done
        -- one character after the backslash
        iterate 11
          · cases done
            exact next
        iterate 3
          · exact (suffix_of_readHexEscape done).trans next
        · split at done
          · cases done
            exact (readOctal_suffix _ _ _).trans next
          · cases done
            exact next

theorem suffix_of_dropPattern? {pattern cs rest : List Char} (found : Chars.dropPattern? pattern cs = some rest) :
    rest <:+ cs := by
  induction pattern generalizing cs with
  | nil =>
      cases found
      exact List.suffix_rfl
  | cons p pattern ih =>
      cases cs with
      | nil => cases found
      | cons c cs =>
          rw [Chars.dropPattern?] at found
          split at found
          case isTrue => exact (ih found).trans (List.suffix_cons c cs)
          case isFalse => cases found

theorem suffix_of_readBody {closing : List Char} {raw : Bool} {fuel : Nat} {cs chars rest : List Char}
    (done : readBody closing raw fuel cs = .ok (chars, rest)) : rest <:+ cs := by
  induction fuel generalizing cs chars rest with
  | zero => cases done
  | succ fuel ih =>
      unfold readBody at done
      split at done
      case h_1 found =>
        cases done
        exact suffix_of_dropPattern? found
      case h_2 =>
        split at done
        case h_1 => cases done
        case h_2 c after _ =>
          split at done
          case isTrue =>
            split at done
            case h_1 => cases done
            case h_2 escapes =>
              split at done
              case h_1 => cases done
              case h_2 more =>
                cases done
                exact ((ih more).trans (suffix_of_readEscape escapes)).trans (List.suffix_cons c after)
          case isFalse =>
            split at done
            case h_1 => cases done
            case h_2 more =>
              cases done
              exact (ih more).trans (List.suffix_cons c after)

/-! ### Brackets and values -/

/-- A bracket that opens. -/
def isOpening (c : Char) : Bool :=
  c == '(' || c == '[' || c == '\x7b'

/-- How many brackets a text opens. -/
def openings (cs : List Char) : Nat :=
  cs.countP isOpening

theorem openings_le_of_suffix {rest cs : List Char} (suffix : rest <:+ cs) : openings rest ≤ openings cs :=
  suffix.sublist.countP_le

theorem openings_cons_of_isOpening {c : Char} (opens : isOpening c = true) (cs : List Char) :
    openings (c :: cs) = openings cs + 1 :=
  List.countP_cons_of_pos opens

/-- More brackets are used up when more of the text is. -/
theorem used_le_of_rest {cs middle rest : List Char} (suffix : rest <:+ middle) :
    openings cs - openings middle ≤ openings cs - openings rest :=
  Nat.sub_le_sub_left (openings_le_of_suffix suffix) _

/-- Fewer brackets are used up by a reader that starts later. -/
theorem used_le_of_start {cs middle rest : List Char} (suffix : middle <:+ cs) :
    openings middle - openings rest ≤ openings cs - openings rest :=
  Nat.sub_le_sub_right (openings_le_of_suffix suffix) _

/-- A scalar other than an integer. -/
def isConstant : Value → Bool
  | .int _ => false
  | v => v.isScalar

theorem isScalar_of_isConstant {v : Value} (constant : isConstant v = true) : v.isScalar = true := by
  unfold isConstant at constant
  split at constant
  · cases constant
  · exact constant

/-- What is asked of a property of values, given how many brackets their texts open: it holds of constants and of the
    integers that digits give, passes to what negation makes, passes from parts to containers with one more bracket,
    and passes from a container to its entries. -/
structure Rules (part : Nat → Value → Prop) : Prop where
  mono : ∀ {opened more v}, part opened v → opened ≤ more → part more v
  constant : ∀ {opened v}, isConstant v = true → part opened v
  int : ∀ {opened n}, n < intBound → part opened (.int (Int64.ofNat n))
  negate : ∀ {opened v negated}, part opened v → negate v = .ok negated → part opened negated
  row : ∀ {opened v items}, v.items? = some items → (∀ item ∈ items, part opened item) → part (opened + 1) v
  dict : ∀ {opened pairs}, (∀ entry ∈ pairs, part opened entry.1 ∧ part opened entry.2) →
    part (opened + 1) (.dict (Value.insertAll [] pairs))
  items : ∀ {opened v items}, v.items? = some items → part opened v → ∀ item ∈ items, part opened item

/-- Every value that a reading of a text gives is as wanted for the brackets that were used up. -/
def Gives {α : Type} (wanted : Nat → α → Prop) (cs : List Char) (reading : Reading α) : Prop :=
  ∀ a rest, reading = .ok (a, rest) → rest <:+ cs ∧ wanted (openings cs - openings rest) a

section Rules

variable {α : Type} {wanted : Nat → α → Prop} {cs rest : List Char}

theorem gives_error (fault : Fault) : Gives wanted cs (.error fault) := by
  rintro _ _ ⟨⟩

theorem gives_ok {a : α} (suffix : rest <:+ cs) (right : wanted (openings cs - openings rest) a) :
    Gives wanted cs (.ok (a, rest)) := by
  rintro _ _ ⟨⟩
  exact ⟨suffix, right⟩

theorem gives_ite {choice : Prop} [Decidable choice] {first second : Reading α}
    (gives : choice → Gives wanted cs first) (givesElse : Gives wanted cs second) :
    Gives wanted cs (if choice then first else second) := by
  split
  case isTrue chosen => exact gives chosen
  case isFalse => exact givesElse

end Rules

variable {part : Nat → Value → Prop} (rules : Rules part)

include rules

/-- A reader that starts later gives what is wanted from the start. -/
theorem Gives.of_suffix {later cs : List Char} {reading : Reading Value} (gives : Gives part later reading)
    (suffix : later <:+ cs) : Gives part cs reading := by
  intro v rest done
  obtain ⟨left, right⟩ := gives v rest done
  exact ⟨left.trans suffix, rules.mono right (used_le_of_start suffix)⟩

/-- A bracket in front of the text counts for what it opens. -/
theorem Gives.opened {c : Char} {cs : List Char} {reading : Reading Value}
    (gives : Gives (fun opened => part (opened + 1)) cs reading) (opens : isOpening c = true) :
    Gives part (c :: cs) reading := by
  intro v rest done
  obtain ⟨left, right⟩ := gives v rest done
  have fewer := openings_le_of_suffix left
  rw [openings_cons_of_isOpening opens]
  exact ⟨left.trans (List.suffix_cons c cs), rules.mono right (by omega)⟩

theorem gives_constant {v : Value} {cs rest : List Char} (constant : isConstant v = true) (suffix : rest <:+ cs) :
    Gives part cs (.ok (v, rest)) :=
  gives_ok suffix (rules.constant constant)

/-! #### Numbers and strings -/

omit rules in
theorem lt_of_readDigits {base bound n : Nat} {digits : List Char} (done : readDigits base bound digits = .ok n) :
    n < bound := by
  unfold readDigits at done
  split at done
  case isTrue => cases done
  case isFalse =>
    split at done
    case h_1 => cases done
    case h_2 =>
      split at done <;> cases done
      assumption

theorem gives_readBased (base : Nat) (cs : List Char) : Gives part cs (readBased base cs) := by
  unfold readBased
  dsimp only
  split
  case h_1 read =>
    exact gives_ok ((List.dropWhile_suffix _).trans (List.drop_suffix _ _)) (rules.int (lt_of_readDigits read))
  case h_2 => exact gives_error _

theorem gives_readDecimal (cs : List Char) : Gives part cs (readDecimal cs) := by
  have scanned := scanDecimal_suffix false false cs
  unfold readDecimal
  dsimp only
  split
  case h_1 tail marked =>
    rw [marked] at scanned
    split
    · exact gives_constant rules rfl ((List.suffix_cons _ tail).trans scanned)
    · exact gives_error _
  case h_2 tail marked =>
    rw [marked] at scanned
    split
    · exact gives_constant rules rfl ((List.suffix_cons _ tail).trans scanned)
    · exact gives_error _
  case h_3 =>
    split
    case isTrue =>
      split
      · exact gives_constant rules rfl scanned
      · exact gives_error _
    case isFalse =>
      split
      case h_1 read => exact gives_ok scanned (rules.int (lt_of_readDigits read))
      case h_2 => exact gives_constant rules rfl scanned

theorem gives_readNumber (cs : List Char) : Gives part cs (readNumber cs) := by
  unfold readNumber
  split
  · exact gives_readBased rules _ cs
  · exact gives_readDecimal rules cs

omit rules in
/-- A string is a constant, and what it leaves is an end of the text. -/
theorem isConstant_of_readString? {cs rest : List Char} {v : Value} (found : readString? cs = some (.ok (v, rest))) :
    isConstant v = true ∧ rest <:+ cs := by
  unfold readString? at found
  dsimp only at found
  split at found
  case h_1 => cases found
  case h_2 quote body starts =>
    split at found
    case isTrue =>
      split at found
      case h_1 => cases found
      case h_2 chars after read =>
        have left : after <:+ cs :=
          ((suffix_of_readBody read).trans (List.drop_suffix _ _)).trans (List.dropWhile_suffix _)
        split at found <;> cases found <;> exact ⟨rfl, left⟩
    case isFalse => cases found

omit rules in
theorem isConstant_of_concat {first second joined : Value} (done : concat first second = .ok joined) :
    isConstant joined = true := by
  unfold concat at done
  split at done <;> cases done <;> rfl

theorem gives_readMoreStrings (fuel : Nat) : ∀ {read : Value} (cs : List Char), isConstant read = true →
    Gives part cs (readMoreStrings fuel read cs) := by
  induction fuel with
  | zero => exact fun cs constant => gives_constant rules constant (skip_suffix cs)
  | succ fuel ih =>
      intro read cs constant
      rw [readMoreStrings]
      split
      · exact gives_constant rules constant (skip_suffix cs)
      · exact gives_error _
      case h_3 next rest found =>
        split
        · exact gives_error _
        case h_2 joined done =>
          exact (ih rest (isConstant_of_concat done)).of_suffix rules
            ((isConstant_of_readString? found).2.trans (skip_suffix cs))

theorem gives_readStrings (cs : List Char) : Gives part cs (readStrings cs) := by
  unfold readStrings
  split
  · exact gives_error _
  · exact gives_error _
  case h_3 first rest found =>
    have string := isConstant_of_readString? found
    exact (gives_readMoreStrings rules _ _ string.1).of_suffix rules string.2

/-! #### Operators and calls -/

omit rules in
theorem isScalar_of_negate {v negated : Value} (done : negate v = .ok negated) : negated.isScalar = true := by
  unfold negate at done
  split at done <;> cases done <;> rfl

theorem part_of_negateTimes {opened : Nat} (times : Nat) : ∀ {v negated : Value}, part opened v →
    negateTimes times v = .ok negated → part opened negated := by
  induction times with
  | zero =>
      rintro v _ right ⟨⟩
      exact right
  | succ times ih =>
      intro v negated right done
      rw [negateTimes] at done
      split at done
      case h_1 once negates => exact ih (rules.negate right negates) done
      case h_2 => cases done

omit rules in
theorem isConstant_of_complexOf {place : List Char} {minus : Bool} {first second made : Value}
    (done : complexOf place minus first second = .ok made) : isConstant made = true := by
  unfold complexOf at done
  dsimp only at done
  split at done
  case h_1 =>
    split at done <;> cases done
    rfl
  case h_2 => cases done

omit rules in
theorem isConstant_of_floatOf {v made : Value} (done : floatOf v = .ok made) : isConstant made = true := by
  unfold floatOf at done
  split at done
  case h_1 =>
    dsimp only at done
    split at done <;> cases done
    rfl
  all_goals cases done
  all_goals rfl

theorem items_of_iterable? {opened : Nat} {v : Value} {items : List Value} (right : part opened v)
    (row : iterable? v = some items) : ∀ item ∈ items, part opened item := by
  unfold iterable? at row
  split at row
  case h_1 =>
    cases row
    exact List.forall_mem_nil _
  case h_2 => exact rules.items row right

/-! #### Expressions

The readers call each other, with less fuel every time, so what they give is proved for all of them at once. -/

omit rules

/-- With this much fuel every reader gives what the rules say. -/
structure Regular (part : Nat → Value → Prop) (fuel : Nat) : Prop where
  expr : ∀ cs, Gives part cs (readExpr fuel cs)
  operand : ∀ cs, Gives part cs (readOperand fuel cs)
  atom : ∀ cs, Gives part cs (readAtom fuel cs)
  named : ∀ word cs, Gives part cs (readNamed fuel word cs)
  items : ∀ closing comma cs,
    Gives (fun opened read => ∀ item ∈ read.1, part opened item) cs (readItems fuel closing comma cs)
  /-- The bracket before the text has been used up already. -/
  braced : ∀ cs, Gives (fun opened => part (opened + 1)) cs (readBraced fuel cs)
  morePairs : ∀ cs,
    Gives (fun opened pairs => ∀ entry ∈ pairs, part opened entry.1 ∧ part opened entry.2) cs (readMorePairs fuel cs)
  moreItems : ∀ cs, Gives (fun opened items => ∀ item ∈ items, part opened item) cs (readMoreItems fuel cs)

theorem regular_zero : Regular part 0 where
  expr _ := by rw [readExpr]; exact gives_error _
  operand _ := by rw [readOperand]; exact gives_error _
  atom _ := by rw [readAtom]; exact gives_error _
  named _ _ := by rw [readNamed]; exact gives_error _
  items _ _ _ := by rw [readItems]; exact gives_error _
  braced _ := by rw [readBraced]; exact gives_error _
  morePairs _ := by rw [readMorePairs]; exact gives_error _
  moreItems _ := by rw [readMoreItems]; exact gives_error _

namespace Regular

variable {fuel : Nat} (inside : Regular part fuel)

include rules inside

theorem readExpr (cs : List Char) : Gives part cs (readExpr (fuel + 1) cs) := by
  rw [Literal.readExpr]
  split
  · exact gives_error _
  case h_2 first afterFirst read =>
    obtain ⟨left, right⟩ := inside.operand cs first afterFirst read
    have after := skip_suffix afterFirst
    split
    case h_1 => exact gives_ok List.nil_suffix (rules.mono right (used_le_of_rest List.nil_suffix))
    case h_2 sign rest next =>
      rw [next] at after
      split
      case isTrue =>
        split
        · exact gives_error _
        case h_2 second final readSecond =>
          have leftSecond := (inside.operand rest second final readSecond).1
          split
          · exact gives_error _
          case h_2 made =>
            exact gives_constant rules (isConstant_of_complexOf made)
              ((leftSecond.trans (List.suffix_cons sign rest)).trans (after.trans left))
      case isFalse => exact gives_ok (after.trans left) (rules.mono right (used_le_of_rest after))

theorem readOperand (cs : List Char) : Gives part cs (readOperand (fuel + 1) cs) := by
  rw [Literal.readOperand]
  dsimp only
  split
  · exact gives_error _
  case h_2 atom rest read =>
    split
    · exact gives_error _
    case h_2 negates =>
      obtain ⟨left, right⟩ := (inside.atom _).of_suffix rules (readSigns_suffix false 0 cs) atom rest read
      exact gives_ok left (part_of_negateTimes rules _ right negates)

theorem readAtom (cs : List Char) : Gives part cs (readAtom (fuel + 1) cs) := by
  cases cs with
  | nil =>
      rw [Literal.readAtom]
      exact gives_error _
  | cons c cs =>
      have opening : ∀ bracket : Char, isOpening bracket = true → (c == bracket) = true → isOpening c = true := by
        intro bracket opens same
        rwa [eq_of_beq same]
      have named : Gives part (c :: cs) (readNamed fuel (String.ofList ((c :: cs).takeWhile isNameChar))
          ((c :: cs).dropWhile isNameChar)) :=
        (inside.named _ _).of_suffix rules (List.dropWhile_suffix _)
      rw [Literal.readAtom]
      refine gives_ite (fun same => ?_) (gives_ite (fun same => ?_) (gives_ite (fun same => ?_)
        (gives_ite (fun _ => ?_) (gives_ite (fun _ => gives_readNumber rules _)
        (gives_ite (fun _ => gives_readStrings rules _) (gives_ite (fun _ => ?_) (gives_error _)))))))
      -- one entry in parentheses without a comma stands for itself
      · refine Gives.opened rules ?_ (opening '(' rfl same)
        split
        · exact gives_error _
        case h_2 single rest read =>
          obtain ⟨left, rights⟩ := inside.items _ _ _ _ _ read
          exact gives_ok left (rules.mono (rights single (by simp)) (Nat.le_succ _))
        case h_3 items _ rest _ read =>
          obtain ⟨left, rights⟩ := inside.items _ _ _ _ _ read
          exact gives_ok left (rules.row rfl rights)
      · refine Gives.opened rules ?_ (opening '[' rfl same)
        split
        · exact gives_error _
        case h_2 items _ rest read =>
          obtain ⟨left, rights⟩ := inside.items _ _ _ _ _ read
          exact gives_ok left (rules.row rfl rights)
      · refine Gives.opened rules ?_ (opening '\x7b' rfl same)
        split
        case h_1 rest closed =>
          exact gives_ok ((List.suffix_cons _ rest).trans (suffix_of_eat? closed)) (rules.dict (List.forall_mem_nil _))
        case h_2 => exact inside.braced _
      · exact gives_constant rules rfl ((List.drop_suffix 2 cs).trans (List.suffix_cons c cs))
      · exact gives_ite (fun _ => gives_readStrings rules _) named

theorem readNamed (word : String) (cs : List Char) : Gives part cs (readNamed (fuel + 1) word cs) := by
  have constant : ∀ {v : Value}, isConstant v = true → Gives part cs (.ok (v, cs)) :=
    fun isConstant => gives_constant rules isConstant List.suffix_rfl
  rw [Literal.readNamed]
  refine gives_ite (fun _ => constant rfl) (gives_ite (fun _ => constant rfl) (gives_ite (fun _ => constant rfl)
    (gives_ite (fun _ => constant rfl) (gives_ite (fun _ => constant rfl) (gives_ite (fun _ => constant rfl)
    (gives_ite (fun _ => ?_) (gives_ite (fun _ => ?_) (gives_error _))))))))
  · extract_lets make
    have isRow : ∀ items, (make items).items? = some items := by
      intro items
      unfold make
      split <;> rfl
    split
    · exact gives_error _
    case h_2 argumentText opened =>
      refine (Gives.opened rules ?_ rfl).of_suffix rules (suffix_of_expect opened)
      split
      case h_1 rest closed =>
        exact gives_ok ((List.suffix_cons _ rest).trans (suffix_of_eat? closed))
          (rules.row (isRow []) (List.forall_mem_nil _))
      case h_2 =>
        split
        · exact gives_error _
        case h_2 argument afterArgument read =>
          obtain ⟨left, right⟩ := inside.expr _ _ _ read
          split
          · exact gives_error _
          case h_2 rest closed =>
            have after := (List.suffix_cons _ rest).trans (suffix_of_expect closed)
            split
            case h_1 items iterates =>
              have rights := items_of_iterable? rules (rules.mono right (used_le_of_rest after)) iterates
              exact gives_ok (after.trans left) (rules.row (isRow items) rights)
            case h_2 => exact gives_error _
  · split
    · exact gives_error _
    case h_2 argumentText opened =>
      have start := (List.suffix_cons _ argumentText).trans (suffix_of_expect opened)
      split
      · exact gives_error _
      case h_2 argument afterArgument read =>
        have left := (inside.expr _ _ _ read).1
        split
        · exact gives_error _
        case h_2 rest closed =>
          have after := (List.suffix_cons _ rest).trans (suffix_of_expect closed)
          split
          · exact gives_error _
          case h_2 made => exact gives_constant rules (isConstant_of_floatOf made) ((after.trans left).trans start)

theorem readItems (closing : Char) (comma : Bool) (cs : List Char) :
    Gives (fun opened read => ∀ item ∈ read.1, part opened item) cs (readItems (fuel + 1) closing comma cs) := by
  rw [Literal.readItems]
  split
  case h_1 rest closed =>
    exact gives_ok ((List.suffix_cons _ rest).trans (suffix_of_eat? closed)) (List.forall_mem_nil _)
  case h_2 =>
    split
    · exact gives_error _
    case h_2 item afterItem read =>
      obtain ⟨left, right⟩ := inside.expr _ _ _ read
      split
      case h_1 afterComma parted =>
        have toComma := (List.suffix_cons _ afterComma).trans (suffix_of_eat? parted)
        split
        · exact gives_error _
        case h_2 items trailing rest more =>
          obtain ⟨leftMore, rights⟩ := inside.items _ _ _ _ _ more
          refine gives_ok (leftMore.trans (toComma.trans left)) (List.forall_mem_cons.mpr ⟨?_, fun other member => ?_⟩)
          · exact rules.mono right (used_le_of_rest (leftMore.trans toComma))
          · exact rules.mono (rights other member) (used_le_of_start (toComma.trans left))
      case h_2 =>
        split
        · exact gives_error _
        case h_2 rest closed =>
          have after := (List.suffix_cons _ rest).trans (suffix_of_expect closed)
          refine gives_ok (after.trans left) (List.forall_mem_cons.mpr ⟨?_, List.forall_mem_nil _⟩)
          exact rules.mono right (used_le_of_rest after)

theorem readBraced (cs : List Char) : Gives (fun opened => part (opened + 1)) cs (readBraced (fuel + 1) cs) := by
  rw [Literal.readBraced]
  split
  · exact gives_error _
  case h_2 first afterFirst read =>
    obtain ⟨left, right⟩ := inside.expr _ _ _ read
    split
    case h_1 afterColon parted =>
      have toColon := (List.suffix_cons _ afterColon).trans (suffix_of_eat? parted)
      split
      · exact gives_error _
      case h_2 value afterValue readValue =>
        obtain ⟨leftValue, rightValue⟩ := inside.expr _ _ _ readValue
        split
        · exact gives_error _
        case h_2 pairs rest more =>
          obtain ⟨leftMore, rights⟩ := inside.morePairs _ _ _ more
          have toValue := leftValue.trans (toColon.trans left)
          refine gives_ok (leftMore.trans toValue)
            (rules.dict (List.forall_mem_cons.mpr ⟨⟨?_, ?_⟩, fun entry member => ?_⟩))
          · exact rules.mono right (used_le_of_rest (leftMore.trans (leftValue.trans toColon)))
          · exact rules.mono (rules.mono rightValue (used_le_of_rest leftMore)) (used_le_of_start (toColon.trans left))
          · exact (rights entry member).imp (rules.mono · (used_le_of_start toValue))
              (rules.mono · (used_le_of_start toValue))
    case h_2 =>
      split
      · exact gives_error _
      case h_2 items rest more =>
        obtain ⟨leftMore, rights⟩ := inside.moreItems _ _ _ more
        refine gives_ok (leftMore.trans left) (rules.row rfl (List.forall_mem_cons.mpr ⟨?_, fun other member => ?_⟩))
        · exact rules.mono right (used_le_of_rest leftMore)
        · exact rules.mono (rights other member) (used_le_of_start left)

theorem readMorePairs (cs : List Char) :
    Gives (fun opened pairs => ∀ entry ∈ pairs, part opened entry.1 ∧ part opened entry.2) cs
      (readMorePairs (fuel + 1) cs) := by
  rw [Literal.readMorePairs]
  split
  case h_1 rest closed =>
    exact gives_ok ((List.suffix_cons _ rest).trans (suffix_of_eat? closed)) (List.forall_mem_nil _)
  case h_2 =>
    split
    · exact gives_error _
    case h_2 afterComma parted =>
      have toComma := (List.suffix_cons _ afterComma).trans (suffix_of_expect parted)
      split
      case h_1 rest closed =>
        exact gives_ok (((List.suffix_cons _ rest).trans (suffix_of_eat? closed)).trans toComma)
          (List.forall_mem_nil _)
      case h_2 =>
        split
        · exact gives_error _
        case h_2 key afterKey readKey =>
          obtain ⟨leftKey, rightKey⟩ := inside.expr _ _ _ readKey
          split
          · exact gives_error _
          case h_2 afterColon colon =>
            have toColon := (List.suffix_cons _ afterColon).trans (suffix_of_expect colon)
            split
            · exact gives_error _
            case h_2 value afterValue readValue =>
              obtain ⟨leftValue, rightValue⟩ := inside.expr _ _ _ readValue
              split
              · exact gives_error _
              case h_2 pairs rest more =>
                obtain ⟨leftMore, rights⟩ := inside.morePairs _ _ _ more
                have toKey := leftKey.trans toComma
                have toValue := leftValue.trans (toColon.trans toKey)
                refine gives_ok (leftMore.trans toValue)
                  (List.forall_mem_cons.mpr ⟨⟨?_, ?_⟩, fun entry member => ?_⟩)
                · exact rules.mono (rules.mono rightKey (used_le_of_rest (leftMore.trans (leftValue.trans toColon))))
                    (used_le_of_start toComma)
                · exact rules.mono (rules.mono rightValue (used_le_of_rest leftMore))
                    (used_le_of_start (toColon.trans toKey))
                · exact (rights entry member).imp (rules.mono · (used_le_of_start toValue))
                    (rules.mono · (used_le_of_start toValue))

theorem readMoreItems (cs : List Char) :
    Gives (fun opened items => ∀ item ∈ items, part opened item) cs (readMoreItems (fuel + 1) cs) := by
  rw [Literal.readMoreItems]
  split
  case h_1 rest closed =>
    exact gives_ok ((List.suffix_cons _ rest).trans (suffix_of_eat? closed)) (List.forall_mem_nil _)
  case h_2 =>
    split
    · exact gives_error _
    case h_2 afterComma parted =>
      have toComma := (List.suffix_cons _ afterComma).trans (suffix_of_expect parted)
      split
      case h_1 rest closed =>
        exact gives_ok (((List.suffix_cons _ rest).trans (suffix_of_eat? closed)).trans toComma)
          (List.forall_mem_nil _)
      case h_2 =>
        split
        · exact gives_error _
        case h_2 item afterItem read =>
          obtain ⟨left, right⟩ := inside.expr _ _ _ read
          split
          · exact gives_error _
          case h_2 items rest more =>
            obtain ⟨leftMore, rights⟩ := inside.moreItems _ _ _ more
            have toItem := left.trans toComma
            refine gives_ok (leftMore.trans toItem) (List.forall_mem_cons.mpr ⟨?_, fun other member => ?_⟩)
            · exact rules.mono (rules.mono right (used_le_of_rest leftMore)) (used_le_of_start toComma)
            · exact rules.mono (rights other member) (used_le_of_start toItem)

theorem succ : Regular part (fuel + 1) where
  expr := inside.readExpr rules
  operand := inside.readOperand rules
  atom := inside.readAtom rules
  named := inside.readNamed rules
  items := inside.readItems rules
  braced := inside.readBraced rules
  morePairs := inside.readMorePairs rules
  moreItems := inside.readMoreItems rules

end Regular

include rules in
theorem regular (fuel : Nat) : Regular part fuel := by
  induction fuel with
  | zero => exact regular_zero
  | succ fuel ih => exact ih.succ rules

include rules in
/-- A literal is as its rules say, for the brackets in its text. -/
theorem part_of_readWhole {cs : List Char} {v : Value} (done : readWhole cs = .ok v) : part (openings cs) v := by
  unfold readWhole at done
  split at done
  case h_1 => cases done
  case h_2 value rest read =>
    split at done <;> cases done
    exact rules.mono ((regular rules _).expr cs v rest read).2 (Nat.sub_le _ _)

/-! ### Units -/

theorem unitRules : Rules fun _ => Value.Below 0 where
  mono below _ := below
  constant constant := Value.below_scalar (isScalar_of_isConstant constant)
  int _ := Value.below_scalar rfl
  negate _ negates := Value.below_scalar (isScalar_of_negate negates)
  row := Value.below_of_items?
  dict below := Value.below_dict (Value.forall_mem_insertAll (Value.Below 0) below (List.forall_mem_nil _))
  items row below := below.items? row

/-- A literal names no unit. -/
theorem below_of_readWhole {cs : List Char} {v : Value} (done : readWhole cs = .ok v) : v.Below 0 :=
  part_of_readWhole unitRules done

end SourceRecovery.Literal
