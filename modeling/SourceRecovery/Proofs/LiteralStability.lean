/-
Module: SourceRecovery.Proofs.LiteralStability
Layer: Proofs
Purpose: Literals that are read, written and read again. Whatever text is read, every value that a reader gives on the
  way is sound everywhere: digits without a sign stay within 64 bits, so the least integer is never reached and every
  negation is exact, and dictionaries are built by insertion, so no two of their keys are equal. A literal without
  floating-point numbers and raw text is therefore read back from the form in which it is written. The decimal text
  of an integer is always a literal, and the least integer of 64 bits is the one that is not read as a number though
  it fits.
Imports: SourceRecovery.Proofs.LiteralNesting, SourceRecovery.Proofs.ValueParts
Trusted boundary: none
Main exports: Literal.read_writeInt, Literal.soundRules, Literal.Built, Literal.Negated,
  Literal.everywhere_sound_of_built, Literal.read_literal_of_read
Open obligations: none
-/
import SourceRecovery.Proofs.LiteralNesting
import SourceRecovery.Proofs.ValueParts

namespace SourceRecovery.Literal

open Value (Everywhere)

/-! ### Integers -/

theorem ofNat_ne_minValue {n : Nat} (small : n < intBound) : Int64.ofNat n ≠ Int64.minValue := by
  intro least
  have value := congrArg Int64.toInt least
  rw [Int64.toInt_ofNat_of_lt small, Int64.toInt_minValue] at value
  omega

/-- The negation of an integer other than the least one is exact. -/
theorem toInt_neg_of_ne_minValue {n : Int64} (notLeast : n ≠ Int64.minValue) : (-n).toInt = -n.toInt := by
  have upper : n.toInt < 2 ^ 63 := n.toInt_lt
  have lower : -2 ^ 63 ≤ n.toInt := n.le_toInt
  have differs : n.toInt ≠ -2 ^ 63 := fun equal =>
    notLeast (Int64.toInt_inj.mp (equal.trans Int64.toInt_minValue.symm))
  rw [Int64.toInt_neg]
  apply Int.bmod_eq_of_le <;> omega

theorem neg_ne_minValue {n : Int64} (notLeast : n ≠ Int64.minValue) : -n ≠ Int64.minValue := by
  intro least
  have value := congrArg Int64.toInt least
  have upper : n.toInt < 2 ^ 63 := n.toInt_lt
  rw [toInt_neg_of_ne_minValue notLeast, Int64.toInt_minValue] at value
  omega

/-! ### Decimal texts -/

/-- What the decimal text of an integer stands for: the integer itself when it has 64 bits, and otherwise its text. -/
def integerConstant (n : Int) : Value :=
  if -2 ^ 63 ≤ n ∧ n ≤ 2 ^ 63 - 1 then .int (Int64.ofInt n) else .raw (String.ofList (Value.writeInt n))

/-- The decimal text of an integer is a literal. -/
theorem read_writeInt (n : Int) : Literal.read (String.ofList (Value.writeInt n)) = .ok (decimalValue n) := by
  have enough : fuelFor (Value.writeInt n) = 5 * (Value.writeInt n).length + 2 + 3 := rfl
  have whole := readExpr_writeInt n Stops.nil (5 * (Value.writeInt n).length + 2)
  rw [List.append_nil] at whole
  simp only [Literal.read, readWhole, String.toList_ofList, enough, whole]
  rfl

/-- Only at the least integer of 64 bits is the digits' own bound the wrong one: its opposite has 64 bits no more. -/
theorem decimalValue_eq_integerConstant_iff (n : Int) : decimalValue n = integerConstant n ↔ n ≠ -2 ^ 63 := by
  have bound : n.natAbs < intBound ↔ -2 ^ 63 < n ∧ n < 2 ^ 63 := by
    show n.natAbs < 2 ^ 63 ↔ _
    omega
  constructor
  · rintro same rfl
    cases same
  · intro notLeast
    unfold decimalValue integerConstant
    by_cases fits : -2 ^ 63 ≤ n ∧ n ≤ 2 ^ 63 - 1
    · rw [if_pos fits, if_pos (bound.mpr (by omega))]
    · rw [if_neg fits, if_neg fun small => fits (by have := bound.mp small; omega)]

/-- The decimal text of an integer is read as what it stands for, at every integer but the least one of 64 bits. -/
theorem read_decimal_iff (n : Int) :
    Literal.read (String.ofList (Value.writeInt n)) = .ok (integerConstant n) ↔ n ≠ -2 ^ 63 := by
  rw [read_writeInt, ← decimalValue_eq_integerConstant_iff]
  constructor
  · intro same
    exact Except.ok.inj same
  · intro same
    exact congrArg Except.ok same

/-- The least integer of 64 bits stands for itself, but its text is read as raw text: the digits are read first, and
    without the sign they are too large. -/
theorem read_least_decimal :
    String.ofList (Value.writeInt (-2 ^ 63)) = "-9223372036854775808" ∧
      integerConstant (-2 ^ 63) = .int Int64.minValue ∧
        Literal.read "-9223372036854775808" = .ok (.raw "-9223372036854775808") := by
  have text : String.ofList (Value.writeInt (-2 ^ 63)) = "-9223372036854775808" := by decide
  refine ⟨text, rfl, ?_⟩
  have reads := read_writeInt (-2 ^ 63)
  rw [text] at reads
  rw [reads]
  rfl

/-! ### Sound values -/

theorem sound_of_isConstant {v : Value} (constant : isConstant v = true) : v.Sound := by
  cases v with
  | int | dict | code => cases constant
  | _ => trivial

theorem sound_of_items? {v : Value} {items : List Value} (row : v.items? = some items) : v.Sound := by
  cases v with
  | tuple | list | set | frozenset => trivial
  | _ => cases row

theorem everywhere_sound_of_negate {v negated : Value} (sound : v.Everywhere Value.Sound)
    (done : negate v = .ok negated) : negated.Everywhere Value.Sound := by
  refine Value.everywhere_scalar (isScalar_of_negate done) ?_
  cases v with
  | int n =>
      cases done
      exact neg_ne_minValue sound.here
  | float | complex | raw =>
      cases done
      trivial
  | _ => cases done

/-- What the readers do keeps values sound everywhere. -/
theorem soundRules : Rules fun _ => Everywhere Value.Sound where
  mono sound _ := sound
  constant constant := Value.everywhere_scalar (isScalar_of_isConstant constant) (sound_of_isConstant constant)
  int small := Value.everywhere_scalar rfl (ofNat_ne_minValue small)
  negate := everywhere_sound_of_negate
  row row sound := Value.everywhere_of_items? row (sound_of_items? row) sound
  dict sound := Value.everywhere_dict (Value.distinctKeys_insertAll List.Pairwise.nil _)
    (Value.forall_mem_insertAll _ sound (List.forall_mem_nil _))
  items row sound := sound.items? row

/-- A literal is sound everywhere. -/
theorem everywhere_sound_of_readWhole {cs : List Char} {v : Value} (done : readWhole cs = .ok v) :
    v.Everywhere Value.Sound :=
  part_of_readWhole soundRules done

/-! ### Values on the way -/

/-- A value that some reader gives, whatever text is left and whatever fuel there is. So these are all values that come
    up while any text is read, whether or not the text is a literal in the end. -/
inductive Built : Value → Prop where
  | expr {fuel : Nat} {cs rest : List Char} {v : Value} (read : readExpr fuel cs = .ok (v, rest)) : Built v
  | operand {fuel : Nat} {cs rest : List Char} {v : Value} (read : readOperand fuel cs = .ok (v, rest)) : Built v
  | atom {fuel : Nat} {cs rest : List Char} {v : Value} (read : readAtom fuel cs = .ok (v, rest)) : Built v
  | number {cs rest : List Char} {v : Value} (read : readNumber cs = .ok (v, rest)) : Built v
  | named {fuel : Nat} {word : String} {cs rest : List Char} {v : Value}
      (read : readNamed fuel word cs = .ok (v, rest)) : Built v
  | item {fuel : Nat} {closing : Char} {comma trailing : Bool} {cs rest : List Char} {items : List Value} {v : Value}
      (read : readItems fuel closing comma cs = .ok ((items, trailing), rest)) (member : v ∈ items) : Built v
  | braced {fuel : Nat} {cs rest : List Char} {v : Value} (read : readBraced fuel cs = .ok (v, rest)) : Built v
  | key {fuel : Nat} {cs rest : List Char} {pairs : List (Value × Value)} {entry : Value × Value}
      (read : readMorePairs fuel cs = .ok (pairs, rest)) (member : entry ∈ pairs) : Built entry.1
  | value {fuel : Nat} {cs rest : List Char} {pairs : List (Value × Value)} {entry : Value × Value}
      (read : readMorePairs fuel cs = .ok (pairs, rest)) (member : entry ∈ pairs) : Built entry.2
  | further {fuel : Nat} {cs rest : List Char} {items : List Value} {v : Value}
      (read : readMoreItems fuel cs = .ok (items, rest)) (member : v ∈ items) : Built v
  /-- What an atom becomes by some of the minus signs before it. -/
  | negated {fuel times : Nat} {cs rest : List Char} {atom v : Value}
      (read : readAtom fuel (readSigns false 0 cs).2 = .ok (atom, rest)) (some : times ≤ (readSigns false 0 cs).1)
      (negates : negateTimes times atom = .ok v) : Built v

/-- A value to which negation is applied while some text is read: it stands behind a minus sign that has still to be
    taken into account. -/
inductive Negated : Value → Prop where
  | next {fuel times : Nat} {cs rest : List Char} {atom v : Value}
      (read : readAtom fuel (readSigns false 0 cs).2 = .ok (atom, rest)) (more : times < (readSigns false 0 cs).1)
      (negates : negateTimes times atom = .ok v) : Negated v

theorem Negated.built {v : Value} (negated : Negated v) : Built v := by
  cases negated with
  | next read more negates => exact .negated read (Nat.le_of_lt more) negates

/-- Every value on the way is sound everywhere. -/
theorem everywhere_sound_of_built {v : Value} (built : Built v) : v.Everywhere Value.Sound := by
  cases built with
  | expr read => exact ((regular soundRules _).expr _ _ _ read).2
  | operand read => exact ((regular soundRules _).operand _ _ _ read).2
  | atom read => exact ((regular soundRules _).atom _ _ _ read).2
  | number read => exact (gives_readNumber soundRules _ _ _ read).2
  | named read => exact ((regular soundRules _).named _ _ _ _ read).2
  | item read member => exact ((regular soundRules _).items _ _ _ _ _ read).2 _ member
  | braced read => exact ((regular soundRules _).braced _ _ _ read).2
  | key read member => exact (((regular soundRules _).morePairs _ _ _ read).2 _ member).1
  | value read member => exact (((regular soundRules _).morePairs _ _ _ read).2 _ member).2
  | further read member => exact ((regular soundRules _).moreItems _ _ _ read).2 _ member
  | negated read _ negates =>
      have atom := ((regular soundRules _).atom _ _ _ read).2
      exact @part_of_negateTimes _ soundRules 0 _ _ _ atom negates

/-! ### Reading again -/

/-- A literal without floating-point numbers and raw text is restorable. -/
theorem restorable_of_readWhole {cs : List Char} {v : Value} (done : readWhole cs = .ok v)
    (exact : v.Everywhere fun part => part.isExact = true) : v.Restorable :=
  Value.restorable_of_everywhere ((everywhere_sound_of_readWhole done).and exact)

theorem readWhole_of_read {text : String} {v : Value} (done : Literal.read text = .ok v) :
    readWhole text.toList = .ok v := by
  unfold Literal.read at done
  split at done
  case h_1 read =>
    cases done
    exact read
  case h_2 => cases done

/-- Whatever text is read as a value in which no floating-point number and no raw text occurs, the value is read back from
    its literal, and its dictionaries have pairwise distinct keys at every depth. And whatever text is read, no value on
    the way has the least integer in it, and an integer that is negated has a negation of 64 bits. -/
theorem read_literal_of_read :
    (∀ text v, Literal.read text = .ok v → (∀ part : Value, part.Occurs v → part.isExact = true) →
      Literal.read v.literal = .ok v ∧
        ∀ pairs, (Value.dict pairs).Occurs v → (pairs.map Prod.fst).Nodup) ∧
    (∀ v, Built v → ∀ n, (Value.int n).Occurs v → n ≠ Int64.minValue) ∧
    (∀ n, Negated (.int n) → n ≠ Int64.minValue ∧ (-n).toInt = -n.toInt) := by
  refine ⟨fun text v done exact => ⟨?_, fun pairs occurs => ?_⟩, fun v built n occurs => ?_, fun n negated => ?_⟩
  · have restorable := restorable_of_readWhole (readWhole_of_read done) exact
    unfold Literal.read Value.literal
    rw [String.toList_ofList, readWhole_write restorable]
  · have sound := everywhere_sound_of_readWhole (readWhole_of_read done)
    have restorable := Value.restorable_of_everywhere ((sound.and exact).inside occurs)
    exact restorable.2
  · exact everywhere_sound_of_built built _ occurs
  · have notLeast : n ≠ Int64.minValue := (everywhere_sound_of_built negated.built).here
    exact ⟨notLeast, toInt_neg_of_ne_minValue notLeast⟩

/-- A dictionary with a key that is given twice, two byte strings that make one, a comment, an integer in base sixteen, an
    underscore among digits and a row of signs. -/
def looseText : String :=
  "\x7b'k': -0x1F, b'' rb\"\\q\": ..., # again\n 'k': (1_0, -+--7,)\x7d"

/-- What the text is read as. -/
def looseValue : Value :=
  .dict [(.str "k", .tuple [.int 10, .int (-7)]), (.bytes [92, 113], .ellipsis)]

theorem restorable_looseValue : looseValue.Restorable := by
  have first : (10 : Int64) ≠ Int64.minValue := by decide
  have second : (-7 : Int64) ≠ Int64.minValue := by decide
  simp [looseValue, Value.Restorable, Value.AllRestorable, Value.PairsRestorable, first, second]

theorem read_looseText : Literal.read looseText = .ok looseValue := by
  have known : (Literal.read looseText).toOption.any looseValue.same = true := by decide +kernel
  cases outcome : Literal.read looseText with
  | error fault =>
      rw [outcome] at known
      cases known
  | ok v =>
      rw [outcome] at known
      rw [Value.eq_of_same restorable_looseValue known]

theorem everywhere_isExact_looseValue : looseValue.Everywhere fun part => part.isExact = true := by
  have row : (Value.tuple [.int 10, .int (-7)]).Everywhere fun part => part.isExact = true := by
    refine Value.everywhere_of_items? rfl rfl (List.forall_mem_cons.mpr ⟨?_, List.forall_mem_singleton.mpr ?_⟩)
    · exact Value.everywhere_scalar rfl rfl
    · exact Value.everywhere_scalar rfl rfl
  refine Value.everywhere_dict rfl (List.forall_mem_cons.mpr ⟨⟨?_, row⟩, List.forall_mem_singleton.mpr ⟨?_, ?_⟩⟩)
  · exact Value.everywhere_scalar rfl rfl
  · exact Value.everywhere_scalar rfl rfl
  · exact Value.everywhere_scalar rfl rfl

/-- The loose text stabilises after one round, and seven is negated in a text that has a minus sign before it. -/
theorem read_literal_of_read_looseText :
    Literal.read looseText = .ok looseValue ∧ Literal.read looseValue.literal = .ok looseValue ∧
      Negated (.int 7) ∧ (-7 : Int64).toInt = -(7 : Int64).toInt := by
  have again := read_literal_of_read.1 looseText looseValue read_looseText everywhere_isExact_looseValue
  have negated : Negated (.int 7) := @Negated.next 1 0 ['-', '7'] [] (.int 7) (.int 7) rfl (by decide) rfl
  exact ⟨read_looseText, again.1, negated, (read_literal_of_read.2.2 7 negated).2⟩

end SourceRecovery.Literal
