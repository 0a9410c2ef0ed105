/-
Module: SourceRecovery.Proofs.ConsumedBytes
Layer: Proofs
Purpose: What an artifact is read as depends on the bytes that are used up and on no others. Each reader of an object
  stream gives the same when other bytes follow the ones it uses up, and fails when some of these are missing. Lengths
  are checked against all bytes that remain, but what a length announces is then used up, so the check makes a
  difference only where the reader fails anyway.
Imports: Mathlib.Data.List.Basic, SourceRecovery.Proofs.ModuleNesting, SourceRecovery.Proofs.ObjectReading
Trusted boundary: none
Main exports: ObjectStream.Uses, ObjectStream.Frugal, ObjectStream.frugal_readObject, Artifact.consumed
Open obligations: none
-/
import Mathlib.Data.List.Basic
import SourceRecovery.Proofs.ModuleNesting
import SourceRecovery.Proofs.ObjectReading

namespace SourceRecovery

namespace ObjectStream

variable {α β : Type} {s t middle : StreamState} {a : α} {b : β} {used more : List UInt8}

/-! ### Bytes that are used up -/

/-- A read that succeeds uses up the bytes `used`. It succeeds in the same way whatever follows these bytes, it fails
    when the input ends before the last of them, and the numbers that were given before it keep their objects. -/
structure Uses (reader : StreamReader α) (s : StreamState) (a : α) (t : StreamState) (used : List UInt8) : Prop where
  split : s.rest = used ++ t.rest
  refs : s.refs <+: t.refs
  again : ∀ tail, reader { s with rest := used ++ tail } = .ok (a, { t with rest := tail })
  short : ∀ cut, cut <+: used → cut ≠ used → ∃ fault, reader { s with rest := cut } = .error fault

/-- A front of two rows is a front of the first, or the first and a front of the second. -/
theorem prefix_append_cases {cut : List UInt8} (front : cut <+: used ++ more) :
    (cut <+: used ∧ cut ≠ used) ∨ ∃ rest, cut = used ++ rest ∧ rest <+: more := by
  rcases List.prefix_or_prefix_of_prefix front (List.prefix_append used more) with inside | ⟨rest, rfl⟩
  · by_cases whole : cut = used
    · exact .inr ⟨[], by rw [whole, List.append_nil], List.nil_prefix⟩
    · exact .inl ⟨inside, whole⟩
  · exact .inr ⟨rest, rfl, (List.prefix_append_right_inj used).mp front⟩

/-- Two reads use up their bytes one after the other. -/
theorem Uses.bind {first : StreamReader α} {next : α → StreamReader β} (uses : Uses first s a middle used)
    (usesNext : Uses (next a) middle b t more) : Uses (first >>= next) s b t (used ++ more) where
  split := by rw [uses.split, usesNext.split, List.append_assoc]
  refs := uses.refs.trans usesNext.refs
  again tail := by
    rw [List.append_assoc, bind_of_ok (uses.again (more ++ tail))]
    exact usesNext.again tail
  short cut front proper := by
    rcases prefix_append_cases front with ⟨inside, part⟩ | ⟨rest, rfl, inside⟩
    · obtain ⟨cause, failed⟩ := uses.short cut inside part
      exact ⟨cause, bind_of_error failed⟩
    · rw [bind_of_ok (uses.again rest)]
      exact usesNext.short rest inside fun whole => proper (by rw [whole])

/-- A read that leaves the bytes alone. -/
theorem uses_nothing {reader : StreamReader α} (refs : s.refs <+: t.refs)
    (same : ∀ rest, reader { s with rest } = .ok (a, { t with rest })) (stays : s.rest = t.rest) :
    Uses reader s a t [] where
  split := stays
  refs := refs
  again := same
  short _ front proper := absurd (List.prefix_nil.mp front) proper

/-- Only inputs that start with the bytes used up, or end before the last of them, count. -/
theorem Uses.congr {reader other : StreamReader α} (uses : Uses reader s a t used)
    (same : ∀ rest, rest <+: used ∨ used <+: rest → other { s with rest } = reader { s with rest }) :
    Uses other s a t used where
  split := uses.split
  refs := uses.refs
  again tail := (same _ (.inr (List.prefix_append _ _))).trans (uses.again tail)
  short cut front proper := by
    rw [same cut (.inl front)]
    exact uses.short cut front proper

/-- Every read that succeeds uses up `least` bytes at least, and depends on no others. -/
def Frugal (least : Nat) (reader : StreamReader α) : Prop :=
  ∀ s a t, reader s = .ok (a, t) → ∃ used, least ≤ used.length ∧ Uses reader s a t used

namespace Frugal

variable {least fewer : Nat}

theorem mono {reader : StreamReader α} (frugal : Frugal least reader) (fits : fewer ≤ least) :
    Frugal fewer reader := by
  intro s a t done
  obtain ⟨used, many, uses⟩ := frugal s a t done
  exact ⟨used, Nat.le_trans fits many, uses⟩

theorem pure (a : α) : Frugal 0 (Pure.pure a : StreamReader α) := by
  rintro s _ _ ⟨⟩
  exact ⟨[], Nat.le_refl _, uses_nothing List.prefix_rfl (fun _ => rfl) rfl⟩

theorem fault (cause : StreamCause) : Frugal least (fault cause : StreamReader α) := by
  rintro s _ _ ⟨⟩

theorem bind {first : StreamReader α} {next : α → StreamReader β} (frugal : Frugal least first)
    (frugalNext : ∀ a, Frugal fewer (next a)) : Frugal (least + fewer) (first >>= next) := by
  intro s b t done
  obtain ⟨a, middle, begun, ended⟩ := UnitStore.exists_of_bind done
  obtain ⟨used, many, uses⟩ := frugal s a middle begun
  obtain ⟨more, manyMore, usesNext⟩ := frugalNext a middle b t ended
  refine ⟨used ++ more, ?_, uses.bind usesNext⟩
  rw [List.length_append]
  exact Nat.add_le_add many manyMore

/-- What follows may use up nothing. -/
theorem andThen {first : StreamReader α} {next : α → StreamReader β} (frugal : Frugal least first)
    (frugalNext : ∀ a, Frugal 0 (next a)) : Frugal least (first >>= next) :=
  frugal.bind frugalNext

theorem map {first : StreamReader α} (frugal : Frugal least first) (make : α → β) :
    Frugal least (first >>= fun a => Pure.pure (make a)) :=
  frugal.andThen fun a => .pure (make a)

theorem ite {choice : Prop} [Decidable choice] {first second : StreamReader α} (frugal : Frugal least first)
    (frugalElse : Frugal least second) : Frugal least (if choice then first else second) := by
  split
  case isTrue => exact frugal
  case isFalse => exact frugalElse

/-- A check that enough bytes remain changes only how a short input fails. -/
theorem checked {reader : StreamReader α} (frugal : Frugal least reader) (cause : StreamCause) :
    Frugal least (do if (← get).rest.length < least then ObjectStream.fault cause else reader) := by
  intro s a t done
  rw [get_bind] at done
  split at done
  case isTrue => cases done
  case isFalse =>
    obtain ⟨used, many, uses⟩ := frugal s a t done
    refine ⟨used, many, uses.split, uses.refs, fun tail => ?_, fun cut front proper => ?_⟩
    · have enough : ¬ (used ++ tail).length < least := by
        rw [List.length_append]
        omega
      rw [get_bind, if_neg enough]
      exact uses.again tail
    · rw [get_bind]
      split
      case isTrue => exact ⟨_, rfl⟩
      case isFalse => exact uses.short cut front proper

/-- A reader that uses up bytes fails where none are left. -/
theorem fails_nil {reader : StreamReader α} (frugal : Frugal (least + 1) reader) (s : StreamState) :
    ∃ cause, reader { s with rest := [] } = .error cause := by
  cases outcome : reader { s with rest := [] } with
  | error cause => exact ⟨cause, rfl⟩
  | ok pair =>
      obtain ⟨used, many, uses⟩ := frugal _ _ _ outcome
      have empty : used = [] := (List.append_eq_nil_iff.mp uses.split.symm).1
      rw [empty] at many
      cases many

end Frugal

/-! ### Numbers and texts -/

theorem frugal_take (count : Nat) : Frugal count (take count) := by
  intro s bytes t done
  unfold take at done
  simp only at done
  split at done
  case isFalse => cases done
  case isTrue size =>
    cases done
    refine ⟨s.rest.take count, Nat.le_of_eq size.symm, ?_, List.prefix_rfl, fun tail => ?_, fun cut front proper => ?_⟩
    · exact (List.take_append_drop count s.rest).symm
    · exact take_append tail s.refs s.units size
    · -- a proper front of the bytes is shorter than they are
      have fewer : cut.length < count := by
        rw [← size]
        exact Nat.lt_of_le_of_ne front.length_le fun same => proper (front.eq_of_length same)
      have missing : ¬ (cut.take count).length = count := by
        rw [List.length_take]
        omega
      exact ⟨⟨.truncated, cut.length⟩, by rw [take]; simp only [missing, if_false]⟩

theorem frugal_readByte : Frugal 1 readByte :=
  (frugal_take 1).map _

theorem frugal_readWord : Frugal 0 readWord :=
  ((frugal_take 4).map _).mono (Nat.zero_le _)

theorem frugal_readSigned : Frugal 0 readSigned :=
  ((frugal_take 4).map _).mono (Nat.zero_le _)

theorem frugal_readDouble : Frugal 0 readDouble :=
  ((frugal_take 8).map _).mono (Nat.zero_le _)

theorem frugal_readText (count : Nat) : Frugal count (readText count) :=
  (frugal_take count).map _

theorem frugal_readFloatText : Frugal 0 readFloatText := by
  refine (frugal_readByte.mono (Nat.zero_le _)).andThen fun count =>
    ((frugal_readText count).mono (Nat.zero_le _)).andThen fun text => ?_
  split
  · exact .pure _
  · exact .fault _

theorem frugal_readInteger : Frugal 0 readInteger := by
  refine frugal_readSigned.andThen fun size => (Frugal.checked ?_ _).mono (Nat.zero_le _)
  exact (frugal_take _).map _

/-- A length and what it announces: at least as many bytes are used up. -/
theorem frugal_readLength_bind {next : Nat → StreamReader α} (frugal : ∀ count, Frugal count (next count)) :
    Frugal 0 (readLength >>= next) := by
  have same : (readLength >>= next) = (do
      let length ← readSigned
      if length < 0 then fault (.badLength length)
      else do if (← get).rest.length < length.toNat then fault (.badLength length) else next length.toNat) := by
    funext s
    cases read : readSigned s with
    | error cause => rw [readLength, bind_assoc, bind_of_error read, bind_of_error read]
    | ok pair =>
        obtain ⟨length, after⟩ := pair
        rw [bind_of_ok read, readLength, bind_assoc, bind_of_ok read, bind_assoc, get_bind]
        by_cases negative : length < 0
        · simp only [negative, decide_true, Bool.true_or, if_true]
          rfl
        · by_cases few : after.rest.length < length.toNat
          · simp only [negative, decide_false, few, decide_true, Bool.or_true, if_true, if_false, get_bind]
            rfl
          · simp only [negative, few, decide_false, Bool.or_self, Bool.false_eq_true, if_false, get_bind]
            rfl
  rw [same]
  exact frugal_readSigned.andThen fun length =>
    .ite (.fault _) (((frugal _).checked _).mono (Nat.zero_le _))

/-! ### Objects and their parts -/

section Parts

variable {object : StreamReader Value}

theorem frugal_readMany (parts : Frugal 1 object) (count : Nat) : Frugal count (readMany object count) := by
  induction count with
  | zero => exact .pure []
  | succ count ih =>
      have both := parts.bind fun first => ih.map fun rest => first :: rest
      exact both.mono (Nat.le_of_eq (Nat.add_comm count 1))

/-- The pairs that are read show how much fuel is enough. -/
theorem readPairs_of_fuel {fuel enough : Nat} {pairs : List (Value × Value)}
    (done : readPairs object fuel s = .ok (pairs, t)) (more : pairs.length < enough) :
    readPairs object enough s = .ok (pairs, t) ∧ pairs.length < fuel := by
  induction fuel generalizing enough s pairs with
  | zero => cases done
  | succ fuel ih =>
      obtain ⟨enough, rfl⟩ : ∃ less, enough = less + 1 := ⟨enough - 1, by omega⟩
      by_cases ends : s.rest.head? = some 48
      · rw [readPairs_end ends] at done ⊢
        cases done
        exact ⟨rfl, Nat.succ_pos _⟩
      · rw [readPairs_step ends] at done ⊢
        obtain ⟨key, afterKey, readKey, done⟩ := UnitStore.exists_of_bind done
        obtain ⟨value, afterValue, readValue, done⟩ := UnitStore.exists_of_bind done
        obtain ⟨rest, final, readRest, done⟩ := UnitStore.exists_of_bind done
        cases done
        obtain ⟨again, fits⟩ := ih readRest (Nat.lt_of_succ_lt_succ more)
        rw [bind_of_ok readKey, bind_of_ok readValue, bind_of_ok again]
        exact ⟨rfl, Nat.succ_lt_succ fits⟩

/-- An input that starts with the bytes used up, or ends before the last of them, has the same first byte. -/
theorem head?_of_near {rest : List UInt8} {byte : UInt8} (near : rest <+: used ∨ used <+: rest) (nonempty : used ≠ [])
    (starts : rest.head? = some byte) : used.head? = some byte := by
  rcases near with ⟨behind, rfl⟩ | ⟨behind, rfl⟩
  · rw [List.head?_append, starts]
    rfl
  · rwa [List.head?_append_of_ne_nil _ nonempty] at starts

/-- A dictionary uses up more bytes than it has pairs. -/
theorem uses_readPairs (parts : Frugal 1 object) {fuel : Nat} {pairs : List (Value × Value)}
    (done : readPairs object fuel s = .ok (pairs, t)) :
    ∃ used, pairs.length < used.length ∧ Uses (readPairs object fuel) s pairs t used := by
  induction fuel generalizing s pairs with
  | zero => cases done
  | succ fuel ih =>
      by_cases ends : s.rest.head? = some 48
      · obtain ⟨rest, starts⟩ := List.head?_eq_some_iff.mp ends
        rw [readPairs_end ends] at done
        cases done
        refine ⟨[48], Nat.zero_lt_one, ?_, List.prefix_rfl, fun tail => readPairs_end rfl, fun cut front proper => ?_⟩
        · rw [starts]
          rfl
        · -- without the byte that ends the dictionary a key is looked for, and there is none
          obtain rfl : cut = [] := by
            rcases List.prefix_cons_iff.mp front with empty | ⟨rest, rfl, inside⟩
            · exact empty
            · rw [List.prefix_nil.mp inside] at proper
              exact absurd rfl proper
          rw [readPairs_step (by simp)]
          obtain ⟨cause, failed⟩ := parts.fails_nil s
          exact ⟨cause, bind_of_error failed⟩
      · rw [readPairs_step ends] at done
        obtain ⟨key, afterKey, readKey, done⟩ := UnitStore.exists_of_bind done
        obtain ⟨value, afterValue, readValue, done⟩ := UnitStore.exists_of_bind done
        obtain ⟨rest, final, readRest, done⟩ := UnitStore.exists_of_bind done
        cases done
        obtain ⟨keyUsed, keyLong, usesKey⟩ := parts s key afterKey readKey
        obtain ⟨valueUsed, valueLong, usesValue⟩ := parts afterKey value afterValue readValue
        obtain ⟨restUsed, restLong, usesRest⟩ := ih readRest
        have usesPairs : Uses (do return (key, value) :: (← readPairs object fuel)) afterValue ((key, value) :: rest) t
            (restUsed ++ []) :=
          usesRest.bind (uses_nothing List.prefix_rfl (fun _ => rfl) rfl)
        have uses : Uses (do
            let key ← object
            let value ← object
            return (key, value) :: (← readPairs object fuel)) s ((key, value) :: rest) t _ :=
          usesKey.bind (usesValue.bind usesPairs)
        refine ⟨_, ?_, uses.congr fun rest near => ?_⟩
        · simp only [List.length_append, List.length_cons, List.length_nil]
          omega
        · -- no other input starts with the byte that ends a dictionary
          refine readPairs_step fun starts => ends ?_
          have keyStarts : keyUsed ≠ [] := List.ne_nil_of_length_pos keyLong
          have usedStarts := head?_of_near near (List.append_ne_nil_of_left_ne_nil keyStarts _) starts
          rw [usesKey.split, List.head?_append_of_ne_nil _ keyStarts]
          rwa [List.head?_append_of_ne_nil _ keyStarts] at usedStarts

/-- The fuel follows from the bytes that remain, and more of it or less makes no difference. -/
theorem frugal_readAllPairs (parts : Frugal 1 object) :
    Frugal 0 (do readPairs object ((← get).rest.length + 1)) := by
  intro s pairs t done
  rw [get_bind] at done
  obtain ⟨used, long, uses⟩ := uses_readPairs parts done
  refine ⟨used, Nat.zero_le _, uses.split, uses.refs, fun tail => ?_, fun cut front proper => ?_⟩
  · have enough : pairs.length < (used ++ tail).length + 1 := by
      rw [List.length_append]
      omega
    rw [get_bind]
    exact (readPairs_of_fuel (uses.again tail) enough).1
  · rw [get_bind]
    cases outcome : readPairs object (cut.length + 1) { s with rest := cut } with
    | error cause => exact ⟨cause, rfl⟩
    | ok pair =>
        -- what is read with little fuel is read with more, but from these bytes nothing is
        obtain ⟨cause, failed⟩ := uses.short cut front proper
        have fits := (readPairs_of_fuel outcome (Nat.lt_succ_self _)).2
        have shorter := front.length_le
        have whole := congrArg List.length uses.split
        rw [List.length_append] at whole
        have more : pair.1.length < s.rest.length + 1 := by omega
        cases failed.symm.trans (readPairs_of_fuel outcome more).1

theorem frugal_readString (parts : Frugal 0 object) (what : String) : Frugal 0 (readString object what) := by
  refine parts.andThen fun v => ?_
  split
  · exact .pure _
  · exact .pure _
  · exact .fault _

theorem frugal_readBytes (parts : Frugal 0 object) (what : String) : Frugal 0 (readBytes object what) := by
  refine parts.andThen fun v => ?_
  split
  · exact .pure _
  · exact .fault _

theorem frugal_readTuple (parts : Frugal 0 object) (what : String) : Frugal 0 (readTuple object what) := by
  refine parts.andThen fun v => ?_
  split
  · exact .pure _
  · exact .fault _

theorem frugal_textsOf (what : String) (items : List Value) : Frugal 0 (textsOf what items) := by
  induction items with
  | nil => exact .pure []
  | cons item items ih =>
      cases item with
      | str s => exact ih.map _
      | _ => exact .fault _

theorem frugal_readNames (parts : Frugal 0 object) (what : String) : Frugal 0 (readNames object what) :=
  (frugal_readTuple parts what).andThen fun items => frugal_textsOf what items

theorem frugal_readVariables (parts : Frugal 0 object) (version : Version) :
    Frugal 0 (readVariables object version) := by
  refine .ite ?_ ?_
  · exact (frugal_readNames parts _).andThen fun names => (frugal_readBytes parts _).andThen fun kinds =>
      .ite (.pure _) (.fault _)
  · exact (frugal_readNames parts _).andThen fun own => (frugal_readNames parts _).andThen fun free =>
      (frugal_readNames parts _).map _

theorem frugal_addUnit (unit : CodeUnit) : Frugal 0 (addUnit unit) := by
  rintro s _ _ ⟨⟩
  exact ⟨[], Nat.zero_le _, uses_nothing List.prefix_rfl (fun _ => rfl) rfl⟩

theorem frugal_readUnit (parts : Frugal 0 object) (version : Version) : Frugal 0 (readUnit object version) := by
  unfold readUnit
  refine frugal_readWord.andThen fun argCount => frugal_readWord.andThen fun posOnlyCount =>
    frugal_readWord.andThen fun kwOnlyCount => ?_
  extract_lets afterCounts
  have rest : Frugal 0 (afterCounts ()) := by
    refine frugal_readWord.andThen fun stackSize => frugal_readWord.andThen fun flags =>
      (frugal_readBytes parts _).andThen fun code => (frugal_readTuple parts _).andThen fun consts =>
      (frugal_readNames parts _).andThen fun names => (frugal_readVariables parts version).andThen fun tables =>
      (frugal_readString parts _).andThen fun filename => (frugal_readString parts _).andThen fun name => ?_
    extract_lets afterNames
    have ending : ∀ qualname, Frugal 0 (afterNames qualname) := fun qualname =>
      frugal_readWord.andThen fun firstLine => parts.andThen fun _ =>
        .ite (parts.andThen fun _ => frugal_addUnit _) (frugal_addUnit _)
    exact .ite ((frugal_readString parts _).andThen ending) (ending name)
  exact .ite rest (frugal_readWord.andThen fun _ => rest)

/-- Whatever the kind of an object, its contents are the bytes that are used up. -/
theorem frugal_readContents (parts : Frugal 1 object) (version : Version) (kind : Char) :
    Frugal 0 (readContents object version kind) := by
  have row : ∀ make : List Value → Value, Frugal 0 (do return make (← readMany object (← readLength))) :=
    fun make => frugal_readLength_bind fun count => (frugal_readMany parts count).map make
  have text : Frugal 0 (do return Value.str (← readText (← readLength))) :=
    frugal_readLength_bind fun count => (frugal_readText count).map Value.str
  have shortText : Frugal 0 (do return Value.str (← readText (← readByte))) :=
    (frugal_readByte.mono (Nat.zero_le _)).andThen fun count =>
      ((frugal_readText count).mono (Nat.zero_le _)).map Value.str
  unfold readContents
  split
  -- the values that have no contents
  · exact .pure _
  · exact .pure _
  · exact .pure _
  · exact .pure _
  · exact .pure _
  -- numbers
  · exact frugal_readSigned.map _
  · exact ((frugal_take 8).mono (Nat.zero_le _)).map _
  · exact frugal_readInteger
  · exact frugal_readFloatText.map _
  · exact frugal_readDouble.map _
  · exact frugal_readFloatText.andThen fun _ => frugal_readFloatText.map _
  · exact frugal_readDouble.andThen fun _ => frugal_readDouble.map _
  -- byte strings and texts
  · exact frugal_readLength_bind fun count => (frugal_take count).map Value.bytes
  · exact text
  · exact text
  · exact text
  · exact text
  · exact shortText
  · exact shortText
  -- containers
  · exact row .tuple
  · exact (frugal_readByte.mono (Nat.zero_le _)).andThen fun count =>
      ((frugal_readMany parts count).mono (Nat.zero_le _)).map Value.tuple
  · exact row .list
  · exact row .set
  · exact row .frozenset
  · have pairs := (frugal_readAllPairs parts).map fun pairs => Value.dict (Value.insertAll [] pairs)
    rwa [bind_assoc] at pairs
  · exact (frugal_readUnit (parts.mono (Nat.zero_le _)) version).map _
  · exact .fault _

/-! #### Numbered objects -/

theorem frugal_readReference : Frugal 0 readReference := by
  refine frugal_readWord.andThen fun word => ?_
  intro s v t done
  rw [get_bind] at done
  rcases found : s.refs[word.toNat]? with _ | _ | value <;> simp only [found] at done <;> cases done
  refine ⟨[], Nat.zero_le _, uses_nothing List.prefix_rfl (fun rest => ?_) rfl⟩
  simp only [get_bind, found]
  rfl

theorem frugal_reserve : Frugal 0 reserve := by
  rintro s _ _ ⟨⟩
  exact ⟨[], Nat.zero_le _, uses_nothing (List.prefix_append _ _) (fun _ => rfl) rfl⟩

theorem reserve_bind {next : Nat → StreamReader α} :
    (reserve >>= next) s = next s.refs.length { s with refs := s.refs ++ [none] } :=
  rfl

/-- Numbers given while an object is read come behind its own, which stands for nothing until then. -/
theorem set_reserved (refs behind : List (Option Value)) (v : Value) :
    (refs ++ [none] ++ behind).set refs.length (some v) = refs ++ some v :: behind := by
  rw [List.append_assoc, List.set_append_right _ _ (Nat.le_refl _), Nat.sub_self]
  rfl

/-- An object that is given a number: the numbers below it keep their objects. -/
theorem frugal_numbered {contents : StreamReader Value} (frugal : Frugal 0 contents) :
    Frugal 0 (do
      let number ← reserve
      let value ← contents
      finish number value
      return value) := by
  intro s v t done
  rw [reserve_bind] at done
  obtain ⟨value, inner, reads, done⟩ := UnitStore.exists_of_bind done
  obtain ⟨used, _, uses⟩ := frugal _ value inner reads
  obtain ⟨_, outer, finishes, done⟩ := UnitStore.exists_of_bind done
  cases finishes
  cases done
  refine ⟨used, Nat.zero_le _, uses.split, ?_, fun tail => ?_, fun cut front proper => ?_⟩
  · obtain ⟨behind, whole⟩ := uses.refs
    refine ⟨some v :: behind, ?_⟩
    dsimp only
    rw [← whole]
    exact (set_reserved s.refs behind v).symm
  · rw [reserve_bind, bind_of_ok (uses.again tail)]
    rfl
  · obtain ⟨cause, failed⟩ := uses.short cut front proper
    rw [reserve_bind]
    exact ⟨cause, bind_of_error failed⟩

theorem frugal_readWith (parts : Frugal 1 object) (version : Version) : Frugal 1 (readWith object version) := by
  refine frugal_readByte.andThen fun byte => ?_
  dsimp only
  refine .ite (.ite frugal_readReference (frugal_readContents parts version _)) ?_
  by_cases reference : Char.ofNat (byte % 128) = 'r'
  · simp only [reference, if_true]
    exact frugal_reserve.andThen fun _ => frugal_readReference
  · simp only [reference, if_false]
    exact frugal_numbered (frugal_readContents parts version _)

end Parts

theorem frugal_readObject (version : Version) (room : Nat) : Frugal 1 (readObject version room) := by
  induction room with
  | zero => exact .fault _
  | succ room ih => exact frugal_readWith ih version

end ObjectStream

/-! ### Artifacts -/

namespace Artifact

open ObjectStream (readObject maxDepth)

variable {data : List UInt8}

/-- Where the one object of an artifact ends, when there is one. -/
def streamEnd? (data : List UInt8) : Option StreamState :=
  match readVersion data with
  | .error _ => none
  | .ok version =>
    match readObject version maxDepth { rest := data.drop headerLength } with
    | .error _ => none
    | .ok (_, final) => some final

/-- How many bytes of an artifact are used up, with its header: all but those behind the object. -/
def consumed (data : List UInt8) : Nat :=
  match streamEnd? data with
  | none => 0
  | some final => data.length - final.rest.length

theorem streamEnd?_of_readObject {version : Version} {v : Value} {final : StreamState}
    (known : readVersion data = .ok version)
    (read : readObject version maxDepth { rest := data.drop headerLength } = .ok (v, final)) :
    streamEnd? data = some final := by
  simp only [streamEnd?, known, read]

/-- The version stands in the first four bytes. -/
theorem readVersion_append {header : List UInt8} (long : 4 ≤ header.length) (stream : List UInt8) :
    readVersion (header ++ stream) = readVersion header := by
  obtain ⟨a, b, c, d, rest, rfl⟩ : ∃ a b c d rest, header = a :: b :: c :: d :: rest := by
    rcases header with _ | ⟨a, _ | ⟨b, _ | ⟨c, _ | ⟨d, rest⟩⟩⟩⟩ <;> simp at long
    exact ⟨a, b, c, d, rest, rfl⟩
  by_cases ends : c = 13 ∧ d = 10
  · obtain ⟨rfl, rfl⟩ := ends
    rfl
  · simp only [List.cons_append, readVersion]
    split
    case h_1 whole => exact absurd (by simp_all) ends
    case h_2 =>
      split
      case h_1 whole => exact absurd (by simp_all) ends
      case h_2 => rfl

section Stream

variable {header stream used : List UInt8} {version : Version} {root : Nat} {final : StreamState}
  (long : header.length = headerLength) (known : readVersion header = .ok version)

include long known

/-- An artifact is read from the object stream behind its header. -/
theorem read_append (read : readObject version maxDepth { rest := stream } = .ok (.code root, final)) :
    Artifact.read (header ++ stream) = .ok ⟨version, final.units, root⟩ ∧
      consumed (header ++ stream) = (header ++ stream).length - final.rest.length := by
  have enough : ¬ (header ++ stream).length < headerLength := by
    rw [List.length_append]
    omega
  have behind : (header ++ stream).drop headerLength = stream := by rw [← long, List.drop_left]
  have versioned := (readVersion_append (by rw [long]; decide) stream).trans known
  have ends := streamEnd?_of_readObject versioned (behind.symm ▸ read)
  rw [Artifact.read, if_neg enough, versioned, behind, consumed, ends]
  simp only [readBody, StateT.run, read, and_self]

/-- An object stream that is not read gives a corrupt artifact. -/
theorem read_append_of_error {cause : StreamFault}
    (failed : readObject version maxDepth { rest := stream } = .error cause) :
    Artifact.read (header ++ stream) = .error (.corrupt (cause.text stream.length)) := by
  have enough : ¬ (header ++ stream).length < headerLength := by
    rw [List.length_append]
    omega
  have versioned := (readVersion_append (by rw [long]; decide) stream).trans known
  rw [Artifact.read, if_neg enough, versioned, ← long, List.drop_left]
  simp only [readBody, StateT.run, failed]

end Stream

/-- Too few bytes for a header. -/
theorem read_of_short (short : data.length < headerLength) : ∃ message, Artifact.read data = .error (.corrupt message) := by
  rw [Artifact.read, if_pos short]
  exact ⟨_, rfl⟩

/-- What an artifact is read as, and where reading it stops, depends on the bytes that are used up: others may follow,
    and none of them may be missing. -/
theorem read_of_consumed {m : CompiledModule} (done : Artifact.read data = .ok m) :
    headerLength < consumed data ∧ consumed data ≤ data.length ∧
    (∀ extra, Artifact.read (data.take (consumed data) ++ extra) = .ok m ∧
      consumed (data.take (consumed data) ++ extra) = consumed data) ∧
    (∀ shorter < consumed data, ∃ message, Artifact.read (data.take shorter) = .error (.corrupt message)) := by
  obtain ⟨long, version, root, final, known, read, rfl⟩ := exists_of_read done
  obtain ⟨header, stream, size, rfl⟩ : ∃ header stream, header.length = headerLength ∧ data = header ++ stream :=
    ⟨_, _, List.length_take_of_le long, (List.take_append_drop headerLength data).symm⟩
  rw [readVersion_append (by rw [size]; decide)] at known
  rw [← size, List.drop_left] at read
  obtain ⟨used, nonempty, uses⟩ := ObjectStream.frugal_readObject version maxDepth _ _ _ read
  have split : stream = used ++ final.rest := uses.split
  have stops : consumed (header ++ stream) = (header ++ used).length := by
    rw [(read_append size known read).2, split, ← List.append_assoc, List.length_append, Nat.add_sub_cancel]
  have front : (header ++ stream).take (consumed (header ++ stream)) = header ++ used := by
    rw [stops, split, ← List.append_assoc, List.take_left]
  rw [front, stops]
  refine ⟨?_, ?_, fun extra => ?_, fun shorter fewer => ?_⟩
  · rw [List.length_append, size]
    omega
  · rw [split, ← List.append_assoc]
    exact (List.prefix_append _ _).length_le
  · have again := read_append size known (uses.again extra)
    rw [List.append_assoc]
    refine ⟨again.1, again.2.trans ?_⟩
    rw [← List.append_assoc, List.length_append, Nat.add_sub_cancel]
  · by_cases inHeader : shorter < headerLength
    · refine read_of_short (Nat.lt_of_le_of_lt ?_ inHeader)
      exact List.length_take_le shorter _
    · -- some bytes of the object are there, and not all of them
      rw [List.length_append, size] at fewer
      have cut : (header ++ stream).take shorter = header ++ used.take (shorter - headerLength) := by
        rw [List.take_append, List.take_of_length_le (by omega), size, split,
          List.take_append_of_le_length (by omega)]
      have proper : used.take (shorter - headerLength) ≠ used := by
        intro whole
        have lengths := congrArg List.length whole
        rw [List.length_take] at lengths
        omega
      obtain ⟨cause, failed⟩ := uses.short _ (List.take_prefix _ _) proper
      rw [cut]
      exact ⟨_, read_append_of_error size known failed⟩

/-- Bytes behind the module body are not looked at. Without the last byte of the body the artifact is corrupt, and so
    it is with a header only. -/
theorem read_of_consumed_shared :
    consumed (sharedArtifact ++ [99, 0, 255]) = sharedArtifact.length ∧
    (∃ m, Artifact.read (sharedArtifact ++ [99, 0, 255]) = .ok m ∧ Artifact.read sharedArtifact = .ok m ∧
      Artifact.read (sharedArtifact ++ List.replicate 7 40) = .ok m) ∧
    (∃ message, Artifact.read (sharedArtifact.take (sharedArtifact.length - 1)) = .error (.corrupt message)) ∧
    (∃ message, Artifact.read (sharedArtifact.take headerLength) = .error (.corrupt message)) := by
  have stops : consumed (sharedArtifact ++ [99, 0, 255]) = sharedArtifact.length := by decide +kernel
  have accepted : (Artifact.read (sharedArtifact ++ [99, 0, 255])).toOption.map CompiledModule.root = some 1 := by
    decide +kernel
  obtain ⟨m, done, _⟩ := exists_of_toOption accepted
  obtain ⟨_, _, again, short⟩ := read_of_consumed done
  rw [stops, List.take_left] at again
  have shorter : ∀ count < sharedArtifact.length,
      ∃ message, Artifact.read (sharedArtifact.take count) = .error (.corrupt message) := by
    intro count fewer
    rw [← List.take_append_of_le_length (Nat.le_of_lt fewer)]
    exact short count (by rwa [stops])
  refine ⟨stops, ⟨m, done, ?_, (again _).1⟩, shorter _ (by decide +kernel), shorter _ (by decide +kernel)⟩
  have alone := (again []).1
  rwa [List.append_nil] at alone

end Artifact

end SourceRecovery
