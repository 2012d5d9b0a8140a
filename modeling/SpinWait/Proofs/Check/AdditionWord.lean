import SpinWait.Proofs.Check.Answer
import SpinWait.Proofs.Instruction.Spelling

namespace SpinWait

open Log

/-! The words that add a delay, and the images among which the first slot behind the cycle counter
finds it. -/

namespace AddImmediate

variable {n : Int} {word : Word} {delay immediate : Nat}

/-- Modulo 2^32 the number is `add x8, x8, #0` with these two fields filled in. -/
def HasFields (n : Int) (field unit : Nat) : Prop :=
  field < 4096 ∧ unit < 2 ∧ n % 2 ^ 32 = 0x91000108 + field * 2 ^ 10 + unit * 2 ^ 22

theorem encodes_ofInt_iff : Encodes (Word.ofInt n) immediate ↔ ∃ field unit,
    HasFields n field unit ∧ immediate = if unit = 0 then field else 4096 * field := by
  have value := Word.val_ofInt n
  constructor
  · intro encodes
    obtain ⟨field, small, shifted, parts, rfl⟩ := encodes
    rw [base] at parts
    cases shifted with
    | false =>
      refine ⟨field, 0, ⟨small, by decide, ?_⟩, by simp⟩
      simp only [Bool.false_eq_true, if_false] at parts
      omega
    | true =>
      refine ⟨field, 1, ⟨small, by decide, ?_⟩, by simp [Nat.mul_comm]⟩
      simp only [if_true] at parts
      omega
  · intro shown
    obtain ⟨field, unit, ⟨small, flag, parts⟩, rfl⟩ := shown
    refine ⟨field, small, decide (unit = 1), ?_, ?_⟩
    · rw [base]
      simp only [decide_eq_true_eq]
      split <;> omega
    · simp only [decide_eq_true_eq]
      split <;> split <;> omega

/-- The two fields apart, a word keeps the bits above them and the bits below. -/
theorem and_mask (word : Word) :
    word.val &&& 0xFF8003FF = word.val / 2 ^ 23 * 2 ^ 23 + word.val % 2 ^ 10 := by
  -- The mask has ten ones, thirteen zeros for the fields and nine ones.
  have low : (word.val &&& 0xFF8003FF) % 2 ^ 10 = word.val % 2 ^ 10 := by
    rw [Nat.and_mod_two_pow]
    change word.val % 2 ^ 10 &&& (2 ^ 10 - 1) = _
    rw [Nat.and_two_pow_sub_one_eq_mod, Nat.mod_mod]
  have middle : (word.val &&& 0xFF8003FF) / 2 ^ 10 % 2 ^ 13 = 0 := by
    rw [Nat.and_div_two_pow, Nat.and_mod_two_pow]
    exact Nat.and_zero _
  have high : (word.val &&& 0xFF8003FF) / 2 ^ 23 = word.val / 2 ^ 23 := by
    rw [Nat.and_div_two_pow]
    change word.val / 2 ^ 23 &&& (2 ^ 9 - 1) = _
    rw [Nat.and_two_pow_sub_one_eq_mod]
    omega
  omega

theorem exists_encodes_iff : (∃ immediate, Encodes word immediate) ↔
    word.val &&& 0xFF8003FF = base := by
  have decoded : (∃ immediate, decode? word = some immediate) ↔ opcode word.val = opcode base := by
    simp [decode?]
  simp only [← decode?_eq_some_iff, decoded, and_mask, opcode, base, Prod.mk.injEq]
  omega

theorem decode_eq_ok_iff : decode word = .ok immediate ↔ Encodes word immediate := by
  constructor
  · intro decoded
    by_cases encodes : ∃ other, Encodes word other
    · obtain ⟨other, encodes⟩ := encodes
      rw [decode_eq_ok encodes] at decoded
      exact Except.ok.inj decoded ▸ encodes
    · rw [decode_eq_error (not_exists.mp encodes)] at decoded
      cases decoded
  · exact decode_eq_ok

/-- The words whose immediate is a delay. Nothing can be added in either unit. -/
def additionWords (delay : Nat) : List Word :=
  if delay = 0 then [Word.ofInt 0x91000108, Word.ofInt 0x91400108] else [Word.ofInt (encode delay)]

theorem val_eq_encode (encodes : Encodes word delay) (positive : 0 < delay)
    (fits : delay ≤ maxDelay) : word.val = encode delay := by
  obtain ⟨field, small, shifted, parts, rfl⟩ := encodes
  rw [maxDelay] at fits
  cases shifted with
  | false =>
    simp only [Bool.false_eq_true, if_false, Nat.mul_one] at parts ⊢
    rw [encode, if_pos small, parts, Nat.add_zero]
  | true =>
    -- In units of 4096 the only delay there is left is one unit, as the encoder has it.
    simp only [if_true] at parts positive fits ⊢
    obtain rfl : field = 1 := by omega
    rw [parts]
    rfl

theorem encodes_zero_iff : Encodes word 0 ↔
    word = Word.ofInt 0x91000108 ∨ word = Word.ofInt 0x91400108 := by
  constructor
  · intro encodes
    obtain ⟨field, small, shifted, parts, zero⟩ := encodes
    cases shifted with
    | false =>
      obtain rfl : field = 0 := by simpa using zero.symm
      exact .inl (Fin.ext parts)
    | true =>
      obtain rfl : field = 0 := by simpa using zero.symm
      exact .inr (Fin.ext parts)
  · intro either
    rcases either with rfl | rfl
    · exact ⟨0, by decide, false, rfl, rfl⟩
    · exact ⟨0, by decide, true, rfl, rfl⟩

theorem encodes_iff_mem (fits : delay ≤ maxDelay) :
    Encodes word delay ↔ word ∈ additionWords delay := by
  rcases Nat.eq_zero_or_pos delay with rfl | positive
  · simp only [encodes_zero_iff, additionWords, if_true, List.mem_cons, List.not_mem_nil, or_false]
  · rw [additionWords, if_neg (Nat.ne_of_gt positive), List.mem_singleton]
    have encoded := encodes_encode fits
    constructor
    · intro encodes
      apply Fin.ext
      rw [val_eq_encode encodes positive fits, val_eq_encode encoded positive fits]
    · rintro rfl
      exact encoded

end AddImmediate

namespace Check

variable {lines tokens : List Text} {markers : Markers} {delay position : Nat} {spin : Hint}
  {token : Text} {word : Word}

def additionImages (delay : Nat) : List Text := (AddImmediate.additionWords delay).map Word.image

theorem ofImage_eq_ok_iff_image (small : token.map Char.toLower = token) :
    Word.ofImage token = .ok word ↔ token = word.image := by
  constructor
  · intro read
    obtain ⟨bytes, shows, value⟩ := Word.ofImage_eq_ok_iff.mp read
    rw [Word.image_eq_map_toLower shows value, small]
  · rintro rfl
    exact Word.ofImage_image word

theorem adds_iff_mem_images (small : token.map Char.toLower = token)
    (fits : delay ≤ AddImmediate.maxDelay) :
    Adds .hex token delay ↔ token ∈ additionImages delay := by
  rw [adds_hex_iff, additionImages, List.mem_map]
  constructor
  · intro adds
    obtain ⟨word, read, encodes⟩ := adds
    exact ⟨word, (AddImmediate.encodes_iff_mem fits).mp encodes,
      ((ofImage_eq_ok_iff_image small).mp read).symm⟩
  · intro shown
    obtain ⟨word, member, rfl⟩ := shown
    exact ⟨word, Word.ofImage_image word, (AddImmediate.encodes_iff_mem fits).mpr member⟩

theorem accepts_add_hex_iff : accepts .hex delay spin .add token = .ok true ↔
    Adds .hex token delay := by
  constructor
  · intro accepted
    rcases slot_cases .hex delay spin .add (some token) with ⟨_, ⟨⟩, adds⟩ | ⟨stop, stops⟩
    · exact adds
    · cases stops with
      | differs differs read =>
        have words : Layout.hex = .mnemonic → Text.IsTrimmed token := nofun
        rw [accepts_eq_false words differs read] at accepted
        cases accepted
      | malformed unread =>
        rw [accepts_eq_malformed unread] at accepted
        cases accepted
      | oversized unread => cases unread
  · intro adds
    have holds : Slot.add.Holds .hex delay spin token := adds
    exact accepts_eq_true holds

/-- What is no addition of the delay ends the walk at the first slot. -/
theorem matchSlots_outcome_of_not_adds (differs : ¬ Adds .hex token delay) (rest : List Text) :
    ∃ cause, (matchSlots .hex delay spin Slot.all (token :: rest)).outcome =
      .error (.fault (Slot.add.mismatch delay spin token) cause) := by
  rcases slot_cases .hex delay spin .add (some token) with ⟨_, ⟨⟩, adds⟩ | ⟨stop, stops⟩
  · exact absurd adds differs
  · have words : Layout.hex = .mnemonic → ∀ other ∈ token :: rest, Text.IsTrimmed other := nofun
    have outcome : (matchSlots .hex delay spin Slot.all (token :: rest)).outcome = .error stop :=
      matchSlots_outcome_of_stops words stops
    cases stops with
    | differs => exact ⟨none, outcome⟩
    | malformed => exact ⟨_, outcome⟩
    | oversized unread => cases unread

theorem counter_outcome_ne_of_adds {layout : Layout}
    (method : MethodTokens lines markers layout tokens)
    (first : FirstAt tokens (anchor layout) position) (found : tokens[position + 1]? = some token)
    (adds : Adds layout token delay) (cause : Option Fault) :
    (counter lines markers delay spin).outcome ≠
      .error (.fault (Slot.add.mismatch delay spin token) cause) := by
  intro outcome
  obtain ⟨verdict, decided⟩ := exists_counterVerdict lines markers delay spin
  rw [decided.outcome_eq] at outcome
  generalize reported : Slot.add.mismatch delay spin token = fault at outcome
  subst outcome
  cases decided with
  | methodMissing => cases reported
  | anchorMissing => cases reported
  | @stops _ _ _ slot _ otherMethod otherFirst earlier stops =>
    obtain ⟨rfl, rfl⟩ := method.unique otherMethod
    obtain rfl := first.unique otherFirst
    -- The report names its slot, so the slot that stops is the addition's.
    obtain ⟨actual, shown⟩ := stops.exists_mismatch
    obtain rfl : slot = .add := (Slot.eq_of_mismatch (reported.trans shown)).symm
    have here : tokens[position + Slot.add.number]? = some token := found
    rw [here] at stops
    cases stops with
    | differs differs => exact differs adds
    | malformed unread => exact adds.not_unread _ unread

/-- Modulo 2^32, the instruction is read from the words with its two fields and from no others. With
a delay, the first slot behind the cycle counter accepts the images of the words that add it; what
stands there instead is reported, whatever text it is. -/
theorem addition_word_exact (n : Int) (delay : Nat) (spin : Hint)
    (fits : delay ≤ AddImmediate.maxDelay) :
    ((∀ immediate, AddImmediate.decode (Word.ofInt n) = .ok immediate ↔
        ∃ field unit, AddImmediate.HasFields n field unit ∧
          immediate = if unit = 0 then field else 4096 * field) ∧
      ((¬ ∃ field unit, AddImmediate.HasFields n field unit) →
        AddImmediate.decode (Word.ofInt n) = .error (.fault
          (.malformedHex (.text (Word.ofInt n).image) (.text AddImmediate.defect)) none)) ∧
      ((∃ immediate, AddImmediate.decode (Word.ofInt n) = .ok immediate) ↔
        (Word.ofInt n).val &&& 0xFF8003FF = AddImmediate.base)) ∧
    ((∀ token : Text, token.map Char.toLower = token →
        (accepts .hex delay spin .add token = .ok true ↔ token ∈ additionImages delay)) ∧
      (∀ (token : Text) (rest : List Text), accepts .hex delay spin .add token ≠ .ok true →
        ∃ cause, (matchSlots .hex delay spin Slot.all (token :: rest)).outcome =
          .error (.fault (Slot.add.mismatch delay spin token) cause)) ∧
      ∀ (lines tokens : List Text) (markers : Markers) (position : Nat) (token : Text),
        MethodTokens lines markers .hex tokens → FirstAt tokens (anchor .hex) position →
          tokens[position + 1]? = some token →
            ((∃ cause, (counter lines markers delay spin).outcome =
                .error (.fault (Slot.add.mismatch delay spin token) cause)) ↔
              token ∉ additionImages delay)) := by
  refine ⟨⟨?_, ?_, ?_⟩, ?_, ?_, ?_⟩
  · intro immediate
    rw [AddImmediate.decode_eq_ok_iff, AddImmediate.encodes_ofInt_iff]
  · intro other
    refine AddImmediate.decode_eq_error fun immediate encodes => other ?_
    obtain ⟨field, unit, fields, _⟩ := AddImmediate.encodes_ofInt_iff.mp encodes
    exact ⟨field, unit, fields⟩
  · simp only [AddImmediate.decode_eq_ok_iff, AddImmediate.exists_encodes_iff]
  · intro token small
    rw [accepts_add_hex_iff, adds_iff_mem_images small fits]
  · intro token rest refused
    exact matchSlots_outcome_of_not_adds (fun adds => refused (accepts_add_hex_iff.mpr adds)) rest
  · intro lines tokens markers position token method first found
    have small : token.map Char.toLower = token := by
      obtain ⟨line, _, shows⟩ := method.exists_line (List.mem_of_getElem? found)
      exact map_toLower_of_mem_tokenize shows
    rw [← adds_iff_mem_images small fits]
    constructor
    · intro reported adds
      obtain ⟨cause, outcome⟩ := reported
      exact counter_outcome_ne_of_adds method first found adds cause outcome
    · intro differs
      exact (counter_mismatch_iff method first found differs).mpr nofun

/-- A method that adds nothing in units of 4096. -/
def nothingShifted : List Text := ["Launcher".toList, "0x7f: 48E0 3BD5 | 0801 4091".toList]

theorem nothingShifted_accepted :
    AddImmediate.decode (Word.ofInt (-0x6EBFFEF8)) = .ok 0 ∧
      accepts .hex 0 .yield .add "0801 4091".toList = .ok true ∧
      (∀ cause, (counter nothingShifted ⟨[], "Launcher".toList, [], [], []⟩ 0 .yield).outcome ≠
        .error (.fault (Slot.add.mismatch 0 .yield "0801 4091".toList) cause)) ∧
      ∃ cause, (counter nothingShifted ⟨[], "Launcher".toList, [], [], []⟩ 4096 .yield).outcome =
        .error (.fault (Slot.add.mismatch 4096 .yield "0801 4091".toList) cause) := by
  have body : MethodBody
      ([] ++ "Launcher".toList :: (["0x7f: 48E0 3BD5 | 0801 4091".toList] ++ []))
      ⟨[], "Launcher".toList, [], [], []⟩ 0 ["0x7f: 48E0 3BD5 | 0801 4091".toList] :=
    .of_split nofun List.infix_rfl (fun _ _ => rfl) nofun
  have method : MethodTokens nothingShifted ⟨[], "Launcher".toList, [], [], []⟩ .hex
      ["48e0 3bd5".toList, "0801 4091".toList] := by
    have shown := MethodTokens.of_body body
    have layout : Layout.detect ["0x7f: 48E0 3BD5 | 0801 4091".toList] = .hex := by decide
    have words : tokenizeAll .hex ["0x7f: 48E0 3BD5 | 0801 4091".toList] =
        ["48e0 3bd5".toList, "0801 4091".toList] := by decide +kernel
    rwa [layout, words] at shown
  have first : FirstAt ["48e0 3bd5".toList, "0801 4091".toList] (anchor .hex) 0 :=
    ⟨rfl, fun earlier lower => absurd lower (Nat.not_lt_zero _)⟩
  have among : "0801 4091".toList ∈ additionImages 0 := by decide +kernel
  have apart : "0801 4091".toList ∉ additionImages 4096 := by decide +kernel
  obtain ⟨⟨decodes, _, _⟩, accepted, _, reported⟩ :=
    addition_word_exact (-0x6EBFFEF8) 0 .yield (by decide)
  obtain ⟨_, _, _, otherReported⟩ := addition_word_exact (-0x6EBFFEF8) 4096 .yield (by decide)
  refine ⟨(decodes 0).mpr ⟨0, 1, ⟨by decide, by decide, by decide⟩, rfl⟩,
    (accepted _ (by decide)).mpr among, ?_, (otherReported _ _ _ _ _ method first rfl).mpr apart⟩
  intro cause outcome
  exact (reported _ _ _ _ _ method first rfl).mp ⟨cause, outcome⟩ among

end Check

end SpinWait
