import Mathlib.Algebra.Group.Nat.Defs
import SpinWait.Instruction.AddImmediate
import SpinWait.Proofs.Text.Trim

namespace SpinWait

/-! The immediate of `add x8, x8, #imm` as a word and as a text, said without the code that reads
it. -/

namespace AddImmediate

/-- The word adds this immediate: a field of twelve bits, in units of 1 or 4096. -/
def Encodes (word : Word) (immediate : Nat) : Prop :=
  ∃ field < 0x1000, ∃ shifted : Bool,
    word.val = base + field * 0x400 + (if shifted then 0x400000 else 0) ∧
      immediate = field * if shifted then 0x1000 else 1

theorem parts_of_val {word : Word} {field : Nat} {shifted : Bool} (small : field < 0x1000)
    (value : word.val = base + field * 0x400 + if shifted then 0x400000 else 0) :
    opcode word.val = opcode base ∧ immediateField word = field ∧
      shiftField word = if shifted then 1 else 0 := by
  unfold opcode immediateField shiftField
  cases shifted <;>
    simp only [Bool.false_eq_true, if_false, if_true, base, Prod.mk.injEq] at value ⊢ <;> omega

theorem val_of_opcode {word : Word} (add : opcode word.val = opcode base) :
    word.val = base + immediateField word * 0x400 +
      if decide (shiftField word = 1) then 0x400000 else 0 := by
  unfold immediateField shiftField
  simp only [opcode, base, Prod.mk.injEq, decide_eq_true_eq] at add ⊢
  split <;> omega

theorem decode?_eq_some_iff {word : Word} {immediate : Nat} :
    decode? word = some immediate ↔ Encodes word immediate := by
  rw [decode?, Option.ite_none_right_eq_some, Option.some.injEq]
  constructor
  · intro decoded
    obtain ⟨add, rfl⟩ := decoded
    refine ⟨immediateField word, Nat.mod_lt _ (by decide), decide (shiftField word = 1),
      val_of_opcode add, ?_⟩
    simp only [decide_eq_true_eq]
  · intro encodes
    obtain ⟨field, small, shifted, value, rfl⟩ := encodes
    obtain ⟨add, fieldEq, shiftEq⟩ := parts_of_val small value
    rw [add, fieldEq, shiftEq]
    cases shifted <;> exact ⟨rfl, rfl⟩

theorem decode?_eq_none_iff {word : Word} :
    decode? word = none ↔ ∀ immediate, ¬ Encodes word immediate := by
  simp only [Option.eq_none_iff_forall_ne_some, ne_eq, decode?_eq_some_iff]

end AddImmediate

/-! ### Digits -/

namespace Numeral

theorem lowerHexValue?_eq_some_iff {c : Char} {digit : Nat} :
    lowerHexValue? c = some digit ↔ digit < 16 ∧ c = Nat.digitChar digit := by
  constructor
  · intro read
    have decimals : ∀ n < 58, 48 ≤ n → Char.ofNat n = Nat.digitChar (n - 48) := by decide
    have letters : ∀ n < 103, 97 ≤ n → Char.ofNat n = Nat.digitChar (n - 87) := by decide
    simp only [lowerHexValue?, Bool.and_eq_true, decide_eq_true_eq, Char.le_def,
      UInt32.le_iff_toNat_le] at read
    rw [← Char.ofNat_toNat c]
    split at read
    case isTrue bounds =>
      obtain rfl := Option.some.inj read
      have lower : 48 ≤ c.toNat := bounds.1
      have upper : c.toNat ≤ 57 := bounds.2
      exact ⟨show c.toNat - 48 < 16 by omega, decimals c.toNat (by omega) lower⟩
    case isFalse =>
      split at read
      case isTrue bounds =>
        obtain rfl := Option.some.inj read
        have lower : 97 ≤ c.toNat := bounds.1
        have upper : c.toNat ≤ 102 := bounds.2
        refine ⟨show c.toNat - 97 + 10 < 16 by omega, ?_⟩
        rw [letters c.toNat (by omega) lower]
        congr 1
        change c.toNat - 87 = c.toNat - 97 + 10
        omega
      case isFalse => contradiction
  · intro shown
    obtain ⟨small, rfl⟩ := shown
    revert digit
    decide

section Reader

variable {read : Char → Option Nat} {base : Nat}
  (reads : ∀ c digit, read c = some digit ↔ digit < base ∧ c = Nat.digitChar digit)

include reads

/-- A reader of the digits of a base reads exactly their characters. -/
theorem mapM_eq_some_iff {chars : Text} {digits : List Nat} :
    chars.mapM read = some digits ↔
      chars = digits.map Nat.digitChar ∧ ∀ digit ∈ digits, digit < base := by
  induction chars generalizing digits with
  | nil => cases digits <;> simp
  | cons c others ih =>
    simp only [List.mapM_cons, Option.bind_eq_bind, Option.bind_eq_some_iff, reads, ih,
      Option.pure_def, Option.some.injEq]
    constructor
    · intro read
      obtain ⟨digit, ⟨small, rfl⟩, digits, ⟨rfl, smalls⟩, rfl⟩ := read
      simpa [small] using smalls
    · intro written
      obtain ⟨shape, smalls⟩ := written
      cases digits with
      | nil => simp at shape
      | cons digit digits =>
        rw [List.map_cons, List.cons.injEq] at shape
        rw [List.forall_mem_cons] at smalls
        exact ⟨digit, ⟨smalls.1, shape.1⟩, digits, ⟨shape.2, smalls.2⟩, rfl⟩

/-- Digits are read up to the first character that is none. -/
theorem takeWhile_digits {digits : List Nat} {rest : Text}
    (small : ∀ digit ∈ digits, digit < base) (ends : ∀ c ∈ rest.head?, read c = none) :
    (digits.map Nat.digitChar ++ rest).takeWhile (fun c => (read c).isSome) =
        digits.map Nat.digitChar ∧
      (digits.map Nat.digitChar ++ rest).dropWhile (fun c => (read c).isSome) = rest := by
  have all : ∀ c ∈ digits.map Nat.digitChar, (read c).isSome = true := by
    intro c member
    obtain ⟨digit, among, rfl⟩ := List.mem_map.mp member
    rw [(reads _ digit).mpr ⟨small digit among, rfl⟩, Option.isSome_some]
  have boundary : ∀ c ∈ rest.head?, (read c).isSome = false :=
    fun c first => Option.isSome_eq_false_iff.mpr (Option.isNone_iff_eq_none.mpr (ends c first))
  exact ⟨takeWhile_append_of_boundary all boundary, dropWhile_append_of_boundary all boundary⟩

end Reader

end Numeral

namespace AddImmediate

theorem decimalValue?_eq_some_iff {c : Char} {digit : Nat} :
    decimalValue? c = some digit ↔ digit < 10 ∧ c = Nat.digitChar digit := by
  constructor
  · intro read
    have decimals : ∀ n < 58, 48 ≤ n → Char.ofNat n = Nat.digitChar (n - 48) := by decide
    simp only [decimalValue?, Bool.and_eq_true, decide_eq_true_eq, Char.le_def,
      UInt32.le_iff_toNat_le] at read
    rw [← Char.ofNat_toNat c]
    split at read
    case isTrue bounds =>
      obtain rfl := Option.some.inj read
      have lower : 48 ≤ c.toNat := bounds.1
      have upper : c.toNat ≤ 57 := bounds.2
      exact ⟨show c.toNat - 48 < 10 by omega, decimals c.toNat (by omega) lower⟩
    case isFalse => contradiction
  · intro shown
    obtain ⟨small, rfl⟩ := shown
    revert digit
    decide

/-! ### Immediates as text -/

def unitText (shifted : Bool) : Text := if shifted then ", lsl #12".toList else []

/-- A last line feed, or nothing. -/
def feedText (fed : Bool) : Text := if fed then ['\n'] else []

theorem unit?_eq_some_iff {text : Text} {shifted : Bool} :
    unit? text = some shifted ↔ ∃ fed, text = unitText shifted ++ feedText fed := by
  have whole : ", lsl #12\n".toList = ", lsl #12".toList ++ ['\n'] := rfl
  rw [Bool.exists_bool, unit?, whole]
  constructor
  · intro found
    split at found
    case isTrue plain =>
      obtain rfl := Option.some.inj found
      simpa [unitText, feedText] using plain
    case isFalse =>
      obtain ⟨unit, value⟩ := Option.ite_none_right_eq_some.mp found
      obtain rfl := Option.some.inj value
      simpa [unitText, feedText] using unit
  · intro shown
    cases shifted <;> rcases shown with rfl | rfl <;> rfl

/-- What may stand behind a number without being taken for a part of it. -/
def Ends (rest : Text) : Prop := ∀ c ∈ rest.head?, Numeral.lowerHexValue? c = none ∧ c ≠ 'x'

theorem ends_unitText (shifted : Bool) {rest : Text} (ends : Ends rest) :
    Ends (unitText shifted ++ rest) := by
  cases shifted with
  | false => exact ends
  | true =>
    intro c first
    obtain rfl : ',' = c := Option.some.inj first
    decide

theorem ends_feedText (fed : Bool) : Ends (feedText fed) := by
  intro c first
  cases fed with
  | false => cases first
  | true =>
    obtain rfl : '\n' = c := Option.some.inj first
    decide

/-- A character that is no hexadecimal digit is no decimal one. -/
theorem decimalValue?_eq_none {c : Char} (other : Numeral.lowerHexValue? c = none) :
    decimalValue? c = none := by
  rw [Option.eq_none_iff_forall_ne_some] at other ⊢
  intro digit read
  obtain ⟨small, rfl⟩ := decimalValue?_eq_some_iff.mp read
  exact other digit (Numeral.lowerHexValue?_eq_some_iff.mpr ⟨by omega, rfl⟩)

namespace Written

/-- The immediate without its unit. -/
def number (immediate : Written) : Text :=
  (if immediate.base = 16 then "0x".toList else []) ++ immediate.digits.map Nat.digitChar

/-- The immediate as a disassembler writes it. -/
def text (immediate : Written) : Text :=
  (if immediate.base = 16 then "0x".toList else []) ++ immediate.digits.map Nat.digitChar ++
    unitText immediate.shifted

/-- The immediate has digits and they are those of its base, which is 16 or 10. In base 10 there is
no leading zero. -/
structure WellFormed (immediate : Written) : Prop where
  nonempty : immediate.digits ≠ []
  small : ∀ digit ∈ immediate.digits, digit < immediate.base
  known : immediate.base = 16 ∨
    immediate.base = 10 ∧ (immediate.digits.head? = some 0 → immediate.digits = [0])

end Written

/-- What the readers of both bases have in common: the digits, then the unit. -/
theorem digits_of_read {read : Char → Option Nat} {base : Nat} {chars : Text}
    {digits : List Nat} {shifted : Bool}
    (reads : ∀ c digit, read c = some digit ↔ digit < base ∧ c = Nat.digitChar digit)
    (found : (chars.takeWhile fun c => (read c).isSome).mapM read = some digits)
    (unit : unit? (chars.dropWhile fun c => (read c).isSome) = some shifted) :
    (∃ fed, chars = digits.map Nat.digitChar ++ unitText shifted ++ feedText fed) ∧
      ∀ digit ∈ digits, digit < base := by
  obtain ⟨shape, small⟩ := (Numeral.mapM_eq_some_iff reads).mp found
  obtain ⟨fed, behind⟩ := unit?_eq_some_iff.mp unit
  refine ⟨⟨fed, ?_⟩, small⟩
  rw [← shape, List.append_assoc, ← behind, List.takeWhile_append_dropWhile]

theorem read_of_digits {read : Char → Option Nat} {base : Nat} {digits : List Nat} {rest : Text}
    (reads : ∀ c digit, read c = some digit ↔ digit < base ∧ c = Nat.digitChar digit)
    (small : ∀ digit ∈ digits, digit < base) (ends : ∀ c ∈ rest.head?, read c = none) :
    ((digits.map Nat.digitChar ++ rest).takeWhile fun c => (read c).isSome).mapM read =
        some digits ∧
      (digits.map Nat.digitChar ++ rest).dropWhile (fun c => (read c).isSome) = rest := by
  obtain ⟨taken, left⟩ := Numeral.takeWhile_digits reads small ends
  rw [taken, left]
  exact ⟨(Numeral.mapM_eq_some_iff reads).mpr ⟨rfl, small⟩, rfl⟩

theorem written?_sound {text : Text} {immediate : Written}
    (found : written? text = some immediate) :
    immediate.WellFormed ∧ ∃ fed, text = immediate.text ++ feedText fed := by
  unfold written? at found
  split at found
  case h_1 rest =>
    simp only [Option.bind_eq_bind, Option.bind_eq_some_iff, Option.ite_none_left_eq_some,
      Option.some.injEq, List.isEmpty_iff] at found
    obtain ⟨digits, read, shifted, unit, nonempty, rfl⟩ := found
    obtain ⟨⟨fed, rfl⟩, small⟩ :=
      digits_of_read (fun _ _ => Numeral.lowerHexValue?_eq_some_iff) read unit
    exact ⟨⟨nonempty, small, .inl rfl⟩, fed, rfl⟩
  case h_2 rest _ =>
    simp only [Option.bind_eq_bind, Option.bind_eq_some_iff, Option.some.injEq,
      unit?_eq_some_iff] at found
    obtain ⟨shifted, ⟨fed, rfl⟩, rfl⟩ := found
    exact ⟨⟨List.cons_ne_nil _ _, by simp, .inr ⟨rfl, fun _ => rfl⟩⟩, fed, rfl⟩
  case h_3 _ noZero =>
    simp only [Option.bind_eq_bind, Option.bind_eq_some_iff, Option.ite_none_left_eq_some,
      Option.some.injEq, List.isEmpty_iff] at found
    obtain ⟨digits, read, shifted, unit, nonempty, rfl⟩ := found
    obtain ⟨⟨fed, rfl⟩, small⟩ := digits_of_read (fun _ _ => decimalValue?_eq_some_iff) read unit
    refine ⟨⟨nonempty, small, .inr ⟨rfl, fun zero => ?_⟩⟩, fed, rfl⟩
    cases digits with
    | nil => contradiction
    | cons digit others =>
      obtain rfl := Option.some.inj zero
      exact absurd rfl (noZero (others.map Nat.digitChar ++ unitText shifted ++ feedText fed))

/-- Behind the digits of a number, the unit decides. -/
theorem written?_number_append {immediate : Written} {rest : Text}
    (wellFormed : immediate.WellFormed) (ends : Ends rest) :
    written? (immediate.number ++ rest) =
      (unit? rest).map fun shifted => ⟨immediate.base, immediate.digits, shifted⟩ := by
  obtain ⟨base, digits, unit⟩ := immediate
  obtain ⟨nonempty, small, rfl | ⟨rfl, leading⟩⟩ := wellFormed
  · obtain ⟨read, left⟩ := read_of_digits (fun _ _ => Numeral.lowerHexValue?_eq_some_iff) small
      fun c (first : c ∈ rest.head?) => (ends c first).1
    have notEmpty : digits.isEmpty = false := List.isEmpty_eq_false_iff.mpr nonempty
    change written? ('0' :: 'x' :: (digits.map Nat.digitChar ++ rest)) = _
    simp only [written?, read, left, notEmpty, Option.bind_eq_bind, Option.bind_some,
      Bool.false_eq_true, if_false]
    cases unit? rest <;> rfl
  · obtain ⟨read, left⟩ := read_of_digits (fun _ _ => decimalValue?_eq_some_iff) small
      fun c (first : c ∈ rest.head?) => decimalValue?_eq_none (ends c first).1
    change written? (digits.map Nat.digitChar ++ rest) = _
    cases digits with
    | nil => contradiction
    | cons digit others =>
      by_cases zero : digit = 0
      · obtain ⟨rfl⟩ : others = [] := by simpa [zero] using leading (by rw [zero]; rfl)
        subst zero
        change written? ('0' :: rest) = _
        rw [written?]
        · cases unit? rest <;> rfl
        · rintro more rfl
          exact (ends 'x' rfl).2 rfl
      · have others : ∀ digit < 10, digit ≠ 0 → Nat.digitChar digit ≠ '0' := by decide
        have notZero := others digit (small digit List.mem_cons_self) zero
        rw [List.map_cons, List.cons_append] at read left ⊢
        rw [written?]
        · simp only [read, left, Option.bind_eq_bind, Option.bind_some]
          cases unit? rest <;> rfl
        · simp [notZero]
        · simp [notZero]

theorem written?_complete {immediate : Written} (wellFormed : immediate.WellFormed) (fed : Bool) :
    written? (immediate.text ++ feedText fed) = some immediate := by
  have behind : unit? (unitText immediate.shifted ++ feedText fed) = some immediate.shifted :=
    unit?_eq_some_iff.mpr ⟨fed, rfl⟩
  have shape : immediate.text = immediate.number ++ unitText immediate.shifted := rfl
  rw [shape, List.append_assoc,
    written?_number_append wellFormed (ends_unitText _ (ends_feedText fed)), behind]
  rfl

theorem written?_eq_some_iff {text : Text} {immediate : Written} :
    written? text = some immediate ↔
      immediate.WellFormed ∧ ∃ fed, text = immediate.text ++ feedText fed :=
  ⟨written?_sound, fun ⟨wellFormed, fed, shape⟩ => shape ▸ written?_complete wellFormed fed⟩

/-! ### Short immediates -/

theorem le_foldl_digits (value : Nat) (digits : List Nat) :
    value * 10 ^ digits.length ≤
      digits.foldl (fun value digit => value * 10 + digit) value := by
  induction digits generalizing value with
  | nil => simp
  | cons digit digits ih =>
    calc value * 10 ^ (digits.length + 1)
        = value * 10 * 10 ^ digits.length := by rw [Nat.pow_succ', Nat.mul_assoc]
      _ ≤ (value * 10 + digit) * 10 ^ digits.length := Nat.mul_le_mul_right _ (Nat.le_add_right _ _)
      _ ≤ _ := ih (value * 10 + digit)

/-- A numeral without a leading zero that stands for a delay has few digits. -/
theorem Written.isReadable_of_value_le {immediate : Written} (wellFormed : immediate.WellFormed)
    (fits : immediate.value ≤ maxDelay) : immediate.isReadable = true := by
  obtain ⟨base, digits, shifted⟩ := immediate
  obtain ⟨nonempty, _, rfl | ⟨rfl, leading⟩⟩ := wellFormed
  · rfl
  · suffices short : digits.length ≤ Numeral.maxDigits by
      simpa [isReadable] using short
    have unit : 1 ≤ if shifted = true then 0x1000 else 1 := by split <;> decide
    have number : Numeral.ofDigits 10 digits ≤ maxDelay :=
      Nat.le_trans (Nat.le_mul_of_pos_right _ unit) fits
    cases digits with
    | nil => exact Nat.zero_le _
    | cons first others =>
      by_cases zero : first = 0
      · have single : first :: others = [0] := leading (by rw [zero]; rfl)
        rw [single]
        decide
      · have least : first * 10 ^ others.length ≤ Numeral.ofDigits 10 (first :: others) := by
          have folded := le_foldl_digits (0 * 10 + first) others
          simpa [Numeral.ofDigits] using folded
        have power : 10 ^ others.length ≤ maxDelay :=
          calc 10 ^ others.length
              ≤ first * 10 ^ others.length := Nat.le_mul_of_pos_left _ (Nat.pos_of_ne_zero zero)
            _ ≤ maxDelay := Nat.le_trans least number
        have few : others.length < 4 := by
          refine Nat.lt_of_not_le fun many => ?_
          have : 10 ^ 4 ≤ 10 ^ others.length := Nat.pow_le_pow_right (by decide) many
          exact absurd (Nat.le_trans this power) (by decide)
        have : (first :: others).length ≤ 4 := few
        exact Nat.le_trans this (by decide)

/-- The whole instruction in its normal form. -/
def mnemonic (immediate : Written) : Text := mnemonicStart ++ immediate.text

theorem ofMnemonic?_eq_some_iff {instruction : Text} {immediate : Written} :
    ofMnemonic? instruction = some immediate ↔
      immediate.WellFormed ∧ ∃ fed, instruction = mnemonic immediate ++ feedText fed := by
  rw [ofMnemonic?, Option.ite_none_right_eq_some, written?_eq_some_iff, List.isPrefixOf_iff_prefix]
  constructor
  · intro read
    obtain ⟨⟨rest, rfl⟩, wellFormed, fed, shape⟩ := read
    rw [List.drop_left] at shape
    exact ⟨wellFormed, fed, by rw [shape, mnemonic, List.append_assoc]⟩
  · intro shown
    obtain ⟨wellFormed, fed, rfl⟩ := shown
    rw [mnemonic, List.append_assoc, List.drop_left]
    exact ⟨List.prefix_append _ _, wellFormed, fed, rfl⟩

theorem ofMnemonic?_mnemonic {immediate : Written} (wellFormed : immediate.WellFormed) :
    ofMnemonic? (mnemonic immediate) = some immediate :=
  ofMnemonic?_eq_some_iff.mpr ⟨wellFormed, false, (List.append_nil _).symm⟩

/-- Without white space at its end an instruction has no line feed to be overlooked. -/
theorem eq_mnemonic_of_isTrimmed {instruction : Text} {immediate : Written}
    (trimmed : Text.IsTrimmed instruction) (read : ofMnemonic? instruction = some immediate) :
    immediate.WellFormed ∧ instruction = mnemonic immediate := by
  obtain ⟨wellFormed, fed, shape⟩ := ofMnemonic?_eq_some_iff.mp read
  cases fed with
  | false => exact ⟨wellFormed, shape.trans (List.append_nil _)⟩
  | true =>
    obtain ⟨c, last, visible⟩ := trimmed.last
    have feed : instruction.getLast? = some '\n' := by
      rw [shape]
      exact List.getLast?_concat
    obtain rfl : '\n' = c := Option.some.inj (feed.symm.trans last)
    exact absurd visible (by decide)

end AddImmediate

end SpinWait
