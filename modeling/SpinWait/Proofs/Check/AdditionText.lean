import SpinWait.Proofs.Check.Slot
import SpinWait.Proofs.Log.Addition
import SpinWait.Proofs.Log.Token
import SpinWait.Proofs.Text.Numeral

namespace SpinWait

open Log

/-! The grammar of additions in mnemonic form, and the values of its numerals. It is stated here
without the reader, which is then shown to accept it and nothing else. -/

namespace AddImmediate

variable {text rest token : Text} {value n base : Nat} {c : Char}

/-- A hexadecimal numeral behind `0x`, which may begin with zeros, or a decimal one without. -/
inductive IsNumeral : Text → Nat → Prop
  | hexadecimal {digits : List Nat} (nonempty : digits ≠ [])
      (small : ∀ digit ∈ digits, digit < 16) :
      IsNumeral ("0x".toList ++ digits.map Nat.digitChar) (Nat.ofDigits 16 digits.reverse)
  | zero : IsNumeral "0".toList 0
  | decimal {first : Nat} {others : List Nat} (positive : 0 < first)
      (small : ∀ digit ∈ first :: others, digit < 10) :
      IsNumeral ((first :: others).map Nat.digitChar) (Nat.ofDigits 10 (first :: others).reverse)

/-- The number is added as it is, or in units of 4096. -/
inductive IsAddition : Text → Nat → Prop
  | plain {numeral : Text} {n : Nat} (shows : IsNumeral numeral n) :
      IsAddition ("add x8, x8, #".toList ++ numeral) n
  | shifted {numeral : Text} {n : Nat} (shows : IsNumeral numeral n) :
      IsAddition ("add x8, x8, #".toList ++ numeral ++ ", lsl #12".toList) (n * 4096)

/-! ### The grammar and what is read -/

theorem IsNumeral.exists_written (numeral : IsNumeral text n) (shifted : Bool) :
    ∃ immediate : Written, immediate.WellFormed ∧ immediate.number = text ∧
      Numeral.ofDigits immediate.base immediate.digits = n ∧ immediate.shifted = shifted := by
  cases numeral with
  | @hexadecimal digits nonempty small =>
    exact ⟨⟨16, digits, shifted⟩, ⟨nonempty, small, .inl rfl⟩, rfl,
      Numeral.ofDigits_eq_ofDigits_reverse 16 digits, rfl⟩
  | zero =>
    exact ⟨⟨10, [0], shifted⟩, ⟨List.cons_ne_nil _ _, by simp, .inr ⟨rfl, fun _ => rfl⟩⟩, rfl, rfl,
      rfl⟩
  | @decimal first others positive small =>
    have leading : (first :: others).head? = some 0 → first :: others = [0] := fun zero =>
      absurd (Option.some.inj zero) (Nat.ne_of_gt positive)
    exact ⟨⟨10, first :: others, shifted⟩, ⟨List.cons_ne_nil _ _, small, .inr ⟨rfl, leading⟩⟩, rfl,
      Numeral.ofDigits_eq_ofDigits_reverse 10 (first :: others), rfl⟩

theorem Written.WellFormed.isNumeral {immediate : Written} (wellFormed : immediate.WellFormed) :
    IsNumeral immediate.number (Numeral.ofDigits immediate.base immediate.digits) := by
  obtain ⟨base, digits, shifted⟩ := immediate
  obtain ⟨nonempty, small, rfl | ⟨rfl, leading⟩⟩ := wellFormed
  · rw [Numeral.ofDigits_eq_ofDigits_reverse]
    exact .hexadecimal nonempty small
  · cases digits with
    | nil => contradiction
    | cons first others =>
      rcases Nat.eq_zero_or_pos first with rfl | positive
      · obtain rfl : others = [] := (List.cons.inj (leading rfl)).2
        exact .zero
      · rw [Numeral.ofDigits_eq_ofDigits_reverse]
        exact .decimal positive small

theorem isAddition_iff : IsAddition token value ↔
    ∃ immediate : Written, immediate.WellFormed ∧ token = mnemonic immediate ∧
      immediate.value = value := by
  constructor
  · intro addition
    cases addition with
    | plain shows =>
      obtain ⟨immediate, wellFormed, rfl, rfl, unit⟩ := shows.exists_written false
      refine ⟨immediate, wellFormed, ?_, by simp [Written.value, unit]⟩
      change _ = mnemonicStart ++ (immediate.number ++ unitText immediate.shifted)
      rw [unit]
      exact (congrArg _ (List.append_nil _)).symm
    | shifted shows =>
      obtain ⟨immediate, wellFormed, rfl, rfl, unit⟩ := shows.exists_written true
      refine ⟨immediate, wellFormed, ?_, by simp [Written.value, unit]⟩
      change _ = mnemonicStart ++ (immediate.number ++ unitText immediate.shifted)
      rw [unit, ← List.append_assoc]
      rfl
  · intro written
    obtain ⟨immediate, wellFormed, rfl, rfl⟩ := written
    have numeral := wellFormed.isNumeral
    change IsAddition (mnemonicStart ++ (immediate.number ++ unitText immediate.shifted)) _
    rw [Written.value]
    cases immediate.shifted with
    | false =>
      simp only [Bool.false_eq_true, if_false, Nat.mul_one, unitText, List.append_nil]
      exact .plain numeral
    | true =>
      rw [← List.append_assoc]
      exact .shifted numeral

/-! ### Numerals of a number -/

/-- How programs write a number: in base 16 with any zeros in front, or in base 10. -/
inductive Renders : Nat → Text → Prop
  | hexadecimal (zeros n : Nat) :
      Renders n ("0x".toList ++ (List.replicate zeros '0' ++ Nat.toDigits 16 n))
  | decimal {n : Nat} (short : Numeral.IsShort n) : Renders n (Numeral.decimal n)

theorem Renders.exists_written (renders : Renders n text) (shifted : Bool) :
    ∃ immediate : Written, immediate.WellFormed ∧ immediate.isReadable = true ∧
      immediate.number = text ∧ Numeral.ofDigits immediate.base immediate.digits = n ∧
      immediate.shifted = shifted := by
  cases renders with
  | hexadecimal zeros =>
    obtain ⟨digits, shape, nonempty, small, folded, _⟩ :=
      Numeral.exists_digits (show 1 < 16 by decide) n
    have padded : List.replicate zeros 0 ++ digits ≠ [] :=
      List.append_ne_nil_of_right_ne_nil _ nonempty
    have smalls : ∀ digit ∈ List.replicate zeros 0 ++ digits, digit < 16 := by
      intro digit member
      rcases List.mem_append.mp member with zero | later
      · rw [List.eq_of_mem_replicate zero]
        decide
      · exact small digit later
    refine ⟨⟨16, List.replicate zeros 0 ++ digits, shifted⟩, ⟨padded, smalls, .inl rfl⟩, rfl, ?_,
      folded ▸ Numeral.ofDigits_zeros_append 16 zeros digits, rfl⟩
    rw [shape, Written.number, if_pos rfl, List.map_append, List.map_replicate]
    rfl
  | decimal short =>
    obtain ⟨digits, shape, nonempty, small, folded, leading⟩ :=
      Numeral.exists_digits (show 1 < 10 by decide) n
    have few := short.length_le shape
    have readable : (⟨10, digits, shifted⟩ : Written).isReadable = true := by
      simpa [Written.isReadable] using few
    exact ⟨⟨10, digits, shifted⟩, ⟨nonempty, small, .inr ⟨rfl, leading⟩⟩, readable, shape.symm,
      folded, rfl⟩

/-! ### What is no addition -/

theorem IsNumeral.exists_head (numeral : IsNumeral text n) :
    ∃ digit < 10, ∃ others, text = Nat.digitChar digit :: others := by
  cases numeral with
  | @hexadecimal digits => exact ⟨0, by decide, 'x' :: digits.map Nat.digitChar, rfl⟩
  | zero => exact ⟨0, by decide, [], rfl⟩
  | @decimal first others positive small =>
    exact ⟨first, small first (.head _), others.map Nat.digitChar, rfl⟩

theorem IsNumeral.comma_not_mem (numeral : IsNumeral text n) : ',' ∉ text := by
  have digits : ∀ digit < 16, Nat.digitChar digit ≠ ',' := by decide
  cases numeral with
  | @hexadecimal shown nonempty small =>
    intro member
    rcases List.mem_append.mp member with first | later
    · exact absurd first (by decide)
    · obtain ⟨digit, among, same⟩ := List.mem_map.mp later
      exact digits digit (small digit among) same
  | zero => decide
  | @decimal first others positive small =>
    intro member
    obtain ⟨digit, among, same⟩ := List.mem_map.mp member
    exact digits digit (Nat.lt_of_lt_of_le (small digit among) (by decide)) same

/-- Instructions that are close to an addition: with other registers, or with a numeral that has a
sign, no digits, a zero in front or something else than the unit behind it. -/
inductive Malformed : Text → Prop
  | start {token : Text} (other : ¬ "add x8, x8, #".toList <+: token) : Malformed token
  | signed {sign : Char} {rest : Text} (isSign : sign = '+' ∨ sign = '-') :
      Malformed ("add x8, x8, #".toList ++ sign :: rest)
  | empty (shifted : Bool) : Malformed ("add x8, x8, #".toList ++ unitText shifted)
  | emptyHexadecimal (shifted : Bool) :
      Malformed ("add x8, x8, #".toList ++ ("0x".toList ++ unitText shifted))
  | leadingZero {digit : Nat} {rest : Text} (small : digit < 10) :
      Malformed ("add x8, x8, #".toList ++ '0' :: Nat.digitChar digit :: rest)
  | trailing {numeral rest : Text} {n : Nat} (shows : IsNumeral numeral n)
      (longest : ∀ c ∈ rest.head?, ∀ more value, ¬ IsNumeral (numeral ++ c :: more) value)
      (other : ∀ shifted, rest ≠ unitText shifted) :
      Malformed ("add x8, x8, #".toList ++ (numeral ++ rest))

theorem IsAddition.exists_unit (addition : IsAddition token value) : ∃ numeral n shifted,
    IsNumeral numeral n ∧ token = "add x8, x8, #".toList ++ (numeral ++ unitText shifted) := by
  cases addition with
  | plain shows => exact ⟨_, _, false, shows, congrArg _ (List.append_nil _).symm⟩
  | shifted shows => exact ⟨_, _, true, shows, List.append_assoc _ _ _⟩

theorem unitText_ne_digit {digit : Nat} (small : digit < 16) (shifted : Bool) :
    unitText shifted ≠ Nat.digitChar digit :: rest := by
  have apart : ∀ digit < 16, Nat.digitChar digit ≠ ',' := by decide
  intro same
  cases shifted with
  | false => cases same
  | true => exact apart digit small (List.cons.inj same).1.symm

/-- A decimal numeral begins with a zero only if it has no other digit. -/
theorem IsNumeral.zero_cases (numeral : IsNumeral ('0' :: text) n) :
    text = [] ∨ ∃ digit < 16, ∃ others, text = 'x' :: Nat.digitChar digit :: others := by
  generalize shape : '0' :: text = shown at numeral
  cases numeral with
  | @hexadecimal digits nonempty small =>
    obtain rfl := (List.cons.inj shape).2
    cases digits with
    | nil => contradiction
    | cons digit others => exact .inr ⟨digit, small digit (.head _), _, rfl⟩
  | zero => exact .inl (List.cons.inj shape).2
  | @decimal first others positive small =>
    have nonzero : ∀ digit < 10, 0 < digit → '0' ≠ Nat.digitChar digit := by decide
    exact absurd (List.cons.inj shape).1 (nonzero first (small first (.head _)) positive)

/-- The grammar is not ambiguous: a numeral with its unit is the longest one there. -/
theorem IsNumeral.rest_eq_unitText {other : Text} {m : Nat} {shifted : Bool}
    (numeral : IsNumeral text n)
    (longest : ∀ c ∈ rest.head?, ∀ more value, ¬ IsNumeral (text ++ c :: more) value)
    (otherNumeral : IsNumeral other m) (shape : text ++ rest = other ++ unitText shifted) :
    rest = unitText shifted := by
  -- The longer of the two numerals goes on with the rest behind the other, or with its unit.
  rcases List.append_eq_append_iff.mp shape with ⟨more, rfl, same⟩ | ⟨more, rfl, unit⟩
  · cases more with
    | nil => exact same
    | cons c more =>
      have first : c ∈ rest.head? := by rw [same]; rfl
      exact absurd otherNumeral (longest c first more m)
  · cases more with
    | nil => exact unit.symm
    | cons c more =>
      cases shifted with
      | false => cases unit
      | true =>
        obtain rfl := (List.cons.inj unit).1
        exact absurd (List.mem_append_right _ (.head _)) numeral.comma_not_mem

/-- Behind the registers stands the first digit of a numeral. -/
theorem IsAddition.exists_digit (addition : IsAddition ("add x8, x8, #".toList ++ rest) value) :
    ∃ digit < 10, ∃ others, rest = Nat.digitChar digit :: others := by
  obtain ⟨numeral, n, shifted, shows, shape⟩ := addition.exists_unit
  obtain ⟨digit, small, others, rfl⟩ := shows.exists_head
  exact ⟨digit, small, _, List.append_cancel_left shape⟩

/-- A zero in front is the whole numeral, or belongs to the mark of a hexadecimal one. -/
theorem IsAddition.zero_cases
    (addition : IsAddition ("add x8, x8, #".toList ++ '0' :: rest) value) :
    (∃ shifted, rest = unitText shifted) ∨
      ∃ digit < 16, ∃ others, rest = 'x' :: Nat.digitChar digit :: others := by
  obtain ⟨numeral, n, shifted, shows, shape⟩ := addition.exists_unit
  obtain ⟨_, _, others, opening⟩ := shows.exists_head
  have same := List.append_cancel_left shape
  rw [opening] at same
  obtain ⟨zero, rfl⟩ := List.cons.inj same
  rw [opening, ← zero] at shows
  rcases shows.zero_cases with rfl | ⟨digit, small, later, rfl⟩
  · exact .inl ⟨shifted, rfl⟩
  · exact .inr ⟨digit, small, _, rfl⟩

theorem Malformed.not_isAddition (malformed : Malformed token) (value : Nat) :
    ¬ IsAddition token value := by
  intro addition
  have digits : ∀ digit < 10, Nat.digitChar digit ≠ '+' ∧ Nat.digitChar digit ≠ '-' ∧
      Nat.digitChar digit ≠ 'x' := by decide
  cases malformed with
  | start other =>
    obtain ⟨numeral, _, shifted, _, rfl⟩ := addition.exists_unit
    exact other (List.prefix_append _ _)
  | signed isSign =>
    obtain ⟨digit, small, _, same⟩ := addition.exists_digit
    obtain ⟨rfl, _⟩ := List.cons.inj same
    rcases isSign with plus | minus
    · exact (digits digit small).1 plus
    · exact (digits digit small).2.1 minus
  | empty unit =>
    obtain ⟨digit, small, _, same⟩ := addition.exists_digit
    exact unitText_ne_digit (by omega) unit same
  | emptyHexadecimal unit =>
    rcases IsAddition.zero_cases addition with ⟨shifted, same⟩ | ⟨digit, small, _, same⟩
    · cases shifted with
      | false => cases same
      | true => exact absurd (List.cons.inj same).1 (by decide)
    · exact unitText_ne_digit small unit (List.cons.inj same).2
  | @leadingZero second rest secondSmall =>
    rcases addition.zero_cases with ⟨shifted, same⟩ | ⟨_, _, _, same⟩
    · exact unitText_ne_digit (by omega) shifted same.symm
    · exact (digits second secondSmall).2.2 (List.cons.inj same).1
  | trailing shows longest other =>
    obtain ⟨_, _, shifted, otherShows, shape⟩ := addition.exists_unit
    exact other shifted (shows.rest_eq_unitText longest otherShows (List.append_cancel_left shape))

end AddImmediate

namespace Check

open AddImmediate

variable {line token text : Text} {value n : Nat}

theorem isOverlong_of_written {immediate : Written} (wellFormed : immediate.WellFormed)
    (long : immediate.isReadable = false) : IsOverlong (mnemonic immediate) :=
  (unread_none_iff.mp (.numeral wellFormed long)).2

/-- Without white space at its end, an addition that is not too long has its value read. -/
theorem mnemonicImmediate?_eq_some_iff (trimmed : Text.IsTrimmed token)
    (short : ¬ IsOverlong token) :
    mnemonicImmediate? token = .ok (some value) ↔ IsAddition token value := by
  rw [isAddition_iff]
  constructor
  · intro read
    cases found : ofMnemonic? token with
    | none => simp [mnemonicImmediate?, found] at read
    | some immediate =>
      obtain ⟨wellFormed, rfl⟩ := eq_mnemonic_of_isTrimmed trimmed found
      refine ⟨immediate, wellFormed, rfl, ?_⟩
      cases readable : immediate.isReadable with
      | false => exact absurd (isOverlong_of_written wellFormed readable) short
      | true =>
        rw [mnemonicImmediate?_eq_some wellFormed readable] at read
        exact Option.some.inj (Except.ok.inj read)
  · intro written
    obtain ⟨immediate, wellFormed, rfl, rfl⟩ := written
    refine mnemonicImmediate?_eq_some wellFormed (eq_true_of_ne_false fun long => ?_)
    exact short (isOverlong_of_written wellFormed long)

theorem mnemonicImmediate?_eq_none (trimmed : Text.IsTrimmed token)
    (other : ∀ value, ¬ IsAddition token value) : mnemonicImmediate? token = .ok none := by
  cases found : ofMnemonic? token with
  | none => simp [mnemonicImmediate?, found]
  | some immediate =>
    obtain ⟨wellFormed, shape⟩ := eq_mnemonic_of_isTrimmed trimmed found
    exact absurd (isAddition_iff.mpr ⟨immediate, wellFormed, shape, rfl⟩) (other _)

/-- A number as programs write it is read, with and without the unit, and a line that shows it has
it as its token. -/
theorem mnemonicImmediate?_of_renders (renders : Renders n text) (shifted : Bool) :
    mnemonicImmediate? ("add x8, x8, #".toList ++ (text ++ unitText shifted)) =
        .ok (some (n * if shifted then 4096 else 1)) ∧
      ∀ margin address, (∀ c ∈ margin, Text.isBlank c = true) → IsHexNumeral address →
        tokenize .mnemonic
            (addressed margin address ("add x8, x8, #".toList ++ (text ++ unitText shifted))) =
          ["add x8, x8, #".toList ++ (text ++ unitText shifted)] := by
  obtain ⟨immediate, wellFormed, readable, rfl, rfl, rfl⟩ := renders.exists_written shifted
  refine ⟨mnemonicImmediate?_eq_some wellFormed readable, fun margin address blank numeral => ?_⟩
  exact tokenize_instruction blank numeral (readsAs_mnemonic wellFormed)

/-- Of the tokens of a line, the additions of the grammar are read, each with its value, and nothing
else is. What programs write for a number is such an addition, if it is no decimal numeral of too
many digits. -/
theorem addition_grammar_exact (line token : Text) (shown : token ∈ tokenize .mnemonic line) :
    ((¬ IsOverlong token →
        ∀ value, mnemonicImmediate? token = .ok (some value) ↔ IsAddition token value) ∧
      ((∀ value, ¬ IsAddition token value) → mnemonicImmediate? token = .ok none) ∧
      (Malformed token → mnemonicImmediate? token = .ok none)) ∧
    ∀ n text, Renders n text → ∀ shifted : Bool,
      mnemonicImmediate? ("add x8, x8, #".toList ++ (text ++ unitText shifted)) =
          .ok (some (n * if shifted then 4096 else 1)) ∧
        ∀ margin address, (∀ c ∈ margin, Text.isBlank c = true) → IsHexNumeral address →
          tokenize .mnemonic
              (addressed margin address ("add x8, x8, #".toList ++ (text ++ unitText shifted))) =
            ["add x8, x8, #".toList ++ (text ++ unitText shifted)] := by
  have trimmed := isTrimmed_of_mem_tokenize shown
  refine ⟨⟨?_, mnemonicImmediate?_eq_none trimmed, ?_⟩, ?_⟩
  · exact fun short value => mnemonicImmediate?_eq_some_iff trimmed short
  · exact fun malformed => mnemonicImmediate?_eq_none trimmed malformed.not_isAddition
  · exact fun n text renders shifted => mnemonicImmediate?_of_renders renders shifted

theorem paddedAddition_read :
    mnemonicImmediate? "add x8, x8, #0x0010, lsl #12".toList = .ok (some 65536) ∧
      mnemonicImmediate? "add x8, x8, #014".toList = .ok none ∧
      mnemonicImmediate? "add x8, x8, #0x0010".toList = .ok (some 16) := by
  have padded : "add x8, x8, #0x0010, lsl #12".toList ∈
      tokenize .mnemonic "0x7f:\tADD  x8, x8, #0x0010, LSL #12 ; padded".toList := by
    decide +kernel
  have leading : "add x8, x8, #014".toList ∈
      tokenize .mnemonic "0x7f: add x8, x8, #014".toList := by decide +kernel
  have short : ¬ IsOverlong "add x8, x8, #0x0010, lsl #12".toList := by
    have base : (ofMnemonic? "add x8, x8, #0x0010, lsl #12".toList).map Written.base = some 16 := by
      decide
    intro overlong
    obtain ⟨immediate, wellFormed, decimal, _, shape⟩ := overlong
    rw [shape, ofMnemonic?_mnemonic wellFormed, Option.map_some, decimal] at base
    cases base
  have numeral : IsNumeral "0x0010".toList 16 :=
    @IsNumeral.hexadecimal [0, 0, 1, 0] (by decide) (by decide)
  have malformed : Malformed "add x8, x8, #014".toList :=
    @Malformed.leadingZero 1 "4".toList (by decide)
  obtain ⟨⟨reads, _, _⟩, renders⟩ := addition_grammar_exact _ _ padded
  obtain ⟨⟨_, _, refused⟩, _⟩ := addition_grammar_exact _ _ leading
  exact ⟨(reads short 65536).mpr (.shifted numeral), refused malformed,
    (renders 16 _ (.hexadecimal 2 16) false).1⟩

end Check

end SpinWait
