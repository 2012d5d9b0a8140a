import Mathlib.Data.Nat.Digits.Defs
import SpinWait.Text.Numeral

namespace SpinWait

/-! Numbers that are short enough to be written. Every number that is read is one. -/

namespace Text

theorem digitAfter_lt {zeros : List Nat} {point digit : Nat}
    (found : digitAfter zeros point = some digit) : digit < 10 := by
  induction zeros with
  | nil => cases found
  | cons first others ih =>
    rw [digitAfter] at found
    split at found
    · cases found
    · split at found
      · obtain rfl := Option.some.inj found
        omega
      · exact ih found

end Text

namespace Numeral

/-- The number has no more decimal digits than are read and written. -/
def IsShort (n : Nat) : Prop := n < 10 ^ maxDigits

variable {n small large : Nat} {c : Char}

theorem isWritable_iff {n : Int} : isWritable n = true ↔ IsShort n.natAbs := by
  rw [isWritable, decide_eq_true_iff]
  exact Nat.length_toDigits_le_iff (b := 10) (k := maxDigits) (by decide) (by decide)

theorem isWritable_natCast : isWritable n = true ↔ IsShort n := by
  rw [isWritable_iff, Int.natAbs_natCast]

theorem IsShort.isWritable (short : IsShort n) : Numeral.isWritable n = true :=
  isWritable_natCast.mpr short

theorem IsShort.of_le (short : IsShort large) (le : small ≤ large) : IsShort small :=
  Nat.lt_of_le_of_lt le short

theorem isShort_of_digit (digit : n < 10) : IsShort n :=
  Nat.lt_of_lt_of_le digit (Nat.le_self_pow (by decide) 10)

/-! ### Writing -/

theorem decimal_injective : Function.Injective decimal := by
  intro left right same
  rw [← Nat.ofDigitChars_ten_toDigits (n := left), ← Nat.ofDigitChars_ten_toDigits (n := right)]
  exact congrArg (Nat.ofDigitChars 10 · 0) same

theorem isDigit_of_mem_decimal (member : c ∈ decimal n) : c.isDigit = true :=
  Nat.isDigit_of_mem_toDigits (by decide) (by decide) member

theorem mem_signed {value : Int} (member : c ∈ signed value) : c.isDigit = true ∨ c = '-' := by
  cases value with
  | ofNat n => exact .inl (isDigit_of_mem_decimal member)
  | negSucc n =>
    rcases List.mem_cons.mp member with sign | digit
    · exact .inr sign
    · exact .inl (isDigit_of_mem_decimal digit)

theorem signed_injective : Function.Injective signed := by
  have unsigned (n : Nat) : '-' ∉ decimal n := fun member => by
    cases isDigit_of_mem_decimal member
  intro left right same
  cases left with
  | ofNat m =>
    cases right with
    | ofNat n => exact congrArg Int.ofNat (decimal_injective same)
    | negSucc n =>
      have found : '-' ∈ signed (.ofNat m) := same ▸ List.mem_cons_self
      exact absurd found (unsigned m)
  | negSucc m =>
    cases right with
    | ofNat n =>
      have found : '-' ∈ signed (.ofNat n) := same ▸ List.mem_cons_self
      exact absurd found (unsigned n)
    | negSucc n =>
      have magnitude := decimal_injective (List.cons.inj same).2
      rw [Nat.succ.inj magnitude]

/-! ### Reading -/

theorem ofDigits_eq_ofDigits_reverse (base : Nat) (digits : List Nat) :
    ofDigits base digits = Nat.ofDigits base digits.reverse := by
  rw [ofDigits, Nat.ofDigits_eq_foldr, List.foldr_reverse]
  simp only [Nat.cast_id, Nat.mul_comm base, Nat.add_comm]

theorem ofDigits_lt_pow {digits : List Nat} (decimal : ∀ digit ∈ digits, digit < 10) :
    ofDigits 10 digits < 10 ^ digits.length := by
  rw [ofDigits_eq_ofDigits_reverse, ← List.length_reverse]
  exact Nat.ofDigits_lt_base_pow_length (by decide)
    fun digit member => decimal digit (List.mem_reverse.mp member)

theorem ofDigits_concat (base : Nat) (digits : List Nat) (digit : Nat) :
    ofDigits base (digits ++ [digit]) = ofDigits base digits * base + digit := by
  simp [ofDigits]

theorem ofDigits_zeros_append (base zeros : Nat) (digits : List Nat) :
    ofDigits base (List.replicate zeros 0 ++ digits) = ofDigits base digits := by
  induction zeros with
  | zero => rfl
  | succ zeros ih =>
    rw [← ih, List.replicate_succ, List.cons_append]
    simp [ofDigits]

/-- The digits that a number is written with, of which only those of zero begin with a zero. -/
theorem exists_digits {base : Nat} (large : 1 < base) (n : Nat) : ∃ digits : List Nat,
    Nat.toDigits base n = digits.map Nat.digitChar ∧ digits ≠ [] ∧
      (∀ digit ∈ digits, digit < base) ∧ ofDigits base digits = n ∧
      (digits.head? = some 0 → digits = [0]) := by
  induction n using Nat.strongRecOn with
  | ind n ih =>
    rw [Nat.toDigits_eq_if large]
    split
    case isTrue small =>
      refine ⟨[n], rfl, List.cons_ne_nil _ _, by simpa using small, by simp [ofDigits], ?_⟩
      intro zero
      rw [Option.some.inj zero]
    case isFalse reached =>
      have smaller : n / base < n := Nat.div_lt_self (by omega) large
      obtain ⟨digits, shape, nonempty, small, folded, leading⟩ := ih _ smaller
      refine ⟨digits ++ [n % base], ?_, by simp, ?_, ?_, ?_⟩
      · rw [shape, List.map_append, List.map_singleton]
      · intro digit member
        rcases List.mem_append.mp member with earlier | last
        · exact small digit earlier
        · rw [List.mem_singleton.mp last]
          exact Nat.mod_lt n (by omega)
      · rw [ofDigits_concat, folded, Nat.div_add_mod']
      · intro zero
        rw [List.head?_append, List.head?_eq_some_head nonempty, Option.some_or,
          ← List.head?_eq_some_head nonempty] at zero
        have positive : 0 < n / base := Nat.div_pos (Nat.le_of_not_lt reached) (by omega)
        rw [leading zero, ofDigits, List.foldl_cons, List.foldl_nil, Nat.zero_mul] at folded
        exact absurd folded (Nat.ne_of_lt positive)

theorem IsShort.length_le {digits : List Nat} (short : IsShort n)
    (shape : decimal n = digits.map Nat.digitChar) : digits.length ≤ maxDigits := by
  rw [← List.length_map Nat.digitChar, ← shape]
  exact decide_eq_true_iff.mp short.isWritable

theorem digitRun_lt {text : Text} {digits : List Nat} (read : digitRun text = some digits) :
    ∀ digit ∈ digits, digit < 10 := by
  induction text using digitRun.induct generalizing digits with
  | case1 => cases read
  | case2 c =>
    obtain ⟨digit, found, rfl⟩ := Option.map_eq_some_iff.mp read
    simpa using Text.digitAfter_lt found
  | case3 c rest ih =>
    simp only [digitRun, Option.bind_eq_bind, Option.bind_eq_some_iff, Option.pure_def,
      Option.some.injEq] at read
    obtain ⟨digit, found, others, later, rfl⟩ := read
    exact List.forall_mem_cons.mpr ⟨Text.digitAfter_lt found, ih later⟩
  | case4 c rest _ _ ih =>
    rw [digitRun] at read
    · simp only [Option.bind_eq_bind, Option.bind_eq_some_iff, Option.pure_def,
        Option.some.injEq] at read
      obtain ⟨digit, found, others, later, rfl⟩ := read
      exact List.forall_mem_cons.mpr ⟨Text.digitAfter_lt found, ih later⟩
    · assumption
    · assumption

theorem readUnsigned?_isShort {text : Text} (read : readUnsigned? text = some n) : IsShort n := by
  simp only [readUnsigned?, Option.bind_eq_bind, Option.bind_eq_some_iff,
    Option.ite_none_right_eq_some, Option.some.injEq] at read
  obtain ⟨digits, run, few, rfl⟩ := read
  have power : 10 ^ digits.length ≤ 10 ^ maxDigits := Nat.pow_le_pow_right (by decide) few
  exact Nat.lt_of_lt_of_le (ofDigits_lt_pow (digitRun_lt run)) power

theorem read?_isShort {text : Text} {n : Int} (read : read? text = some n) : IsShort n.natAbs := by
  unfold read? at read
  split at read <;>
    simp only [Option.bind_eq_bind, Option.pure_def, Option.map_eq_some_iff,
      Option.bind_eq_some_iff, Option.some.injEq] at read <;>
    obtain ⟨_, ⟨magnitude, found, rfl⟩, rfl⟩ := read
  · rw [Int.natAbs_neg, Int.natAbs_natCast]
    exact readUnsigned?_isShort found
  · exact readUnsigned?_isShort found
  · exact readUnsigned?_isShort found

end Numeral

end SpinWait
