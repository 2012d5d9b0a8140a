import SpinWait.Proofs.Text.Numeral

namespace SpinWait

/-! The order of texts by code points. It is a linear order, and numerals of one width stand in it as
their numbers do. -/

namespace Text

variable {a b : Char} {left middle right first second : Text}

theorem precedes_cons_iff :
    precedes (a :: left) (b :: right) = true ↔ a < b ∨ a = b ∧ left.precedes right = true := by
  simp [precedes]

theorem precedes_trans (first : left.precedes middle = true)
    (second : middle.precedes right = true) : left.precedes right = true := by
  induction left generalizing middle right with
  | nil => rfl
  | cons a left ih =>
    cases middle with
    | nil => cases first
    | cons b middle =>
      cases right with
      | nil => cases second
      | cons c right =>
        rw [precedes_cons_iff] at first second ⊢
        rcases first with less | ⟨rfl, first⟩
        · rcases second with more | ⟨rfl, _⟩
          · exact .inl (Char.lt_trans less more)
          · exact .inl less
        · rcases second with more | ⟨rfl, second⟩
          · exact .inl more
          · exact .inr ⟨rfl, ih first second⟩

theorem precedes_total (left right : Text) :
    left.precedes right = true ∨ right.precedes left = true := by
  induction left generalizing right with
  | nil => exact .inl rfl
  | cons a left ih =>
    cases right with
    | nil => exact .inr rfl
    | cons b right =>
      rw [precedes_cons_iff, precedes_cons_iff]
      by_cases same : a = b
      · subst same
        exact (ih right).imp (fun before => .inr ⟨rfl, before⟩) fun before => .inr ⟨rfl, before⟩
      · by_cases less : a < b
        · exact .inl (.inl less)
        · refine .inr (.inl (Char.not_le.mp fun le => same ?_))
          exact Char.le_antisymm le (Char.not_lt.mp less)

theorem precedes_antisymm (first : left.precedes right = true)
    (second : right.precedes left = true) : left = right := by
  induction left generalizing right with
  | nil =>
    cases right with
    | nil => rfl
    | cons => cases second
  | cons a left ih =>
    cases right with
    | nil => cases first
    | cons b right =>
      rw [precedes_cons_iff] at first second
      rcases first with less | ⟨rfl, first⟩
      · rcases second with more | ⟨rfl, _⟩
        · exact absurd more (Char.lt_asymm less)
        · exact absurd less (Char.lt_irrefl _)
      · rcases second with more | ⟨_, second⟩
        · exact absurd more (Char.lt_irrefl _)
        · rw [ih first second]

/-- Strictly before, in code point order. -/
def Below (left right : Text) : Prop := right.precedes left = false

instance : DecidableRel Below := fun left right =>
  inferInstanceAs (Decidable (right.precedes left = false))

theorem below_cons_iff : Below (a :: left) (b :: right) ↔ a < b ∨ a = b ∧ Below left right := by
  simp only [Below, precedes, Bool.or_eq_false_iff, decide_eq_false_iff_not, Bool.and_eq_false_iff,
    beq_eq_false_iff_ne]
  constructor
  · rintro ⟨notLess, differs | later⟩
    · refine .inl (Char.not_le.mp fun le => differs ?_)
      exact Char.le_antisymm le (Char.not_lt.mp notLess)
    · by_cases same : a = b
      · exact .inr ⟨same, later⟩
      · refine .inl (Char.not_le.mp fun le => same ?_)
        exact Char.le_antisymm (Char.not_lt.mp notLess) le
  · rintro (less | ⟨rfl, below⟩)
    · exact ⟨Char.lt_asymm less, .inl (Char.ne_of_lt less).symm⟩
    · exact ⟨Char.lt_irrefl a, .inr below⟩

theorem Below.append_left (below : Below left right) (start : Text) :
    Below (start ++ left) (start ++ right) := by
  induction start with
  | nil => exact below
  | cons c start ih => exact below_cons_iff.mpr (.inr ⟨rfl, ih⟩)

theorem Below.append_right (below : Below left right) (length : left.length = right.length) :
    Below (left ++ first) (right ++ second) := by
  induction left generalizing right with
  | nil =>
    obtain rfl := List.length_eq_zero_iff.mp length.symm
    cases below
  | cons a left ih =>
    cases right with
    | nil => cases length
    | cons b right =>
      rcases below_cons_iff.mp below with less | ⟨rfl, later⟩
      · exact below_cons_iff.mpr (.inl less)
      · exact below_cons_iff.mpr (.inr ⟨rfl, ih later (Nat.succ.inj length)⟩)

end Text

namespace Numeral

open Text

variable {width m n : Nat}

theorem length_padZeros_decimal (positive : 0 < width) (fits : n < 10 ^ width) :
    ((decimal n).padZeros width).length = width := by
  have short : (decimal n).length ≤ width :=
    (Nat.length_toDigits_le_iff (by decide) positive).mpr fits
  rw [padZeros, List.length_append, List.length_replicate]
  omega

/-- The last digit of a padded numeral. -/
theorem padZeros_decimal_succ (positive : 0 < width) (n : Nat) :
    (decimal n).padZeros (width + 1) =
      (decimal (n / 10)).padZeros width ++ [Nat.digitChar (n % 10)] := by
  unfold padZeros decimal
  by_cases small : n < 10
  · rw [Nat.toDigits_of_lt_base small, Nat.div_eq_of_lt small, Nat.mod_eq_of_lt small,
      Nat.toDigits_zero, List.length_singleton, List.length_singleton, Nat.add_sub_cancel]
    obtain ⟨width, rfl⟩ := Nat.exists_eq_succ_of_ne_zero (Nat.ne_of_gt positive)
    rw [Nat.succ_eq_add_one, Nat.add_sub_cancel, List.replicate_succ', List.append_assoc]
  · rw [Nat.toDigits_of_base_le (by decide) (Nat.le_of_not_lt small), List.length_append,
      List.length_singleton, Nat.add_sub_add_right, List.append_assoc]

theorem below_padZeros_decimal (less : m < n) (fits : n < 10 ^ (width + 1)) :
    Below ((decimal m).padZeros (width + 1)) ((decimal n).padZeros (width + 1)) := by
  induction width generalizing m n with
  | zero =>
    have digits : ∀ n < 10, ∀ m < n, Below ((decimal m).padZeros 1) ((decimal n).padZeros 1) := by
      decide
    exact digits n (by omega) m less
  | succ width ih =>
    rw [padZeros_decimal_succ (Nat.succ_pos width), padZeros_decimal_succ (Nat.succ_pos width)]
    have high : n / 10 < 10 ^ (width + 1) := by
      rw [Nat.pow_succ] at fits
      omega
    rcases Nat.lt_or_ge (m / 10) (n / 10) with smaller | reached
    · refine (ih smaller high).append_right ?_
      rw [length_padZeros_decimal (Nat.succ_pos width) high,
        length_padZeros_decimal (Nat.succ_pos width) (Nat.lt_trans smaller high)]
    · have same : m / 10 = n / 10 := by omega
      have last : m % 10 < n % 10 := by omega
      have digits : ∀ right < 10, ∀ left < right,
          Below [Nat.digitChar left] [Nat.digitChar right] := by decide
      rw [same]
      exact (digits (n % 10) (by omega) (m % 10) last).append_left _

end Numeral

end SpinWait
