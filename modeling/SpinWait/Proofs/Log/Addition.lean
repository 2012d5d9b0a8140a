import SpinWait.Proofs.Log.Rendering

namespace SpinWait.Log

open Text AddImmediate

/-! An addition as a disassembler writes it is already in its normal form. -/

variable {immediate : AddImmediate.Written} {c : Char}

/-- The immediate without its unit. -/
def numberText (immediate : AddImmediate.Written) : Text :=
  '#' :: ((if immediate.base = 16 then "0x".toList else []) ++
    immediate.digits.map Nat.digitChar)

theorem mnemonic_eq (immediate : AddImmediate.Written) : mnemonic immediate =
    "add x8, x8,".toList ++ ' ' :: (numberText immediate ++ unitText immediate.shifted) := by
  simp only [mnemonic, Written.text, numberText, List.cons_append, List.append_assoc]
  rfl

def numberChars : Text := "#0123456789abcdefx".toList

theorem mem_numberChars (wellFormed : immediate.WellFormed) (member : c ∈ numberText immediate) :
    c ∈ numberChars := by
  have sign : ∀ c ∈ "0x".toList, c ∈ numberChars := by decide
  have digits : ∀ digit < 16, Nat.digitChar digit ∈ numberChars := by decide
  have base : immediate.base ≤ 16 := by
    rcases wellFormed.known with known | known <;> omega
  rcases List.mem_cons.mp member with rfl | member
  · exact .head _
  · rcases List.mem_append.mp member with prefixed | suffixed
    · split at prefixed
      · exact sign c prefixed
      · cases prefixed
    · obtain ⟨digit, among, rfl⟩ := List.mem_map.mp suffixed
      exact digits digit (Nat.lt_of_lt_of_le (wellFormed.small digit among) base)

theorem isPlain_numberText (wellFormed : immediate.WellFormed) {rest : Text}
    (seen : ∀ c ∈ rest, IsAscii c ∧ isBlank c = false) :
    IsPlain (numberText immediate ++ rest) := by
  have visible : ∀ c ∈ numberChars, IsAscii c ∧ isBlank c = false := by decide
  have all : ∀ c ∈ numberText immediate ++ rest, IsAscii c ∧ isBlank c = false := by
    intro c member
    rcases List.mem_append.mp member with number | behind
    · exact visible c (mem_numberChars wellFormed number)
    · exact seen c behind
  exact isPlain_of_visible (List.cons_ne_nil _ _) (fun c member => (all c member).1)
    fun c member => (all c member).2

theorem isPlain_mnemonic (wellFormed : immediate.WellFormed) : IsPlain (mnemonic immediate) := by
  have opening : IsPlain "add x8, x8,".toList :=
    isPlain_of_ends (by decide) (by decide) (by decide) (by decide) (by decide)
  have unit : IsPlain "lsl #12".toList :=
    isPlain_of_ends (by decide) (by decide) (by decide) (by decide) (by decide)
  rw [mnemonic_eq]
  cases immediate.shifted with
  | false => exact opening.append_blank (isPlain_numberText wellFormed nofun)
  | true =>
    have number : IsPlain (numberText immediate ++ [',']) :=
      isPlain_numberText wellFormed (by decide)
    have shape : numberText immediate ++ unitText true =
        (numberText immediate ++ [',']) ++ ' ' :: "lsl #12".toList := by
      rw [List.append_assoc]
      rfl
    rw [shape]
    exact opening.append_blank (number.append_blank unit)

/-- The characters of whole additions. -/
def additionChars : Text := "#0123456789abcdefx, ls".toList

theorem mem_additionChars (wellFormed : immediate.WellFormed) (member : c ∈ mnemonic immediate) :
    c ∈ additionChars := by
  have opening : ∀ c ∈ "add x8, x8,".toList, c ∈ additionChars := by decide
  have number : ∀ c ∈ numberChars, c ∈ additionChars := by decide
  have unit : ∀ shifted, ∀ c ∈ unitText shifted, c ∈ additionChars := by decide
  rw [mnemonic_eq, List.mem_append, List.mem_cons, List.mem_append] at member
  rcases member with first | rfl | middle | last
  · exact opening c first
  · decide
  · exact number c (mem_numberChars wellFormed middle)
  · exact unit _ c last

theorem readsAs_mnemonic (wellFormed : immediate.WellFormed) :
    ReadsAs (mnemonic immediate) (mnemonic immediate) := by
  have lower : ∀ c ∈ additionChars, c.toLower = id c := by decide
  have small : (mnemonic immediate).map Char.toLower = mnemonic immediate := by
    rw [List.map_congr_left fun c member => lower c (mem_additionChars wellFormed member),
      List.map_id]
  have uncommented : ';' ∉ mnemonic immediate := fun member =>
    absurd (mem_additionChars wellFormed member) (by decide)
  refine (isPlain_mnemonic wellFormed).readsAs small uncommented ?_
  rw [mnemonic_eq]
  exact (by decide : some 'a' ≠ some '#')

theorem bar_not_mem_mnemonic (wellFormed : immediate.WellFormed) : '|' ∉ mnemonic immediate :=
  fun member => absurd (mem_additionChars wellFormed member) (by decide)

theorem length_mnemonic_le (immediate : AddImmediate.Written) :
    (mnemonic immediate).length ≤ immediate.digits.length + 24 := by
  have start : mnemonicStart.length = 13 := rfl
  have sign : (if immediate.base = 16 then "0x".toList else []).length ≤ 2 := by
    split <;> decide
  have unit : (unitText immediate.shifted).length ≤ 9 := by
    cases immediate.shifted <;> decide
  simp only [mnemonic, Written.text, List.length_append, List.length_map]
  omega

end SpinWait.Log
