import SpinWait.Proofs.Text.Case
import SpinWait.Proofs.Text.Lines
import SpinWait.Proofs.Text.Numeral
import SpinWait.Text.Quoted

namespace SpinWait

/-! Text that stands on one line: no part of it is taken for a line break. -/

namespace Text

variable {text left right separator : Text} {parts : List Text} {c : Char}

/-- The characters that end a line. -/
def lineBreaks : Text :=
  ['\n', '\r', '\x0b', '\x0c', '\x1c', '\x1d', '\x1e', '\u0085', '\u2028', '\u2029']

theorem isLineBreak_iff : isLineBreak c = true ↔ c ∈ lineBreaks := decide_eq_true_iff

/-- A class of characters that none of them belongs to. -/
theorem isLineBreak_eq_false {among : Char → Bool} (apart : ∀ target ∈ lineBreaks, among target = false)
    (holds : among c = true) : isLineBreak c = false := by
  refine Bool.eq_false_iff.mpr fun ends => ?_
  rw [apart c (isLineBreak_iff.mp ends)] at holds
  cases holds

def IsOneLine (text : Text) : Prop := ∀ c ∈ text, isLineBreak c = false

instance : DecidablePred IsOneLine := fun text =>
  inferInstanceAs (Decidable (∀ c ∈ text, isLineBreak c = false))

@[simp] theorem isOneLine_nil : IsOneLine [] := nofun

@[simp] theorem isOneLine_cons : IsOneLine (c :: text) ↔ isLineBreak c = false ∧ IsOneLine text :=
  List.forall_mem_cons

@[simp] theorem isOneLine_append : IsOneLine (left ++ right) ↔ IsOneLine left ∧ IsOneLine right :=
  List.forall_mem_append

theorem IsOneLine.of_subset (line : IsOneLine text) (subset : left ⊆ text) : IsOneLine left :=
  fun c member => line c (subset member)

theorem isOneLine_replicate (count : Nat) (inside : isLineBreak c = false) :
    IsOneLine (List.replicate count c) := by
  intro other member
  rw [List.eq_of_mem_replicate member]
  exact inside

theorem isOneLine_padZeros (width : Nat) : IsOneLine (padZeros width text) ↔ IsOneLine text := by
  have zeros := isOneLine_replicate (width - text.length) (by decide : isLineBreak '0' = false)
  rw [padZeros, isOneLine_append, and_iff_right zeros]

theorem isOneLine_padRight (width : Nat) : IsOneLine (padRight width text) ↔ IsOneLine text := by
  have blanks := isOneLine_replicate (width - text.length) (by decide : isLineBreak ' ' = false)
  rw [padRight, isOneLine_append, and_iff_left blanks]

theorem isOneLine_flatMap {α : Type} {items : List α} {shown : α → Text}
    (each : ∀ item ∈ items, IsOneLine (shown item)) : IsOneLine (items.flatMap shown) := by
  intro c member
  obtain ⟨item, among, inside⟩ := List.mem_flatMap.mp member
  exact each item among c inside

theorem isOneLine_intercalate (between : IsOneLine separator)
    (each : ∀ part ∈ parts, IsOneLine part) : IsOneLine (separator.intercalate parts) := by
  induction parts with
  | nil => exact isOneLine_nil
  | cons first others ih =>
    have here := each first (.head others)
    have later := ih fun part member => each part (.tail first member)
    cases others with
    | nil => simpa [List.intercalate] using here
    | cons second others =>
      rw [List.intercalate_cons_cons]
      simp [here, between, later]

/-! ### Lines -/

theorem isOneLine_of_mem_extendFirst {lines : List Text} {line : Text}
    (inside : isLineBreak c = false) (each : ∀ line ∈ lines, IsOneLine line)
    (member : line ∈ extendFirst c lines) : IsOneLine line := by
  cases lines with
  | nil =>
    obtain rfl := List.mem_singleton.mp member
    simp [inside]
  | cons first others =>
    rcases List.mem_cons.mp member with rfl | later
    · exact isOneLine_cons.mpr ⟨inside, each first (.head others)⟩
    · exact each line (.tail first later)

/-- A text is cut at every line break. -/
theorem isOneLine_of_mem_lines : ∀ line ∈ text.lines, IsOneLine line := by
  induction text using lines.induct with
  | case1 => nofun
  | case2 rest ih =>
    rw [lines]
    exact List.forall_mem_cons.mpr ⟨isOneLine_nil, ih⟩
  | case3 c rest alone ends ih =>
    rw [lines, if_pos ends]
    · exact List.forall_mem_cons.mpr ⟨isOneLine_nil, ih⟩
    · exact alone
  | case4 c rest alone inside ih =>
    rw [lines, if_neg inside]
    · exact fun line => isOneLine_of_mem_extendFirst (Bool.eq_false_iff.mpr inside) ih
    · exact alone

/-! ### Case -/

theorem isBlank_of_isLineBreak (ends : isLineBreak c = true) : isBlank c = true := by
  have all : ∀ c ∈ lineBreaks, isBlank c = true := by decide
  exact all c (isLineBreak_iff.mp ends)

/-- No line break is the lower case of anything else. -/
theorem isLineBreak_lowered (inside : isLineBreak c = false) : isLineBreak (lowered c) = false := by
  cases blank : isBlank c with
  | true => rwa [lowered_of_isBlank blank]
  | false =>
    refine Bool.eq_false_iff.mpr fun made => ?_
    exact Bool.eq_false_iff.mp (isBlank_lowered blank) (isBlank_of_isLineBreak made)

theorem isOneLine_lowerChar (inside : isLineBreak c = false) : IsOneLine (lowerChar c) := by
  by_cases dotted : c = dottedI
  · subst dotted
    decide
  · rw [lowerChar_of_ne dotted]
    simp [isLineBreak_lowered inside]

theorem IsOneLine.lower (line : IsOneLine text) : IsOneLine text.lower := by
  intro c member
  obtain ⟨source, among, made | ⟨_, rfl⟩⟩ := exists_of_mem_lowerAfter member
  · exact isOneLine_lowerChar (line source among) c made
  · decide

/-! ### Quotes -/

theorem mem_fixedHex {width n : Nat} (member : c ∈ Numeral.fixedHex width n) :
    ∃ digit < 16, c = Nat.digitChar digit := by
  induction width generalizing n with
  | zero => cases member
  | succ width ih =>
    rw [Numeral.fixedHex, List.mem_append, List.mem_singleton] at member
    rcases member with higher | rfl
    · exact ih higher
    · exact ⟨n % 16, Nat.mod_lt n (by decide), rfl⟩

@[simp] theorem isOneLine_fixedHex (width n : Nat) : IsOneLine (Numeral.fixedHex width n) := by
  have digits : ∀ digit < 16, isLineBreak (Nat.digitChar digit) = false := by decide
  intro c member
  obtain ⟨digit, bounded, rfl⟩ := mem_fixedHex member
  exact digits digit bounded

theorem isOneLine_escapePoint (point : Nat) : IsOneLine (escapePoint point) := by
  have letters : isLineBreak '\\' = false ∧ isLineBreak 'x' = false ∧ isLineBreak 'u' = false ∧
      isLineBreak 'U' = false := by decide
  unfold escapePoint
  split
  · simp [letters]
  · split <;> simp [letters]

/-- A character that would end the line is not printable, so it is written by its number. -/
theorem isOneLine_escapeChar {mark : Char} (inside : isLineBreak mark = false) (c : Char) :
    IsOneLine (escapeChar mark c) := by
  unfold escapeChar
  split
  · next plain =>
    rcases (Bool.or_eq_true _ _).mp plain with same | same
    · rw [of_decide_eq_true same]
      exact isOneLine_cons.mpr ⟨by decide, isOneLine_cons.mpr ⟨inside, isOneLine_nil⟩⟩
    · rw [of_decide_eq_true same]
      decide
  · split
    · decide
    · split
      · decide
      · split
        · decide
        · split
          · next printable =>
            have unseen : ∀ target ∈ lineBreaks, isPrintable target = false := by decide +kernel
            simp [isLineBreak_eq_false unseen printable]
          · exact isOneLine_escapePoint c.toNat

theorem isLineBreak_quoteMark (text : Text) : isLineBreak (quoteMark text) = false := by
  unfold quoteMark
  split <;> decide

/-- Whatever a text holds, between quotes it stands on one line. -/
@[simp] theorem isOneLine_quoted (text : Text) : IsOneLine text.quoted := by
  have mark := isLineBreak_quoteMark text
  have inside : IsOneLine (text.flatMap (escapeChar (quoteMark text))) :=
    isOneLine_flatMap fun c _ => isOneLine_escapeChar mark c
  rw [quoted]
  simp [mark, inside]

end Text

/-! ### Numerals -/

namespace Numeral

open Text

@[simp] theorem isOneLine_decimal (n : Nat) : IsOneLine (decimal n) := by
  have figures : ∀ target ∈ lineBreaks, target.isDigit = false := by decide
  intro c member
  exact isLineBreak_eq_false figures (isDigit_of_mem_decimal member)

@[simp] theorem isOneLine_signed (n : Int) : IsOneLine (signed n) := by
  have minus : isLineBreak '-' = false := by decide
  cases n <;> simp [signed, minus]

end Numeral

end SpinWait
