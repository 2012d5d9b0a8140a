import SpinWait.Proofs.Text.Trim
import SpinWait.Proofs.Text.Lower

namespace SpinWait.Text

/-! Characters that lower case leaves as they are, and characters that it never makes. -/

variable {front rest text : Text} {afterCased : Bool} {c : Char} {point target : Nat}

/-! ### Code points -/

theorem lowerPoint_cases (ranges : List CaseRange) (point : Nat) :
    lowerPoint ranges point = point ∨ ∃ range ∈ ranges, range.first ≤ point ∧
      point ≤ range.last ∧ (point - range.first) % range.step = 0 ∧
      lowerPoint ranges point = (point + range.shift).toNat := by
  induction ranges with
  | nil => exact .inl rfl
  | cons range others ih =>
    rw [lowerPoint]
    split
    · next within =>
      split
      · next mapped =>
        obtain ⟨first, stepped⟩ : range.first ≤ point ∧ (point - range.first) % range.step = 0 := by
          simpa using mapped
        exact .inr ⟨range, .head others, first, within, stepped, rfl⟩
      · exact .inl rfl
    · rcases ih with kept | ⟨found, member, bounds⟩
      · exact .inl kept
      · exact .inr ⟨found, .tail range member, bounds⟩

/-- The range makes none of the code points from one to another. -/
def CaseRange.Avoids (range : CaseRange) (least most : Nat) : Prop :=
  range.last + range.shift < least ∨ (most : Int) < range.first + range.shift

instance (range : CaseRange) (least most : Nat) : Decidable (range.Avoids least most) :=
  inferInstanceAs (Decidable (_ ∨ _))

/-- A code point that lies in no image of a range is at most its own lower case. -/
theorem lowerPoint_ne (other : point ≠ target) (positive : 0 < target)
    (outside : ∀ range ∈ caseRanges, range.Avoids target target) :
    lowerPoint caseRanges point ≠ target := by
  intro reached
  rcases lowerPoint_cases caseRanges point with kept | ⟨range, member, first, last, _, mapped⟩
  · exact other (kept.symm.trans reached)
  · rcases outside range member with below | above
    · omega
    · omega

/-- A code point that no range covers stays. -/
theorem lowerPoint_of_uncovered
    (uncovered : ∀ range ∈ caseRanges, ¬ (range.first ≤ point ∧ point ≤ range.last)) :
    lowerPoint caseRanges point = point := by
  rcases lowerPoint_cases caseRanges point with kept | ⟨range, member, first, last, _⟩
  · exact kept
  · exact absurd ⟨first, last⟩ (uncovered range member)

/-! ### Characters -/

/-- Lower case but for the two characters that leave the simple mapping. -/
def lowered (c : Char) : Char := Char.ofNat (lowerPoint caseRanges c.toNat)

/-- A capital I with a dot becomes two characters. -/
def dottedI : Char := '\u0130'

theorem lowerChar_of_ne (other : c ≠ dottedI) : lowerChar c = [lowered c] := if_neg other

theorem toNat_ofNat (valid : point.isValidChar) : (Char.ofNat point).toNat = point := by
  rw [Char.ofNat, dif_pos valid]
  rfl

theorem ofNat_ne (other : point ≠ c.toNat) (positive : 0 < c.toNat) : Char.ofNat point ≠ c := by
  rintro rfl
  by_cases valid : point.isValidChar
  · exact other (toNat_ofNat valid).symm
  · rw [Char.ofNat, dif_neg valid] at positive
    exact absurd positive (by decide)

theorem lowered_ne {capital : Char} (other : c ≠ capital) (positive : 0 < capital.toNat)
    (outside : ∀ range ∈ caseRanges, range.Avoids capital.toNat capital.toNat) :
    lowered c ≠ capital := by
  refine ofNat_ne (lowerPoint_ne (fun same => other ?_) positive outside) positive
  exact Char.ext (UInt32.toNat_inj.mp same)

/-! ### The table -/

/-- The code points between those of white space. -/
def seenPoints : CodePoints := [
  (0x21, 0x84), (0xA1, 0x167F), (0x1681, 0x1FFF), (0x200B, 0x2027), (0x202A, 0x202E),
  (0x2060, 0x2FFF), (0x3001, 0x10FFFF)]

/-- The code points from one to another are none of white space. -/
def isSeen (first last : Nat) : Bool :=
  seenPoints.any fun gap => gap.1.ble first && last.ble gap.2

theorem isBlank_eq_false_of_isSeen {first last : Nat} (seen : isSeen first last = true)
    (least : first ≤ c.toNat) (most : c.toNat ≤ last) : isBlank c = false := by
  have apart : ∀ gap ∈ seenPoints, ∀ blank ∈ blanks, blank.2 < gap.1 ∨ gap.2 < blank.1 := by
    decide
  simp only [isSeen, List.any_eq_true, Bool.and_eq_true, Nat.ble_eq] at seen
  obtain ⟨gap, among, lower, upper⟩ := seen
  rw [Bool.eq_false_iff, ne_eq, isBlank_iff]
  intro covered
  obtain ⟨blank, member, low, high⟩ := covered
  have := apart gap among blank member
  omega

/-- What the ranges of the table make and cover: no capital sigma, no dotted I, no capital letter
of ASCII and no white space, and a character of ASCII from no other, but for the sign of the
kelvin. -/
theorem caseRanges_fit : lowered 'Σ' ≠ 'Σ' ∧ ∀ range ∈ caseRanges,
    range.Avoids 'Σ'.toNat 'Σ'.toNat ∧ range.Avoids dottedI.toNat dottedI.toNat ∧
    range.Avoids 'A'.toNat 'Z'.toNat ∧ isSeen range.first range.last = true ∧
    isSeen (range.first + range.shift).toNat (range.last + range.shift).toNat = true ∧
    (range.last < 128 ∨
      (128 ≤ range.first + range.shift ∧ range.last + range.shift < 0xD800) ∨
      (0xE000 ≤ range.first + range.shift ∧ range.last + range.shift < 0x110000) ∨
      (range.first = 0x212A ∧ range.last = 0x212A ∧ range.shift = -8383)) := by
  decide +kernel

theorem sigma_not_mem_lowerChar (c : Char) : 'Σ' ∉ lowerChar c := by
  by_cases dotted : c = dottedI
  · subst dotted
    decide
  · rw [lowerChar_of_ne dotted, List.mem_singleton]
    obtain ⟨changed, fit⟩ := caseRanges_fit
    by_cases capital : c = 'Σ'
    · exact capital ▸ changed.symm
    · exact (lowered_ne capital (by decide) fun range member => (fit range member).1).symm

theorem dottedI_not_mem_lowerChar (c : Char) : dottedI ∉ lowerChar c := by
  by_cases dotted : c = dottedI
  · subst dotted
    decide
  · rw [lowerChar_of_ne dotted, List.mem_singleton]
    obtain ⟨_, fit⟩ := caseRanges_fit
    exact (lowered_ne dotted (by decide) fun range member => (fit range member).2.1).symm

theorem lowered_of_isBlank (blank : isBlank c = true) : lowered c = c := by
  rw [lowered, lowerPoint_of_uncovered, Char.ofNat_toNat]
  intro range member covered
  obtain ⟨_, _, _, seen, _⟩ := caseRanges_fit.2 range member
  have visible := isBlank_eq_false_of_isSeen seen covered.1 covered.2
  exact absurd blank (Bool.eq_false_iff.mp visible)

theorem isBlank_lowered (visible : isBlank c = false) : isBlank (lowered c) = false := by
  have default : isBlank (Char.ofNat 0) = false := by decide
  rcases lowerPoint_cases caseRanges c.toNat with kept | ⟨range, member, first, last, _, mapped⟩
  · have same : lowered c = c := by rw [lowered, kept, Char.ofNat_toNat]
    exact (congrArg isBlank same).trans visible
  · rw [lowered, mapped]
    obtain ⟨_, _, _, _, seen, _⟩ := caseRanges_fit.2 range member
    by_cases valid : (c.toNat + range.shift).toNat.isValidChar
    · refine isBlank_eq_false_of_isSeen seen ?_ ?_
      · rw [toNat_ofNat valid]
        omega
      · rw [toNat_ofNat valid]
        omega
    · rw [Char.ofNat, dif_neg valid]
      exact default

/-- A character whose lower case is in ASCII is so itself, but for the sign of the kelvin. -/
theorem isAscii_of_lowered (ascii : IsAscii (lowered c)) (other : lowered c ≠ 'k') : IsAscii c := by
  have small {point : Nat} (valid : point.isValidChar) (shown : Char.ofNat point = lowered c) :
      point < 128 := by
    rw [← toNat_ofNat valid, shown]
    exact ascii
  -- Of all ranges only the one of the sign of the kelvin goes from outside of ASCII into it.
  rcases lowerPoint_cases caseRanges c.toNat with kept | ⟨range, member, first, last, _, mapped⟩
  · have same : lowered c = c := by rw [lowered, kept, Char.ofNat_toNat]
    exact same ▸ ascii
  · have shown : Char.ofNat (c.toNat + range.shift).toNat = lowered c := by rw [lowered, mapped]
    obtain ⟨_, _, _, _, _, images⟩ := caseRanges_fit.2 range member
    rcases images with few | ⟨least, most⟩ | ⟨least, most⟩ | ⟨least, most, shift⟩
    · exact Nat.lt_of_le_of_lt last few
    · have := small (.inl (by omega)) shown
      omega
    · have := small (.inr (by omega)) shown
      omega
    · have point : (c.toNat + range.shift).toNat = 'k'.toNat := by
        rw [shift]
        change _ = 107
        omega
      rw [point] at shown
      exact absurd shown.symm other

/-! ### Text -/

/-- Every character of the lower case is that of one character, or a final sigma. -/
theorem exists_of_mem_lowerAfter (member : c ∈ lowerAfter afterCased text) :
    ∃ source ∈ text, c ∈ lowerChar source ∨ source = 'Σ' ∧ c = 'ς' := by
  induction text generalizing afterCased with
  | nil => cases member
  | cons first rest ih =>
    rw [lowerAfter, List.mem_append] at member
    rcases member with here | later
    · refine ⟨first, .head rest, ?_⟩
      split at here
      · next sigma =>
        rw [List.mem_singleton] at here
        subst sigma
        split at here
        · exact .inr ⟨rfl, here⟩
        · exact .inl (here ▸ by decide)
      · exact .inl here
    · obtain ⟨source, among, made⟩ := ih later
      exact ⟨source, .tail first among, made⟩

theorem not_mem_lower {capital : Char} (never : ∀ c, capital ∉ lowerChar c)
    (small : capital ≠ 'ς') : capital ∉ text.lower := by
  intro member
  obtain ⟨source, _, made | ⟨_, final⟩⟩ := exists_of_mem_lowerAfter member
  · exact never source made
  · exact small final

/-- The characters that are changed for themselves, by the simple mapping. -/
def IsSimple (c : Char) : Prop := c ≠ 'Σ' ∧ c ≠ dottedI

theorem isSimple_of_isBlank (blank : isBlank c = true) : IsSimple c := by
  constructor
  · rintro rfl
    exact absurd blank (by decide)
  · rintro rfl
    exact absurd blank (by decide)

/-- Lower case makes neither a capital sigma nor a dotted I. -/
theorem isSimple_of_mem_lower (member : c ∈ text.lower) : IsSimple c := by
  constructor
  · rintro rfl
    exact not_mem_lower sigma_not_mem_lowerChar (by decide) member
  · rintro rfl
    exact not_mem_lower dottedI_not_mem_lowerChar (by decide) member

theorem lowerAfter_append_of_simple (simple : ∀ c ∈ front, IsSimple c) :
    lowerAfter afterCased (front ++ rest) =
      front.map lowered ++ lowerAfter (front.foldl casedBehind afterCased) rest := by
  induction front generalizing afterCased with
  | nil => rfl
  | cons c front ih =>
    obtain ⟨notSigma, notDotted⟩ := simple c (.head front)
    rw [List.cons_append, lowerAfter, if_neg notSigma, lowerChar_of_ne notDotted,
      ih fun other member => simple other (.tail c member)]
    rfl

theorem lower_eq_map (simple : ∀ c ∈ text, IsSimple c) :
    text.lower = text.map lowered := by
  have whole : lowerAfter false (text ++ []) = text.map lowered ++ lowerAfter _ [] :=
    lowerAfter_append_of_simple simple
  rwa [List.append_nil, lowerAfter, List.append_nil] at whole

/-- Text whose lower case is in ASCII, without the sign of the kelvin. -/
theorem map_toLower_of_lower (ascii : ∀ c ∈ text.lower, IsAscii c ∧ c ≠ 'k') :
    text.map Char.toLower = text.lower := by
  have all : ∀ afterCased, (∀ c ∈ lowerAfter afterCased text, IsAscii c ∧ c ≠ 'k') →
      ∀ c ∈ text, IsAscii c := by
    clear ascii
    induction text with
    | nil => exact fun _ _ => nofun
    | cons first rest ih =>
      intro afterCased shown
      -- Both kinds of sigma and the dot above an i are outside of ASCII.
      rw [lowerAfter, List.forall_mem_append] at shown
      obtain ⟨here, later⟩ := shown
      refine List.forall_mem_cons.mpr ⟨?_, ih _ later⟩
      by_cases sigma : first = 'Σ'
      · rw [if_pos sigma] at here
        have final : ¬ IsAscii (if afterCased && !leadsCased rest then 'ς' else 'σ') := by
          split <;> decide
        exact absurd (here _ (.head _)).1 final
      · rw [if_neg sigma] at here
        by_cases dotted : first = dottedI
        · subst dotted
          exact absurd (here '\u0307' (by decide)).1 (by decide)
        · rw [lowerChar_of_ne dotted] at here
          obtain ⟨small, other⟩ := here _ (.head _)
          exact isAscii_of_lowered small other
  exact (lower_of_isAscii (all false ascii)).symm

end SpinWait.Text
