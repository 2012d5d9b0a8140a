import SpinWait.Proofs.Text.AsciiCase

namespace SpinWait.Text

/-! Lower case, taken once, stays. It neither makes nor loses white space, so a text can be trimmed
before or after it. -/

variable {text other margin : Text} {c : Char} {point : Nat}

/-! ### Twice lower case -/

/-- The other range changes none of the code points from `least` to `most`, in steps of `step`: they
lie outside of it or between its steps. -/
def CaseRange.spares (least most step : Nat) (other : CaseRange) : Bool :=
  most.blt other.first || other.last.blt least ||
    ((0).blt least && step.beq 2 && other.step.beq 2 && ((least + other.first) % 2).beq 1)

/-- No range changes what this one makes. -/
def CaseRange.isSettled (range : CaseRange) : Bool :=
  caseRanges.all (CaseRange.spares (range.first + range.shift).toNat
    (range.last + range.shift).toNat (if range.first = range.last then 2 else range.step))

theorem caseRanges_settled : caseRanges.all CaseRange.isSettled = true := by
  decide +kernel

theorem CaseRange.not_covered_of_isSettled {range other : CaseRange}
    (settled : range.isSettled = true) (among : other ∈ caseRanges) (first : range.first ≤ point)
    (last : point ≤ range.last) (stepped : (point - range.first) % range.step = 0) :
    ¬ (other.first ≤ (point + range.shift).toNat ∧ (point + range.shift).toNat ≤ other.last ∧
      ((point + range.shift).toNat - other.first) % other.step = 0) := by
  have spared := List.all_eq_true.mp settled other among
  simp only [spares, Bool.or_eq_true, Bool.and_eq_true, Nat.blt_eq, Nat.beq_eq] at spared
  rintro ⟨least, most, otherStepped⟩
  rcases spared with (below | above) | ⟨⟨⟨positive, step⟩, otherStep⟩, odd⟩
  · omega
  · omega
  · rw [otherStep] at otherStepped
    split at step
    · omega
    · rw [step] at stepped
      omega

theorem lowerPoint_lowerPoint (point : Nat) :
    lowerPoint caseRanges (lowerPoint caseRanges point) = lowerPoint caseRanges point := by
  rcases lowerPoint_cases caseRanges point with kept | ⟨range, member, first, last, stepped, mapped⟩
  · rw [kept, kept]
  · have settled := List.all_eq_true.mp caseRanges_settled range member
    rw [mapped]
    rcases lowerPoint_cases caseRanges (point + range.shift).toNat with
      kept | ⟨other, among, least, most, otherStepped, _⟩
    · exact kept
    · exact absurd ⟨least, most, otherStepped⟩
        (CaseRange.not_covered_of_isSettled settled among first last stepped)

theorem lowered_lowered (c : Char) : lowered (lowered c) = lowered c := by
  have default : lowered (Char.ofNat 0) = Char.ofNat 0 := by decide
  unfold lowered
  by_cases valid : (lowerPoint caseRanges c.toNat).isValidChar
  · rw [toNat_ofNat valid, lowerPoint_lowerPoint]
  · have invalid : Char.ofNat (lowerPoint caseRanges c.toNat) = Char.ofNat 0 := by
      rw [Char.ofNat, dif_neg valid]
      rfl
    rw [invalid]
    exact default

theorem lowered_of_mem_lower (member : c ∈ text.lower) : lowered c = c := by
  obtain ⟨source, _, made | ⟨_, rfl⟩⟩ := exists_of_mem_lowerAfter member
  · by_cases dotted : source = dottedI
    · subst dotted
      have kept : ∀ c ∈ lowerChar dottedI, lowered c = c := by decide
      exact kept c made
    · rw [lowerChar_of_ne dotted, List.mem_singleton] at made
      rw [made, lowered_lowered]
  · decide

/-- Text is in lower case already if each of its characters is. -/
theorem lower_of_subset (subset : text ⊆ lower other) : text.lower = text := by
  rw [lower_eq_map fun c member => isSimple_of_mem_lower (subset member),
    List.map_congr_left fun c member => lowered_of_mem_lower (subset member), List.map_id']

theorem lower_lower (text : Text) : text.lower.lower = text.lower :=
  lower_of_subset (List.Subset.refl _)

/-! ### White space -/

theorem exists_head_lower (first : ∃ c ∈ text.head?, isBlank c = false) :
    ∃ c ∈ text.lower.head?, isBlank c = false := by
  obtain ⟨c, first, visible⟩ := first
  obtain ⟨rest, rfl⟩ := List.head?_eq_some_iff.mp first
  rw [lower, lowerAfter]
  by_cases sigma : c = 'Σ'
  · rw [if_pos sigma]
    refine ⟨if false && !leadsCased rest then 'ς' else 'σ', rfl, ?_⟩
    split <;> decide
  · rw [if_neg sigma]
    by_cases dotted : c = dottedI
    · subst dotted
      exact ⟨'i', rfl, by decide⟩
    · rw [lowerChar_of_ne dotted]
      exact ⟨_, rfl, isBlank_lowered visible⟩

theorem IsTrimmed.lower (trimmed : IsTrimmed text) : IsTrimmed text.lower :=
  ⟨exists_head_lower trimmed.first, exists_last_lower trimmed.last⟩

theorem lower_trim (text : Text) : lower text.trim = trim text.lower := by
  obtain ⟨margin, gap, shape, blank, gapBlank⟩ := exists_margins text
  have split : text.lower = margin ++ lower text.trim ++ gap := by
    conv_lhs => rw [shape]
    rw [lower_append_blanks gapBlank, lower_blanks_append blank]
  rw [split, trim_append_blanks gapBlank, trim_blanks_append blank]
  by_cases empty : text.trim = []
  · rw [empty]
    rfl
  · exact (isTrimmed_trim empty).lower.trim_eq.symm

end SpinWait.Text
