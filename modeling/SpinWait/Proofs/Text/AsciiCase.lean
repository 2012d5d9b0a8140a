import SpinWait.Proofs.Text.Case

namespace SpinWait.Text

/-! The case of ASCII letters leaves no mark on lower case, and a character without case parts a
text into words. -/

variable {front rest text : Text} {afterCased : Bool} {c : Char}

/-! ### The case of ASCII letters -/

theorem toLower_of_not_isAscii (other : ¬ IsAscii c) : c.toLower = c := by
  apply dif_neg
  rintro ⟨_, most⟩
  have small : c.toNat ≤ 'Z'.toNat := most
  exact other (Nat.lt_of_le_of_lt small (by decide))

/-- What does not tell capital ASCII letters from small ones. -/
theorem congr_toLower {α : Type} (property : Char → α)
    (points : ∀ n < 128, property (Char.ofNat n).toLower = property (Char.ofNat n)) (c : Char) :
    property c.toLower = property c := by
  by_cases ascii : IsAscii c
  · apply ascii.of_points
    exact points
  · rw [toLower_of_not_isAscii ascii]

theorem isBlank_toLower (c : Char) : isBlank c.toLower = isBlank c :=
  congr_toLower isBlank (by decide) c

/-- What the tables say of one character. -/
def caseOf (c : Char) : Bool × Bool × Text := (isCased c, isCaseIgnorable c, lowerChar c)

theorem caseOf_toLower (c : Char) : caseOf c.toLower = caseOf c :=
  congr_toLower caseOf (by decide +kernel) c

theorem isCased_toLower (c : Char) : isCased c.toLower = isCased c :=
  congrArg Prod.fst (caseOf_toLower c)

theorem isCaseIgnorable_toLower (c : Char) : isCaseIgnorable c.toLower = isCaseIgnorable c :=
  congrArg (·.2.1) (caseOf_toLower c)

theorem lowerChar_toLower (c : Char) : lowerChar c.toLower = lowerChar c :=
  congrArg (·.2.2) (caseOf_toLower c)

theorem eq_toLower_iff {other : Char}
    (small : ∀ n < 128, (Char.ofNat n).toLower = other ↔ Char.ofNat n = other) :
    c.toLower = other ↔ c = other := by
  have same := congr_toLower (fun c => decide (c = other))
    (fun n bounded => decide_eq_decide.mpr (small n bounded)) c
  exact decide_eq_decide.mp same

theorem trimStart_map_toLower (text : Text) :
    trimStart (text.map Char.toLower) = text.trimStart.map Char.toLower := by
  rw [trimStart, trimStart, List.dropWhile_map]
  congr 2
  funext c
  exact isBlank_toLower c

theorem trim_map_toLower (text : Text) :
    trim (text.map Char.toLower) = text.trim.map Char.toLower := by
  rw [trim, trimStart_map_toLower, trimEnd, ← List.map_reverse]
  change (trimStart _).reverse = _
  rw [trimStart_map_toLower, ← List.map_reverse]
  rfl

theorem leadsCased_cons (c : Char) (rest : Text) : leadsCased (c :: rest) =
    if isCaseIgnorable c then leadsCased rest else isCased c := by
  unfold leadsCased
  rw [List.dropWhile_cons]
  cases isCaseIgnorable c <;> rfl

theorem leadsCased_map_toLower (text : Text) :
    leadsCased (text.map Char.toLower) = leadsCased text := by
  induction text with
  | nil => rfl
  | cons c rest ih =>
    rw [List.map_cons, leadsCased_cons, leadsCased_cons, isCaseIgnorable_toLower, isCased_toLower,
      ih]

theorem lowerAfter_map_toLower (text : Text) :
    lowerAfter afterCased (text.map Char.toLower) = lowerAfter afterCased text := by
  induction text generalizing afterCased with
  | nil => rfl
  | cons c rest ih =>
    have sigma : c.toLower = 'Σ' ↔ c = 'Σ' := eq_toLower_iff (by decide)
    simp only [List.map_cons, lowerAfter, sigma, leadsCased_map_toLower, lowerChar_toLower,
      isCaseIgnorable_toLower, isCased_toLower, ih]

/-- The case of ASCII letters is lost. -/
theorem lower_map_toLower (text : Text) : lower (text.map Char.toLower) = text.lower :=
  lowerAfter_map_toLower text

/-- The capital letters of ASCII. -/
def capitals : Text := "ABCDEFGHIJKLMNOPQRSTUVWXYZ".toList

theorem capital_not_mem_lower {capital : Char} (among : capital ∈ capitals) :
    capital ∉ text.lower := by
  have apart : ∀ capital ∈ capitals, ('A'.toNat ≤ capital.toNat ∧ capital.toNat ≤ 'Z'.toNat) ∧
      capital.toLower ≠ capital ∧ capital.toLower ≠ dottedI ∧
      capital ∉ lowerChar dottedI ∧ capital ≠ 'ς' := by
    decide
  obtain ⟨⟨least, most⟩, changed, simple, notDotted, notSigma⟩ := apart capital among
  have unmade {c : Char} (other : c ≠ capital) : lowered c ≠ capital := by
    refine lowered_ne other (Nat.lt_of_lt_of_le (by decide) least) fun range member => ?_
    obtain ⟨_, _, avoided, _⟩ := caseRanges_fit.2 range member
    exact avoided.imp (fun below => by omega) fun above => by omega
  refine not_mem_lower (fun c => ?_) notSigma
  by_cases dotted : c = dottedI
  · subst dotted
    exact notDotted
  · by_cases same : c = capital
    · -- A capital letter is changed as the small one is, which does not become it.
      rw [same, ← lowerChar_toLower, lowerChar_of_ne simple, List.mem_singleton]
      exact (unmade changed).symm
    · rw [lowerChar_of_ne dotted, List.mem_singleton]
      exact (unmade same).symm

theorem toLower_of_mem_lower (member : c ∈ text.lower) : c.toLower = c := by
  by_cases ascii : IsAscii c
  · have either : c.toLower = c ∨ c ∈ capitals := by
      apply ascii.of_points
      decide
    exact either.resolve_right fun capital => capital_not_mem_lower capital member
  · exact toLower_of_not_isAscii ascii

/-! ### Characters between words -/

/-- The character is neither cased nor skipped nor changed, so that no word goes on behind it. -/
def isParting (c : Char) : Bool := !isCased c && !isCaseIgnorable c && lowerChar c == [c]

theorem isParting_iff :
    isParting c = true ↔ isCased c = false ∧ isCaseIgnorable c = false ∧ lowerChar c = [c] := by
  simp [isParting, and_assoc]

theorem leadsCased_append_cons (parting : isParting c = true) (front rest : Text) :
    leadsCased (front ++ c :: rest) = leadsCased front := by
  obtain ⟨uncased, counted, _⟩ := isParting_iff.mp parting
  induction front with
  | nil =>
    rw [List.nil_append, leadsCased_cons, counted, uncased]
    rfl
  | cons first front ih => rw [List.cons_append, leadsCased_cons, leadsCased_cons, ih]

theorem lowerAfter_cons_parting (parting : isParting c = true) (rest : Text) :
    lowerAfter afterCased (c :: rest) = c :: rest.lower := by
  obtain ⟨uncased, counted, kept⟩ := isParting_iff.mp parting
  have notSigma : c ≠ 'Σ' := by
    rintro rfl
    exact absurd kept (by decide)
  rw [lowerAfter, if_neg notSigma, kept, counted, uncased]
  rfl

theorem lowerAfter_append_cons (parting : isParting c = true) (front rest : Text) :
    lowerAfter afterCased (front ++ c :: rest) = lowerAfter afterCased front ++ c :: rest.lower := by
  induction front generalizing afterCased with
  | nil => exact lowerAfter_cons_parting parting rest
  | cons first front ih =>
    simp only [List.cons_append, lowerAfter, leadsCased_append_cons parting, ih, List.append_assoc]

/-- What stands on either side of such a character is put into lower case by itself. -/
theorem lower_append_cons (parting : isParting c = true) (front rest : Text) :
    lower (front ++ c :: rest) = front.lower ++ c :: rest.lower :=
  lowerAfter_append_cons parting front rest

/-! ### White space -/

variable {margin gap : Text}

theorem covers_of_isBlank {points : CodePoints}
    (table : points ∈ [casedPoints, caseIgnorablePoints]) (blank : isBlank c = true) :
    points.covers c.toNat = false := by
  have visible : ∀ points ∈ [casedPoints, caseIgnorablePoints], points.ascendFrom 0 = true ∧
      ∀ range ∈ points, isSeen range.1 range.2 = true := by
    decide +kernel
  obtain ⟨ascending, seen⟩ := visible points table
  rw [Bool.eq_false_iff, ne_eq, CodePoints.covers_iff ascending]
  intro covered
  obtain ⟨range, member, first, last⟩ := covered
  have apart := isBlank_eq_false_of_isSeen (seen range member) first last
  exact absurd blank (Bool.eq_false_iff.mp apart)

theorem isParting_of_isBlank (blank : isBlank c = true) : isParting c = true := by
  obtain ⟨_, notDotted⟩ := isSimple_of_isBlank blank
  refine isParting_iff.mpr ⟨covers_of_isBlank (.head _) blank,
    covers_of_isBlank (.tail _ (.head _)) blank, ?_⟩
  rw [lowerChar_of_ne notDotted, lowered_of_isBlank blank]

theorem lower_blanks_append (blank : ∀ c ∈ margin, isBlank c = true) (rest : Text) :
    lower (margin ++ rest) = margin ++ rest.lower := by
  induction margin with
  | nil => rfl
  | cons c margin ih =>
    obtain ⟨here, later⟩ := List.forall_mem_cons.mp blank
    rw [List.cons_append, lower, lowerAfter_cons_parting (isParting_of_isBlank here), ih later]
    rfl

theorem lower_append_blanks (blank : ∀ c ∈ gap, isBlank c = true) (front : Text) :
    lower (front ++ gap) = front.lower ++ gap := by
  cases gap with
  | nil => rw [List.append_nil, List.append_nil]
  | cons c gap =>
    obtain ⟨here, later⟩ := List.forall_mem_cons.mp blank
    have kept : lower (gap ++ []) = gap ++ [] := lower_blanks_append later []
    rw [List.append_nil] at kept
    rw [lower_append_cons (isParting_of_isBlank here), kept]

/-- What stands on either side of white space is put into lower case by itself. -/
theorem lower_around_blanks (nonempty : gap ≠ []) (blank : ∀ c ∈ gap, isBlank c = true)
    (front rest : Text) : lower (front ++ gap ++ rest) = front.lower ++ gap ++ rest.lower := by
  obtain ⟨c, others, rfl⟩ := List.exists_cons_of_ne_nil nonempty
  obtain ⟨here, later⟩ := List.forall_mem_cons.mp blank
  rw [List.append_assoc, List.cons_append, lower_append_cons (isParting_of_isBlank here),
    lower_blanks_append later, List.append_assoc, List.cons_append]

theorem lowerAfter_ne_nil (nonempty : text ≠ []) : lowerAfter afterCased text ≠ [] := by
  cases text with
  | nil => contradiction
  | cons c rest =>
    rw [lowerAfter]
    refine List.append_ne_nil_of_left_ne_nil ?_ _
    unfold lowerChar
    split
    · exact List.cons_ne_nil _ _
    · split <;> exact List.cons_ne_nil _ _

/-- In lower case, a text still ends with a visible character. -/
theorem exists_last_lower (last : ∃ c ∈ text.getLast?, isBlank c = false) :
    ∃ c ∈ text.lower.getLast?, isBlank c = false := by
  suffices all : ∀ afterCased, ∃ c ∈ (lowerAfter afterCased text).getLast?, isBlank c = false from
    all false
  induction text with
  | nil => simp at last
  | cons first rest ih =>
    intro afterCased
    cases rest with
    | nil =>
      obtain ⟨c, isLast, visible⟩ := last
      obtain rfl : first = c := Option.some.inj isLast
      simp only [lowerAfter, List.append_nil]
      by_cases sigma : first = 'Σ'
      · rw [if_pos sigma]
        refine ⟨if afterCased && !leadsCased [] then 'ς' else 'σ', rfl, ?_⟩
        split <;> decide
      · rw [if_neg sigma]
        by_cases dotted : first = dottedI
        · subst dotted
          exact ⟨'\u0307', rfl, by decide⟩
        · rw [lowerChar_of_ne dotted]
          exact ⟨_, rfl, isBlank_lowered visible⟩
    | cons next rest =>
      rw [lowerAfter, List.getLast?_append_of_ne_nil _ (lowerAfter_ne_nil (List.cons_ne_nil _ _))]
      exact ih (by simpa using last) _

end SpinWait.Text
