import SpinWait.Proofs.Log.Normal
import SpinWait.Proofs.Text.SmallCase

namespace SpinWait.Log

open Text

/-! The spacing of a normal form, apart from its case. A line may be put into lower case before or
after it is spaced, and a text that is spaced well is found again in every line that holds it. -/

variable {text line rest other marker : Text} {afterCased : Bool} {c : Char}

/-- Every run of blanks and tabs becomes one blank, and white space at the ends is dropped. -/
def respace (line : Text) : Text := (collapseBlanks (line.map untab)).trim

/-- No tab, no blank after a blank, and no white space at an end. -/
structure IsSpaced (text : Text) : Prop where
  untabbed : '\t' ∉ text
  single : ¬ [' ', ' '] <:+: text
  trimmed : text.trim = text

/-! ### Well spaced text -/

theorem tab_not_mem_map_untab (text : Text) : '\t' ∉ text.map untab := by
  intro member
  obtain ⟨c, _, made⟩ := List.mem_map.mp member
  by_cases tab : c = '\t'
  · subst tab
    exact absurd made (by decide)
  · rw [untab, if_neg tab] at made
    exact tab made

theorem collapseBlanks_single (text : Text) : ¬ [' ', ' '] <:+: collapseBlanks text := by
  induction text with
  | nil => exact fun shown => absurd (List.infix_nil.mp shown) (List.cons_ne_nil _ _)
  | cons c rest ih =>
    rw [collapseBlanks_eq]
    split
    · exact ih
    · next apart =>
      rw [List.infix_cons_iff, not_or]
      refine ⟨fun shown => apart ?_, ih⟩
      obtain ⟨here, behind⟩ := List.cons_prefix_cons.mp shown
      have next : (collapseBlanks rest).head? = some ' ' := by
        obtain ⟨others, shape⟩ := behind
        rw [← shape]
        rfl
      exact ⟨here.symm, (head?_collapseBlanks rest).symm.trans next⟩

theorem collapseBlanks_eq_self (single : ¬ [' ', ' '] <:+: text) : collapseBlanks text = text := by
  induction text with
  | nil => rfl
  | cons c rest ih =>
    rw [List.infix_cons_iff, not_or] at single
    rw [collapseBlanks_eq, ih single.2, if_neg]
    rintro ⟨rfl, next⟩
    obtain ⟨others, rfl⟩ := List.head?_eq_some_iff.mp next
    exact single.1 ⟨others, rfl⟩

theorem isSpaced_respace (line : Text) : IsSpaced (respace line) where
  untabbed member := tab_not_mem_map_untab line
    ((collapseBlanks_sublist _).subset ((trim_sublist _).subset member))
  single shown := collapseBlanks_single _ (shown.trans (isInfix_trim _))
  trimmed := by
    by_cases empty : respace line = []
    · rw [empty]
      rfl
    · exact (isTrimmed_trim empty).trim_eq

theorem IsSpaced.respace_eq (spaced : IsSpaced text) : respace text = text := by
  rw [respace, map_untab_eq_self spaced.untabbed, collapseBlanks_eq_self spaced.single,
    spaced.trimmed]

theorem isSpaced_iff : IsSpaced text ↔ respace text = text :=
  ⟨fun spaced => spaced.respace_eq, fun kept => kept ▸ isSpaced_respace text⟩

theorem IsSpaced.isTrimmed (spaced : IsSpaced text) (nonempty : text ≠ []) : IsTrimmed text :=
  isTrimmed_of_trim_eq nonempty spaced.trimmed

/-- Blanks are collapsed on their own on either side of a text without margins. -/
theorem collapseBlanks_around (trimmed : IsTrimmed text) (front back : Text) :
    collapseBlanks (front ++ text ++ back) =
      collapseBlanks front ++ collapseBlanks text ++ collapseBlanks back := by
  obtain ⟨first, isFirst, visible⟩ := trimmed.first
  obtain ⟨last, isLast, lastVisible⟩ := trimmed.last
  obtain ⟨others, rfl⟩ := List.head?_eq_some_iff.mp isFirst
  have apart : (first :: others).getLast? ≠ some ' ' := fun blank =>
    ne_blank_of_visible lastVisible (Option.some.inj (isLast.symm.trans blank))
  have other := ne_blank_of_visible visible
  calc
    collapseBlanks (front ++ (first :: others) ++ back)
        = collapseBlanks front ++ first :: collapseBlanks (others ++ back) := by
          rw [List.append_assoc, List.cons_append, collapseBlanks_append_cons other]
    _ = collapseBlanks front ++ collapseBlanks ((first :: others) ++ back) := by
          rw [List.cons_append, collapseBlanks_cons other]
    _ = _ := by rw [collapseBlanks_append apart, List.append_assoc]

/-- White space is dropped on its own on either side of a text without margins. -/
theorem trim_around (trimmed : IsTrimmed text) (front back : Text) :
    trim (front ++ text ++ back) = front.trimStart ++ text ++ back.trimEnd := by
  obtain ⟨first, isFirst, visible⟩ := trimmed.first
  obtain ⟨last, isLast, lastVisible⟩ := trimmed.last
  obtain ⟨others, rfl⟩ := List.head?_eq_some_iff.mp isFirst
  have start : trimStart (front ++ (first :: others) ++ back) =
      front.trimStart ++ (first :: others) ++ back := by
    rw [List.append_assoc, List.append_assoc]
    exact trimStart_append_visible visible
  have ended : ∃ d ∈ (front.trimStart ++ (first :: others)).getLast?, isBlank d = false :=
    ⟨last, by rw [Option.mem_def, List.getLast?_append_cons, ← Option.mem_def]; exact isLast,
      lastVisible⟩
  rw [trim, start, trimEnd_append ended]

/-- What is spaced well is not torn apart when the text around it is respaced. -/
theorem IsSpaced.isInfix_respace (spaced : IsSpaced marker) (shown : marker <:+: text) :
    marker <:+: respace text := by
  by_cases empty : marker = []
  · rw [empty]
    exact List.nil_infix
  · obtain ⟨front, back, rfl⟩ := shown
    have trimmed := spaced.isTrimmed empty
    refine ⟨(collapseBlanks (front.map untab)).trimStart,
      (collapseBlanks (back.map untab)).trimEnd, ?_⟩
    rw [respace, List.map_append, List.map_append, map_untab_eq_self spaced.untabbed,
      collapseBlanks_around trimmed, collapseBlanks_eq_self spaced.single, trim_around trimmed]

/-! ### Case -/

theorem leadsCased_cons_blank (blank : isBlank c = true) (rest : Text) :
    leadsCased (c :: rest) = false := by
  obtain ⟨uncased, counted, _⟩ := isParting_iff.mp (isParting_of_isBlank blank)
  rw [leadsCased_cons, counted, uncased]
  rfl

/-- What a visible character becomes depends on the rest of its word alone. -/
theorem exists_lowerAfter_cons (visible : isBlank c = false) (afterCased : Bool)
    (same : leadsCased other = leadsCased rest) :
    ∃ made following, (∀ c ∈ made, isBlank c = false) ∧
      lowerAfter afterCased (c :: rest) = made ++ lowerAfter following rest ∧
      lowerAfter afterCased (c :: other) = made ++ lowerAfter following other := by
  refine ⟨if c = 'Σ' then [if afterCased && !leadsCased rest then 'ς' else 'σ'] else lowerChar c,
    if isCaseIgnorable c then afterCased else isCased c, ?_, by rw [lowerAfter], ?_⟩
  · split
    · split <;> decide
    · by_cases dotted : c = dottedI
      · subst dotted
        decide
      · rw [lowerChar_of_ne dotted]
        simpa using isBlank_lowered visible
  · rw [lowerAfter, same]

theorem leadsCased_map_untab (text : Text) : leadsCased (text.map untab) = leadsCased text := by
  induction text with
  | nil => rfl
  | cons c rest ih =>
    cases blank : isBlank c with
    | true =>
      rw [List.map_cons, leadsCased_cons_blank (isBlank_untab blank), leadsCased_cons_blank blank]
    | false =>
      rw [List.map_cons, untab_of_visible blank, leadsCased_cons, leadsCased_cons, ih]

theorem lowerAfter_map_untab (text : Text) :
    lowerAfter afterCased (text.map untab) = (lowerAfter afterCased text).map untab := by
  induction text generalizing afterCased with
  | nil => rfl
  | cons c rest ih =>
    rw [List.map_cons]
    cases blank : isBlank c with
    | true =>
      rw [lowerAfter_cons_parting (isParting_of_isBlank (isBlank_untab blank)),
        lowerAfter_cons_parting (isParting_of_isBlank blank), List.map_cons, lower, ih]
      rfl
    | false =>
      obtain ⟨made, following, seen, whole, untabbed⟩ :=
        exists_lowerAfter_cons blank afterCased (leadsCased_map_untab rest)
      have kept : made.map untab = made := map_untab_eq_self fun tab =>
        absurd (seen '\t' tab) (by decide)
      rw [untab_of_visible blank, untabbed, whole, List.map_append, kept, ih]

theorem leadsCased_collapseBlanks (text : Text) :
    leadsCased (collapseBlanks text) = leadsCased text := by
  induction text with
  | nil => rfl
  | cons c rest ih =>
    rw [collapseBlanks_eq]
    split
    · next both =>
      obtain ⟨rfl, next⟩ := both
      obtain ⟨others, rfl⟩ := List.head?_eq_some_iff.mp next
      rw [ih, leadsCased_cons_blank (by decide), leadsCased_cons_blank (by decide)]
    · rw [leadsCased_cons, leadsCased_cons, ih]

theorem head?_lower_blank_iff (text : Text) :
    text.lower.head? = some ' ' ↔ text.head? = some ' ' := by
  cases text with
  | nil => rfl
  | cons c rest =>
    cases blank : isBlank c with
    | true =>
      rw [lower, lowerAfter_cons_parting (isParting_of_isBlank blank)]
      rfl
    | false =>
      obtain ⟨d, first, visible⟩ := @exists_head_lower (c :: rest) ⟨c, rfl, blank⟩
      rw [Option.mem_def.mp first]
      simp [ne_blank_of_visible blank, ne_blank_of_visible visible]

theorem lowerAfter_collapseBlanks (text : Text) :
    lowerAfter afterCased (collapseBlanks text) = collapseBlanks (lowerAfter afterCased text) := by
  induction text generalizing afterCased with
  | nil => rfl
  | cons c rest ih =>
    cases blank : isBlank c with
    | true =>
      have parting := isParting_of_isBlank blank
      rw [lowerAfter_cons_parting parting, collapseBlanks_eq, collapseBlanks_eq]
      simp only [head?_lower_blank_iff]
      split
      · next both =>
        -- The blank that is kept begins a word anew, whatever stood before.
        obtain ⟨rfl, next⟩ := both
        obtain ⟨others, rfl⟩ := List.head?_eq_some_iff.mp next
        rw [ih, lower, lowerAfter_cons_parting parting, lowerAfter_cons_parting parting]
      · rw [lowerAfter_cons_parting parting, lower, ih, lower]
    | false =>
      have other := ne_blank_of_visible blank
      obtain ⟨made, following, seen, whole, collapsed⟩ :=
        exists_lowerAfter_cons blank afterCased (leadsCased_collapseBlanks rest)
      have unspaced : ' ' ∉ made := fun member => absurd (seen ' ' member) (by decide)
      have apart : made.getLast? ≠ some ' ' := fun last =>
        unspaced (List.mem_of_getLast? last)
      rw [collapseBlanks_cons other, collapsed, whole, collapseBlanks_append apart,
        collapseBlanks_of_not_mem unspaced, ih]

/-- Spacing and case do not meet. -/
theorem lower_respace (line : Text) : lower (respace line) = respace line.lower := by
  have collapsed : lower (collapseBlanks (line.map untab)) = collapseBlanks (line.lower.map untab) := by
    rw [lower, lowerAfter_collapseBlanks, lowerAfter_map_untab]
    rfl
  rw [respace, lower_trim, collapsed, respace]

theorem normalize_eq_respace (line : Text) : normalize line = respace line.lower := by
  rw [normalize_eq_lower, ← lower_respace, respace]

theorem IsSpaced.lower (spaced : IsSpaced text) : IsSpaced text.lower := by
  rw [isSpaced_iff, ← lower_respace, spaced.respace_eq]

theorem isSpaced_normalize (line : Text) : IsSpaced (normalize line) := by
  rw [normalize_eq_respace]
  exact isSpaced_respace _

theorem lower_normalize (line : Text) : lower (normalize line) = normalize line := by
  rw [normalize_eq_lower, lower_lower]

/-- Text that is spaced well and in lower case is its own normal form. -/
theorem IsSpaced.normalize_eq (spaced : IsSpaced text) (small : text.lower = text) :
    normalize text = text := by
  rw [normalize_eq_respace, small, spaced.respace_eq]

theorem normalize_normalize (line : Text) : normalize (normalize line) = normalize line :=
  (isSpaced_normalize line).normalize_eq (lower_normalize line)

/-! ### Gaps -/

/-- A run of blanks and tabs. -/
structure IsGap (gap : Text) : Prop where
  nonempty : gap ≠ []
  blanks : ∀ c ∈ gap, c = ' ' ∨ c = '\t'

theorem IsGap.isBlank (isGap : IsGap gap) : ∀ c ∈ gap, isBlank c = true := by
  intro c member
  rcases isGap.blanks c member with rfl | rfl <;> decide

theorem IsGap.exists_map_untab (isGap : IsGap gap) :
    ∃ width, gap.map untab = ' ' :: List.replicate width ' ' := by
  obtain ⟨first, others, rfl⟩ := List.exists_cons_of_ne_nil isGap.nonempty
  refine ⟨others.length, ?_⟩
  rw [← List.replicate_succ, List.eq_replicate_iff]
  refine ⟨by rw [List.length_map, List.length_cons], fun c member => ?_⟩
  obtain ⟨blank, among, rfl⟩ := List.mem_map.mp member
  rcases isGap.blanks blank among with rfl | rfl <;> rfl

theorem collapseBlanks_append_blank_blank (front rest : Text) :
    collapseBlanks (front ++ ' ' :: ' ' :: rest) = collapseBlanks (front ++ ' ' :: rest) := by
  induction front with
  | nil => simp [collapseBlanks_eq ' ' (' ' :: rest)]
  | cons c front ih =>
    rw [List.cons_append, List.cons_append, collapseBlanks_eq c, collapseBlanks_eq c, ih]
    cases front <;> rfl

theorem collapseBlanks_append_blanks (front rest : Text) (width : Nat) :
    collapseBlanks (front ++ ' ' :: (List.replicate width ' ' ++ rest)) =
      collapseBlanks (front ++ ' ' :: rest) := by
  induction width with
  | zero => rfl
  | succ width ih =>
    rw [List.replicate_succ, List.cons_append, collapseBlanks_append_blank_blank, ih]

/-- A run of blanks and tabs is like one blank. -/
theorem IsGap.normalize_eq (isGap : IsGap gap) (front rest : Text) :
    normalize (front ++ gap ++ rest) = normalize (front ++ ' ' :: rest) := by
  obtain ⟨width, blanks⟩ := isGap.exists_map_untab
  have spaced : (front ++ gap ++ rest).map untab =
      front.map untab ++ ' ' :: (List.replicate width ' ' ++ rest.map untab) := by
    rw [List.map_append, List.map_append, blanks, List.append_assoc, List.cons_append]
  rw [normalize_eq_lower, spaced, collapseBlanks_append_blanks, normalize_eq_lower, List.map_append,
    List.map_cons, show untab ' ' = ' ' from rfl]

theorem normalize_concat_blank (text : Text) : normalize (text ++ [' ']) = normalize text := by
  rw [normalize_eq_lower, List.map_append, normalize_eq_lower]
  change (trim (collapseBlanks (text.map untab ++ [' ']))).lower = _
  by_cases ends : (text.map untab).getLast? = some ' '
  · obtain ⟨others, shape⟩ := List.getLast?_eq_some_iff.mp ends
    rw [shape, List.append_assoc, List.singleton_append, collapseBlanks_append_blank_blank]
  · rw [collapseBlanks_append ends]
    exact congrArg lower (trim_concat_blank (by decide))

theorem IsGap.normalize_append (isGap : IsGap gap) (text : Text) :
    normalize (text ++ gap) = normalize text := by
  have whole := isGap.normalize_eq text []
  rwa [List.append_nil, normalize_concat_blank] at whole

end SpinWait.Log
