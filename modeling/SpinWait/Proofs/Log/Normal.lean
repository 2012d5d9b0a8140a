import SpinWait.Log.Token
import SpinWait.Proofs.Text.AsciiCase
import SpinWait.Proofs.Text.Trim

namespace SpinWait.Log

open Text

/-! The normal form of a line that is put together from parts. -/

variable {front rest text margin gap : Text} {c : Char}

/-- A blank stands for a tab. -/
def untab (c : Char) : Char := if c = '\t' then ' ' else c

theorem normalize_eq_lower (line : Text) :
    normalize line = (collapseBlanks (line.map untab)).trim.lower := rfl

theorem isBlank_untab (blank : isBlank c = true) : isBlank (untab c) = true := by
  unfold untab
  split
  · decide
  · exact blank

theorem untab_of_visible (visible : isBlank c = false) : untab c = c := by
  unfold untab
  split
  case isTrue tab =>
    rw [tab] at visible
    exact absurd visible (by decide)
  case isFalse => rfl

theorem map_untab_eq_self (untabbed : '\t' ∉ text) : text.map untab = text := by
  have same : text.map untab = text.map id := by
    refine List.map_congr_left fun c member => if_neg ?_
    rintro rfl
    exact untabbed member
  rw [same, List.map_id]

theorem ne_blank_of_visible (visible : isBlank c = false) : c ≠ ' ' := by
  intro same
  subst same
  exact absurd visible (by decide)

theorem collapseBlanks_eq (c : Char) (rest : Text) : collapseBlanks (c :: rest) =
    if c = ' ' ∧ rest.head? = some ' ' then collapseBlanks rest else c :: collapseBlanks rest := by
  rw [collapseBlanks]

theorem collapseBlanks_cons (other : c ≠ ' ') :
    collapseBlanks (c :: rest) = c :: collapseBlanks rest := by
  simp [collapseBlanks, other]

theorem collapseBlanks_cons_blank (apart : rest.head? ≠ some ' ') :
    collapseBlanks (' ' :: rest) = ' ' :: collapseBlanks rest := by
  simp [collapseBlanks, apart]

theorem collapseBlanks_append (apart : front.getLast? ≠ some ' ') :
    collapseBlanks (front ++ rest) = collapseBlanks front ++ collapseBlanks rest := by
  induction front with
  | nil => rfl
  | cons c front ih =>
    cases front with
    | nil =>
      have other : c ≠ ' ' := fun same => apart (by simp [same])
      rw [List.singleton_append, collapseBlanks_cons other, collapseBlanks_cons other]
      rfl
    | cons next front =>
      have later := ih (by simpa using apart)
      rw [List.cons_append, collapseBlanks_eq c, collapseBlanks_eq c, later, List.cons_append,
        List.head?_cons, List.head?_cons]
      split <;> rfl

/-- Blanks are collapsed on either side of another character on their own. -/
theorem collapseBlanks_append_cons (other : c ≠ ' ') :
    collapseBlanks (front ++ c :: rest) = collapseBlanks front ++ c :: collapseBlanks rest := by
  induction front with
  | nil => exact collapseBlanks_cons other
  | cons first front ih =>
    rw [List.cons_append, collapseBlanks_eq first, collapseBlanks_eq first, ih]
    cases front with
    | nil =>
      have apart : ¬ (first = ' ' ∧ (c :: rest).head? = some ' ') :=
        fun both => other (Option.some.inj both.2)
      have alone : ¬ (first = ' ' ∧ ([] : Text).head? = some ' ') := fun both => nomatch both.2
      rw [List.nil_append, if_neg apart, if_neg alone]
      rfl
    | cons next front =>
      rw [List.cons_append, List.head?_cons, List.head?_cons]
      split <;> rfl

theorem collapseBlanks_sublist (text : Text) : (collapseBlanks text).Sublist text := by
  induction text with
  | nil => exact .slnil
  | cons c rest ih =>
    rw [collapseBlanks]
    split
    · exact ih.cons c
    · exact ih.cons_cons c

theorem head?_collapseBlanks (text : Text) : (collapseBlanks text).head? = text.head? := by
  induction text with
  | nil => rfl
  | cons c rest ih =>
    rw [collapseBlanks_eq]
    split
    · next both => rw [ih, both.2, both.1, List.head?_cons]
    · rfl

theorem head?_gap_iff (gap : Text) : (collapseBlanks (gap.map untab)).head? = some ' ' ↔
    gap.head? = some ' ' ∨ gap.head? = some '\t' := by
  rw [head?_collapseBlanks, List.head?_map]
  cases gap with
  | nil => simp
  | cons c gap =>
    simp only [List.head?_cons, Option.map_some, Option.some.injEq]
    unfold untab
    split
    · next tab => simp [tab]
    · next other => simp [other]

theorem trimEnd_comment (between rest : Text) :
    trimEnd (between ++ ';' :: rest) = between ++ ';' :: trimEnd rest := by
  have last : ∃ c ∈ (between ++ [';']).getLast?, isBlank c = false :=
    ⟨';', List.getLast?_concat, by decide⟩
  rw [← List.singleton_append, ← List.append_assoc, trimEnd_append last, List.append_assoc,
    List.singleton_append]

/-- A comment is put into normal form by itself, but for what stands before it. -/
theorem normalize_append_semicolon (front rest : Text) :
    normalize (front ++ ';' :: rest) =
      (collapseBlanks (front.map untab)).trimStart.lower ++
        ';' :: (collapseBlanks (rest.map untab)).trimEnd.lower := by
  rw [normalize_eq_lower, List.map_append, List.map_cons, show untab ';' = ';' from rfl,
    collapseBlanks_append_cons (by decide), trim, trimStart_append_visible (by decide),
    trimEnd_comment, lower_append_cons (by decide)]

theorem before_append_semicolon (front rest : Text) :
    (front ++ ';' :: rest).before ';' = front.before ';' :=
  takeWhile_append_cons (by decide)

/-- White space in front of a line leaves no mark on its normal form. -/
theorem normalize_margin (blank : ∀ c ∈ margin, isBlank c = true) :
    normalize (margin ++ text) = normalize text := by
  induction margin with
  | nil => rfl
  | cons c margin ih =>
    have later := ih fun other member => blank other (.tail c member)
    rw [← later]
    simp only [normalize_eq_lower, List.cons_append, List.map_cons, collapseBlanks]
    split
    · rfl
    · rw [trim_cons_blank (isBlank_untab (blank c (.head margin)))]

theorem normalize_eq_nil (blank : ∀ c ∈ text, isBlank c = true) : normalize text = [] := by
  have whole : normalize (text ++ []) = normalize [] := normalize_margin blank
  rwa [List.append_nil] at whole

/-- A line that begins with a visible ASCII character keeps it. -/
theorem normalize_cons (ascii : IsAscii c) (visible : isBlank c = false) :
    ∃ others, normalize (c :: rest) = c.toLower :: others := by
  have trimmed : IsTrimmed [c] := ⟨⟨c, rfl, visible⟩, ⟨c, rfl, visible⟩⟩
  rw [normalize_eq_lower, List.map_cons, untab_of_visible visible,
    collapseBlanks_cons (ne_blank_of_visible visible), ← List.singleton_append,
    trim_append trimmed, List.singleton_append, lower, lowerAfter_cons ascii]
  exact ⟨_, rfl⟩

/-- ASCII text without white space but single blanks between visible characters. -/
structure IsPlain (text : Text) : Prop where
  ascii : ∀ c ∈ text, IsAscii c
  untabbed : '\t' ∉ text
  spaced : collapseBlanks text = text
  trimmed : IsTrimmed text

theorem collapseBlanks_of_not_mem (absent : ' ' ∉ text) : collapseBlanks text = text := by
  induction text with
  | nil => rfl
  | cons c rest ih =>
    have other : c ≠ ' ' := fun same => absent (same ▸ List.mem_cons_self)
    rw [collapseBlanks_cons other, ih fun member => absent (.tail c member)]

theorem isPlain_of_visible (nonempty : text ≠ []) (ascii : ∀ c ∈ text, IsAscii c)
    (visible : ∀ c ∈ text, isBlank c = false) : IsPlain text where
  ascii := ascii
  untabbed member := absurd (visible '\t' member) (by decide)
  spaced := collapseBlanks_of_not_mem fun member => absurd (visible ' ' member) (by decide)
  trimmed := ⟨⟨_, List.head?_eq_some_head nonempty, visible _ (List.head_mem nonempty)⟩,
    ⟨_, List.getLast?_eq_some_getLast nonempty, visible _ (List.getLast_mem nonempty)⟩⟩

theorem isPlain_of_ends (ascii : ∀ c ∈ text, IsAscii c) (untabbed : '\t' ∉ text)
    (spaced : collapseBlanks text = text)
    (first : (text.head?.any fun c => !isBlank c) = true)
    (last : (text.getLast?.any fun c => !isBlank c) = true) : IsPlain text := by
  simp only [Option.any_eq_true, Bool.not_eq_true'] at first last
  exact ⟨ascii, untabbed, spaced, first, last⟩

theorem IsPlain.map_untab (plain : IsPlain text) : text.map untab = text :=
  map_untab_eq_self plain.untabbed

theorem IsPlain.normalize_eq (plain : IsPlain text) : normalize text = text.map Char.toLower := by
  rw [normalize_eq_lower, plain.map_untab, plain.spaced, plain.trimmed.trim_eq,
    lower_of_isAscii plain.ascii]

theorem isBlank_of_mem_collapseBlanks (blank : ∀ c ∈ gap, isBlank c = true) :
    ∀ c ∈ collapseBlanks (gap.map untab), isBlank c = true := by
  intro c member
  obtain ⟨other, among, rfl⟩ := List.mem_map.mp ((collapseBlanks_sublist _).subset member)
  exact isBlank_untab (blank other among)

theorem exists_last_map_untab (trimmed : IsTrimmed text) :
    ∃ c ∈ (text.map untab).getLast?, isBlank c = false := by
  obtain ⟨c, last, visible⟩ := trimmed.last
  refine ⟨c, ?_, visible⟩
  rw [Option.mem_def, List.getLast?_map, Option.mem_def.mp last, Option.map_some,
    untab_of_visible visible]

theorem collapseBlanks_append_of_isTrimmed (trimmed : IsTrimmed text) (rest : Text) :
    collapseBlanks ((text ++ rest).map untab) =
      collapseBlanks (text.map untab) ++ collapseBlanks (rest.map untab) := by
  obtain ⟨c, last, visible⟩ := exists_last_map_untab trimmed
  have apart : (text.map untab).getLast? ≠ some ' ' := fun blank =>
    ne_blank_of_visible visible (Option.some.inj (last.symm.trans blank))
  rw [List.map_append, collapseBlanks_append apart]

theorem isTrimmed_collapseBlanks (trimmed : IsTrimmed text) :
    IsTrimmed (collapseBlanks (text.map untab)) where
  first := by
    obtain ⟨c, first, visible⟩ := trimmed.first
    obtain ⟨rest, rfl⟩ := List.head?_eq_some_iff.mp first
    refine ⟨c, ?_, visible⟩
    rw [List.map_cons, untab_of_visible visible, collapseBlanks_cons (ne_blank_of_visible visible)]
    rfl
  last := by
    obtain ⟨c, last, visible⟩ := exists_last_map_untab trimmed
    obtain ⟨front, shape⟩ := List.getLast?_eq_some_iff.mp last
    refine ⟨c, ?_, visible⟩
    rw [shape, collapseBlanks_append_cons (ne_blank_of_visible visible)]
    exact List.getLast?_concat

theorem normalize_of_isTrimmed (trimmed : IsTrimmed text) :
    normalize text = (collapseBlanks (text.map untab)).lower := by
  rw [normalize_eq_lower, (isTrimmed_collapseBlanks trimmed).trim_eq]

theorem normalize_append_blanks (trimmed : IsTrimmed text) (blank : ∀ c ∈ gap, isBlank c = true) :
    normalize (text ++ gap) = normalize text := by
  rw [normalize_eq_lower, collapseBlanks_append_of_isTrimmed trimmed,
    trim_append_blanks (isBlank_of_mem_collapseBlanks blank), normalize_eq_lower]

/-- Text on either side of white space is put into normal form by itself. -/
theorem normalize_append_gap (trimmed : IsTrimmed front) (nonempty : gap ≠ [])
    (blank : ∀ c ∈ gap, isBlank c = true) (first : ∃ c ∈ text.head?, isBlank c = false) :
    normalize (front ++ gap ++ text) =
      normalize front ++ collapseBlanks (gap.map untab) ++ normalize text := by
  obtain ⟨c, first, visible⟩ := first
  obtain ⟨rest, rfl⟩ := List.head?_eq_some_iff.mp first
  have inside := isBlank_of_mem_collapseBlanks blank
  have spaced : collapseBlanks ((gap ++ c :: rest).map untab) =
      collapseBlanks (gap.map untab) ++ c :: collapseBlanks (rest.map untab) := by
    rw [List.map_append, List.map_cons, untab_of_visible visible,
      collapseBlanks_append_cons (ne_blank_of_visible visible)]
  have last : ∃ d ∈ (collapseBlanks (gap.map untab) ++ [c]).getLast?, isBlank d = false :=
    ⟨c, List.getLast?_concat, visible⟩
  have seen : IsTrimmed [c] := ⟨⟨c, rfl, visible⟩, ⟨c, rfl, visible⟩⟩
  have cut : trimEnd (collapseBlanks (gap.map untab) ++ c :: collapseBlanks (rest.map untab)) =
      collapseBlanks (gap.map untab) ++ trim (c :: collapseBlanks (rest.map untab)) := by
    rw [← List.singleton_append, trim_append seen, ← List.append_assoc, trimEnd_append last,
      List.append_assoc]
  have some : collapseBlanks (gap.map untab) ≠ [] := by
    intro empty
    have head := head?_collapseBlanks (gap.map untab)
    rw [empty, List.head?_nil, eq_comm, List.head?_eq_none_iff, List.map_eq_nil_iff] at head
    exact nonempty head
  rw [normalize_eq_lower, List.append_assoc, collapseBlanks_append_of_isTrimmed trimmed, spaced,
    trim_append (isTrimmed_collapseBlanks trimmed), cut, normalize_of_isTrimmed trimmed,
    normalize_eq_lower, List.map_cons, untab_of_visible visible,
    collapseBlanks_cons (ne_blank_of_visible visible), ← List.append_assoc,
    lower_around_blanks some inside]

theorem IsPlain.append_blank {left right : Text} (leftPlain : IsPlain left)
    (rightPlain : IsPlain right) : IsPlain (left ++ ' ' :: right) := by
  obtain ⟨first, isFirst, firstVisible⟩ := rightPlain.trimmed.first
  obtain ⟨last, isLast, lastVisible⟩ := leftPlain.trimmed.last
  have apart : left.getLast? ≠ some ' ' := fun blank =>
    ne_blank_of_visible lastVisible (Option.some.inj (isLast.symm.trans blank))
  have next : right.head? ≠ some ' ' := fun blank =>
    ne_blank_of_visible firstVisible (Option.some.inj (isFirst.symm.trans blank))
  refine ⟨?_, ?_, ?_, ?_, ?_⟩
  · intro c member
    rcases List.mem_append.mp member with front | back
    · exact leftPlain.ascii c front
    · rcases List.mem_cons.mp back with rfl | back
      · decide
      · exact rightPlain.ascii c back
  · simp [leftPlain.untabbed, rightPlain.untabbed]
  · rw [collapseBlanks_append apart, collapseBlanks_cons_blank next, leftPlain.spaced,
      rightPlain.spaced]
  · obtain ⟨c, isFirst, visible⟩ := leftPlain.trimmed.first
    exact ⟨c, by rw [Option.mem_def, List.head?_append, Option.mem_def.mp isFirst]; rfl, visible⟩
  · obtain ⟨c, isLast, visible⟩ := rightPlain.trimmed.last
    refine ⟨c, ?_, visible⟩
    rw [Option.mem_def, List.getLast?_append, List.getLast?_cons, Option.mem_def.mp isLast]
    rfl

end SpinWait.Log
