import SpinWait.Proofs.Log.Rendering
import SpinWait.Proofs.Log.Spacing

namespace SpinWait.Log

open Text

/-! Text that is its own normal form, in any script. It is found again in a line that shows it at an
address, with or without a comment behind it. -/

variable {text gap between comment rest : Text} {c : Char}

/-- Each character stays as it is, blanks are single, and none is at an end. -/
structure IsNormal (text : Text) : Prop where
  simple : ∀ c ∈ text, IsSimple c
  untabbed : text.map untab = text
  small : text.map lowered = text
  spaced : collapseBlanks text = text
  trimmed : IsTrimmed text

/-- Text that is its own normal form is spaced well and in lower case. -/
theorem isNormal_of_normalize_eq (nonempty : text ≠ []) (fixed : normalize text = text) :
    IsNormal text := by
  have spaced : IsSpaced text := fixed ▸ isSpaced_normalize text
  have small : text.lower = text := fixed ▸ lower_normalize text
  have kept : ∀ c ∈ text, IsSimple c ∧ lowered c = c := by
    intro c member
    rw [← small] at member
    exact ⟨isSimple_of_mem_lower member, lowered_of_mem_lower member⟩
  refine ⟨fun c member => (kept c member).1, map_untab_eq_self spaced.untabbed, ?_,
    collapseBlanks_eq_self spaced.single, spaced.isTrimmed nonempty⟩
  rw [List.map_congr_left fun c member => (kept c member).2, List.map_id']

theorem IsNormal.normalize_eq (normal : IsNormal text) : normalize text = text := by
  rw [normalize_eq_lower, normal.untabbed, normal.spaced, normal.trimmed.trim_eq,
    lower_eq_map normal.simple, normal.small]

/-! ### With a comment behind it -/

/-- In the normal form, nothing but the white space behind a text stands between it and the
comment. -/
theorem normalize_append_comment (trimmed : IsTrimmed text)
    (blank : ∀ c ∈ gap, isBlank c = true) (comment : Text) :
    ∃ others, normalize (text ++ gap ++ ';' :: comment) =
      normalize text ++ collapseBlanks (gap.map untab) ++ ';' :: others := by
  have inside := isBlank_of_mem_collapseBlanks blank
  refine ⟨(trimEnd (collapseBlanks (comment.map untab))).lower, ?_⟩
  rw [normalize_eq_lower, List.append_assoc, collapseBlanks_append_of_isTrimmed trimmed,
    List.map_append, List.map_cons, show untab ';' = ';' from rfl,
    collapseBlanks_append_cons (by decide), trim_append (isTrimmed_collapseBlanks trimmed),
    trimEnd_comment, ← List.append_assoc, lower_append_cons (by decide), lower_append_blanks inside,
    normalize_of_isTrimmed trimmed]

theorem IsNormal.normalize_comment (normal : IsNormal text) (comment : Text)
    (blank : ∀ c ∈ gap, isBlank c = true) :
    ∃ between others, normalize (text ++ gap ++ ';' :: comment) =
      text ++ between ++ ';' :: others ∧ ∀ c ∈ between, isBlank c = true := by
  obtain ⟨others, shape⟩ := normalize_append_comment normal.trimmed blank comment
  rw [normal.normalize_eq] at shape
  exact ⟨_, others, shape, isBlank_of_mem_collapseBlanks blank⟩

/-! ### At an address -/

theorem IsNormal.readsAs (normal : IsNormal text) (uncommented : ';' ∉ text)
    (instruction : text.head? ≠ some '#') : ReadsAs text text where
  first := normal.trimmed.first
  token_eq := by
    rw [normal.normalize_eq, before_of_not_mem uncommented, normal.trimmed.trim_eq]
  nonempty := normal.trimmed.ne_nil
  instruction := instruction

theorem IsNormal.readsAs_comment (normal : IsNormal text) (uncommented : ';' ∉ text)
    (instruction : text.head? ≠ some '#') (comment : Text) (blank : ∀ c ∈ gap, isBlank c = true) :
    ReadsAs (text ++ gap ++ ';' :: comment) text where
  first := by
    obtain ⟨c, first, visible⟩ := normal.trimmed.first
    refine ⟨c, ?_, visible⟩
    rw [Option.mem_def, List.append_assoc, List.head?_append, Option.mem_def.mp first]
    rfl
  token_eq := by
    obtain ⟨between, others, shape, inside⟩ := normal.normalize_comment comment blank
    have absent : ∀ c ∈ text ++ between, (c != ';') = true := by
      intro c member
      rw [bne_iff_ne]
      rintro rfl
      rcases List.mem_append.mp member with shown | gap
      · exact uncommented shown
      · exact absurd (inside _ gap) (by decide)
    rw [shape, before, takeWhile_append_of_boundary absent (by simp), trim_append normal.trimmed,
      trimEnd_of_blanks inside, List.append_nil]
  nonempty := normal.trimmed.ne_nil
  instruction := instruction

end SpinWait.Log
