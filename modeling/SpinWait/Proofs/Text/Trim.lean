import SpinWait.Proofs.Text.Cut
import SpinWait.Text.Blank

namespace SpinWait.Text

/-! White space around a text, and the parts of a text between separators. -/

variable {front rest text : Text} {c : Char}

/-- The text is not empty and neither begins nor ends with white space. -/
structure IsTrimmed (text : Text) : Prop where
  first : ∃ c ∈ text.head?, isBlank c = false
  last : ∃ c ∈ text.getLast?, isBlank c = false

theorem IsTrimmed.ne_nil (trimmed : IsTrimmed text) : text ≠ [] := by
  intro empty
  obtain ⟨c, first, _⟩ := trimmed.first
  simp [empty] at first

theorem trimStart_of_head (first : ∃ c ∈ text.head?, isBlank c = false) :
    text.trimStart = text := by
  obtain ⟨c, first, visible⟩ := first
  cases text with
  | nil => simp at first
  | cons other rest =>
    obtain rfl : other = c := by simpa using first
    simp [trimStart, visible]

theorem trimStart_cons_blank (blank : isBlank c = true) :
    trimStart (c :: rest) = trimStart rest := by
  simp [trimStart, blank]

theorem trimEnd_of_blanks (blank : ∀ c ∈ text, isBlank c = true) : text.trimEnd = [] := by
  rw [trimEnd, List.dropWhile_eq_nil_iff.mpr fun c member => blank c (List.mem_reverse.mp member),
    List.reverse_nil]

/-- At its end a text is trimmed behind the last character that is seen. -/
theorem trimEnd_append (last : ∃ c ∈ front.getLast?, isBlank c = false) :
    trimEnd (front ++ rest) = front ++ rest.trimEnd := by
  obtain ⟨c, last, visible⟩ := last
  obtain ⟨before, rfl⟩ := List.getLast?_eq_some_iff.mp last
  have stopped : (before ++ [c]).reverse.dropWhile isBlank = (before ++ [c]).reverse := by
    simp [visible]
  rw [trimEnd, trimEnd, List.reverse_append, List.dropWhile_append, stopped]
  split
  case isTrue exhausted =>
    rw [List.isEmpty_iff.mp exhausted]
    simp
  case isFalse => simp

theorem trim_append (trimmed : IsTrimmed front) : trim (front ++ rest) = front ++ rest.trimEnd := by
  have first : ∃ c ∈ (front ++ rest).head?, isBlank c = false := by
    obtain ⟨c, first, visible⟩ := trimmed.first
    refine ⟨c, ?_, visible⟩
    rw [List.head?_append, Option.mem_def.mp first]
    rfl
  rw [trim, trimStart_of_head first, trimEnd_append trimmed.last]

theorem IsTrimmed.trim_eq (trimmed : IsTrimmed text) : text.trim = text := by
  have whole : trim (text ++ []) = text ++ trimEnd [] := trim_append trimmed
  simpa [trimEnd] using whole

theorem trim_cons_blank (blank : isBlank c = true) : trim (c :: rest) = rest.trim := by
  rw [trim, trimStart_cons_blank blank, trim]

theorem trim_blanks_append {margin : Text} (blank : ∀ c ∈ margin, isBlank c = true) :
    trim (margin ++ text) = text.trim := by
  induction margin with
  | nil => rfl
  | cons c margin ih =>
    obtain ⟨here, later⟩ := List.forall_mem_cons.mp blank
    rw [List.cons_append, trim_cons_blank here, ih later]

theorem trimStart_append_visible (visible : isBlank c = false) :
    trimStart (front ++ c :: rest) = front.trimStart ++ c :: rest :=
  dropWhile_append_cons visible

theorem trim_concat_blank (blank : isBlank c = true) : trim (text ++ [c]) = text.trim := by
  have cut (text : Text) : trimEnd (text ++ [c]) = text.trimEnd := by simp [trimEnd, blank]
  rw [trim, trim, trimStart, trimStart, List.dropWhile_append]
  split
  · next exhausted =>
    rw [List.isEmpty_iff.mp exhausted]
    simp [blank]
  · exact cut _

theorem trim_append_blanks {gap : Text} (blank : ∀ c ∈ gap, isBlank c = true) :
    trim (text ++ gap) = text.trim := by
  induction gap generalizing text with
  | nil => rw [List.append_nil]
  | cons c gap ih =>
    have later : trim (text ++ [c] ++ gap) = trim (text ++ [c]) :=
      ih fun other member => blank other (.tail c member)
    rw [List.append_assoc, List.singleton_append] at later
    rw [later, trim_concat_blank (blank c (.head gap))]

theorem trim_before_append_blanks {stop : Char} {gap : Text} (visible : isBlank stop = false)
    (blank : ∀ c ∈ gap, isBlank c = true) :
    trim ((text ++ gap).before stop) = trim (text.before stop) := by
  have free : ∀ c ∈ gap, (c != stop) = true := by
    intro c member
    rw [bne_iff_ne]
    rintro rfl
    exact absurd (blank c member) (Bool.eq_false_iff.mp visible)
  rw [before, before, List.takeWhile_append]
  split
  · next whole =>
    have all : text.takeWhile (· != stop) = text := (List.takeWhile_sublist _).eq_of_length whole
    rw [List.takeWhile_eq_self_iff.mpr free, all, trim_append_blanks blank]
  · rfl

/-! ### Nothing to trim -/

theorem trimEnd_sublist (text : Text) : text.trimEnd.Sublist text := by
  have turned := (List.dropWhile_sublist isBlank (l := text.reverse)).reverse
  rwa [List.reverse_reverse] at turned

theorem trim_sublist (text : Text) : text.trim.Sublist text :=
  (trimEnd_sublist text.trimStart).trans (List.dropWhile_sublist isBlank)

theorem isTrimmed_of_trim_eq (nonempty : text ≠ []) (kept : text.trim = text) :
    IsTrimmed text := by
  have shorter := (trimEnd_sublist text.trimStart).length_le
  change text.trim.length ≤ _ at shorter
  rw [kept] at shorter
  have fromStart : text.trimStart = text :=
    (List.dropWhile_sublist isBlank).eq_of_length_le shorter
  have toEnd : text.trimEnd = text := by rwa [trim, fromStart] at kept
  have turned : text.reverse.dropWhile isBlank = text.reverse := by
    have reversed := congrArg List.reverse toEnd
    rwa [trimEnd, List.reverse_reverse] at reversed
  have seen {list : Text} {c : Char} (stopped : list.dropWhile isBlank = list)
      (first : list.head? = some c) : isBlank c = false := by
    rw [← stopped] at first
    exact boundary_dropWhile list c first
  refine ⟨⟨_, List.head?_eq_some_head nonempty, ?_⟩, ⟨_, List.getLast?_eq_some_getLast nonempty, ?_⟩⟩
  · exact seen fromStart (List.head?_eq_some_head nonempty)
  · refine seen turned ?_
    rw [List.head?_reverse, List.getLast?_eq_some_getLast nonempty]

/-- Only white space is dropped at the end. -/
theorem exists_gap (text : Text) :
    ∃ gap, text = text.trimEnd ++ gap ∧ ∀ c ∈ gap, isBlank c = true := by
  refine ⟨(text.reverse.takeWhile isBlank).reverse, ?_, fun c member => ?_⟩
  · rw [trimEnd, ← List.reverse_append, List.takeWhile_append_dropWhile, List.reverse_reverse]
  · exact List.mem_takeWhile_imp (List.mem_reverse.mp member)

/-- A text is its visible part between two margins. -/
theorem exists_margins (text : Text) : ∃ margin gap, text = margin ++ text.trim ++ gap ∧
    (∀ c ∈ margin, isBlank c = true) ∧ ∀ c ∈ gap, isBlank c = true := by
  obtain ⟨gap, back, blank⟩ := exists_gap text.trimStart
  refine ⟨text.takeWhile isBlank, gap, ?_, fun c => List.mem_takeWhile_imp, blank⟩
  rw [trim, List.append_assoc, ← back, trimStart, List.takeWhile_append_dropWhile]

theorem isInfix_trim (text : Text) : text.trim <:+: text := by
  obtain ⟨margin, gap, shape, _⟩ := exists_margins text
  exact ⟨margin, gap, shape.symm⟩

theorem isTrimmed_trim (nonempty : text.trim ≠ []) : IsTrimmed text.trim := by
  obtain ⟨gap, back, _⟩ := exists_gap text.trimStart
  have front : text.trimStart.head? = text.trim.head? := by
    rw [back, List.head?_append, ← trim, List.head?_eq_some_head nonempty]
    rfl
  have turned : text.trim.reverse = text.trimStart.reverse.dropWhile isBlank :=
    List.reverse_reverse _
  refine ⟨⟨_, List.head?_eq_some_head nonempty, ?_⟩,
    ⟨_, List.getLast?_eq_some_getLast nonempty, ?_⟩⟩
  · refine boundary_dropWhile text _ (front.trans ?_)
    exact List.head?_eq_some_head nonempty
  · refine boundary_dropWhile text.trimStart.reverse _ ?_
    rw [← turned, List.head?_reverse]
    exact List.getLast?_eq_some_getLast nonempty

/-! ### Parts -/

theorem before_of_not_mem {stop : Char} (absent : stop ∉ text) : text.before stop = text := by
  rw [before, List.takeWhile_eq_self_iff]
  intro c member
  exact bne_iff_ne.mpr fun same => absent (same ▸ member)

theorem fields_of_not_mem {separator : Char} (absent : separator ∉ text) :
    text.fields separator = [text] := by
  induction text with
  | nil => rfl
  | cons c rest ih =>
    have differs : c ≠ separator := fun same => absent (same ▸ List.mem_cons_self)
    rw [fields, if_neg differs, ih fun member => absent (.tail c member)]

theorem fields_append {separator : Char} (absent : separator ∉ front) :
    (front ++ separator :: rest).fields separator = front :: rest.fields separator := by
  induction front with
  | nil => rw [List.nil_append, fields, if_pos rfl]
  | cons c front ih =>
    have differs : c ≠ separator := fun same => absent (same ▸ List.mem_cons_self)
    rw [List.cons_append, fields, if_neg differs, ih fun member => absent (.tail c member)]

/-- The parts and the separators between them make up the text. -/
theorem intercalate_fields (separator : Char) (text : Text) :
    [separator].intercalate (text.fields separator) = text := by
  induction text with
  | nil => rfl
  | cons c rest ih =>
    obtain ⟨part, others, parts⟩ := List.exists_cons_of_ne_nil (fields_ne_nil separator rest)
    rw [parts] at ih
    rw [fields, parts]
    split
    · next same =>
      rw [List.intercalate_cons_cons, ih, same]
      rfl
    · rw [← ih]
      cases others <;> simp [List.intercalate]

/-- A blank in front of a text is at the edge of the first part. -/
theorem map_trim_fields_cons_blank {separator : Char} (blank : isBlank c = true)
    (differs : c ≠ separator) :
    (fields separator (c :: text)).map trim = (text.fields separator).map trim := by
  rw [fields, if_neg differs]
  cases parts : text.fields separator with
  | nil => exact absurd parts (fields_ne_nil separator text)
  | cons part others => simp [trim_cons_blank blank]

/-- What follows without a separator goes to the last part. -/
theorem exists_fields_append {separator : Char} {gap : Text} (absent : separator ∉ gap)
    (text : Text) : ∃ parts last, text.fields separator = parts ++ [last] ∧
      (text ++ gap).fields separator = parts ++ [last ++ gap] := by
  induction text with
  | nil => exact ⟨[], [], rfl, fields_of_not_mem absent⟩
  | cons c rest ih =>
    obtain ⟨parts, last, whole, longer⟩ := ih
    rw [List.cons_append, fields, fields, whole, longer]
    split
    · exact ⟨[] :: parts, last, rfl, rfl⟩
    · cases parts with
      | nil => exact ⟨[], c :: last, rfl, rfl⟩
      | cons part parts => exact ⟨(c :: part) :: parts, last, rfl, rfl⟩

theorem ne_of_isBlank {separator : Char} (visible : isBlank separator = false)
    (blank : isBlank c = true) : c ≠ separator := by
  rintro rfl
  exact absurd blank (Bool.eq_false_iff.mp visible)

/-- White space around a text is at the edge of its parts. -/
theorem map_trim_fields_trim {separator : Char} (visible : isBlank separator = false)
    (text : Text) : (text.trim.fields separator).map trim = (text.fields separator).map trim := by
  have front {margin : Text} (blank : ∀ c ∈ margin, isBlank c = true) (rest : Text) :
      ((margin ++ rest).fields separator).map trim = (rest.fields separator).map trim := by
    induction margin with
    | nil => rfl
    | cons c margin ih =>
      obtain ⟨here, later⟩ := List.forall_mem_cons.mp blank
      rw [List.cons_append, map_trim_fields_cons_blank here (ne_of_isBlank visible here), ih later]
  obtain ⟨margin, gap, shape, marginBlank, gapBlank⟩ := exists_margins text
  have absent : separator ∉ gap := fun member =>
    ne_of_isBlank visible (gapBlank separator member) rfl
  obtain ⟨parts, last, whole, longer⟩ := exists_fields_append absent text.trim
  calc
    (text.trim.fields separator).map trim = parts.map trim ++ [last.trim] := by
      rw [whole, List.map_append, List.map_singleton]
    _ = ((text.trim ++ gap).fields separator).map trim := by
      rw [longer, List.map_append, List.map_singleton, trim_append_blanks gapBlank]
    _ = (text.fields separator).map trim := by
      rw [← front marginBlank, ← List.append_assoc, ← shape]

end SpinWait.Text
