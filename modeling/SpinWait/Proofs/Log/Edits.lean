import SpinWait.Proofs.Log.Address
import SpinWait.Proofs.Log.MethodBody
import SpinWait.Proofs.Log.NormalText
import SpinWait.Proofs.Text.AsciiCase

namespace SpinWait.Log

open Text

/-! Edits of a line that leave what it says, and edits of a block of lines that leave what they say
together. -/

variable {front rest text gap other line edited : Text} {c : Char} {layout : Layout}

theorem IsGap.bar_not_mem (isGap : IsGap gap) : '|' ∉ gap := by
  intro member
  rcases isGap.blanks '|' member with same | same <;> exact absurd same (by decide)

/-! ### The case of ASCII letters -/

theorem untab_toLower (c : Char) : untab c.toLower = (untab c).toLower := by
  have tab : c.toLower = '\t' ↔ c = '\t' := eq_toLower_iff (by decide)
  unfold untab
  by_cases same : c = '\t'
  · rw [if_pos (tab.mpr same), if_pos same]
    rfl
  · rw [if_neg (tab.not.mpr same), if_neg same]

theorem collapseBlanks_map_toLower (text : Text) :
    collapseBlanks (text.map Char.toLower) = (collapseBlanks text).map Char.toLower := by
  have blank (c : Char) : c.toLower = ' ' ↔ c = ' ' := eq_toLower_iff (by decide)
  induction text with
  | nil => rfl
  | cons c rest ih =>
    have next : (rest.map Char.toLower).head? = some ' ' ↔ rest.head? = some ' ' := by
      cases rest with
      | nil => rfl
      | cons next others => simp [blank]
    simp only [List.map_cons, collapseBlanks_eq, ih, blank, next]
    split <;> rfl

theorem normalize_map_toLower (line : Text) :
    normalize (line.map Char.toLower) = normalize line := by
  have untabbed : (line.map Char.toLower).map untab = (line.map untab).map Char.toLower := by
    simp [untab_toLower]
  rw [normalize_eq_lower, untabbed, collapseBlanks_map_toLower, trim_map_toLower, lower_map_toLower,
    normalize_eq_lower]

/-! ### Comments -/

/-- A comment does not decide whether an address stands before it. -/
theorem exists_afterAddress? (text : Text) : ∃ found : Option Text, ∀ rest,
    afterAddress? (text ++ ';' :: rest) = found.map (· ++ ';' :: rest) := by
  rcases text with _ | ⟨c, _ | ⟨next, others⟩⟩
  · exact ⟨none, fun rest => rfl⟩
  · refine ⟨none, fun rest => ?_⟩
    simp [afterAddress?]
  · by_cases spaced : c = ':' ∧ next = ' '
    · obtain ⟨rfl, rfl⟩ := spaced
      exact ⟨some others, fun rest => rfl⟩
    · refine ⟨none, fun rest => ?_⟩
      -- A line feed behind the colon is not the last character, because the semicolon follows it.
      simp only [List.cons_append, Option.map_none]
      unfold afterAddress?
      split <;> simp_all

theorem stripAddress_eq_self
    (other : ∀ first others, line = '0' :: 'x' :: first :: others → isAddressDigit first = false) :
    stripAddress line = line := by
  unfold stripAddress
  split
  · next first others =>
    rw [other first others rfl]
    rfl
  · rfl

/-- The text begins with an address, whether or not that ends as it should. -/
def BeginsWithAddress (text : Text) : Prop :=
  ∃ first others, text = '0' :: 'x' :: first :: others ∧ isAddressDigit first = true

theorem stripAddress_eq_self_of_not (other : ¬ BeginsWithAddress text) :
    stripAddress text = text := by
  refine stripAddress_eq_self fun first others shape => ?_
  exact Bool.eq_false_iff.mpr fun digit => other ⟨first, others, shape, digit⟩

/-- No address is completed by a character that cannot stand in one. -/
theorem not_beginsWithAddress_append (other : ¬ BeginsWithAddress text)
    (outside : c ≠ '0' ∧ c ≠ 'x' ∧ isAddressDigit c = false) (rest : Text) :
    ¬ BeginsWithAddress (text ++ c :: rest) := by
  intro begins
  obtain ⟨first, others, shape, isDigit⟩ := begins
  rcases text with _ | ⟨zero, _ | ⟨mark, _ | ⟨digit, more⟩⟩⟩
  · exact outside.1 (List.cons.inj shape).1
  · exact outside.2.1 (List.cons.inj (List.cons.inj shape).2).1
  · obtain rfl : c = first := (List.cons.inj (List.cons.inj (List.cons.inj shape).2).2).1
    exact absurd isDigit (Bool.eq_false_iff.mp outside.2.2)
  · obtain ⟨rfl, rfl, rfl, _⟩ : zero = '0' ∧ mark = 'x' ∧ digit = first ∧
        more ++ c :: rest = others := by simpa using shape
    exact other ⟨digit, more, rfl, isDigit⟩

theorem exists_stripAddress (text : Text) : ∃ kept : Text, ∀ rest,
    stripAddress (text ++ ';' :: rest) = kept ++ ';' :: rest := by
  by_cases begins : BeginsWithAddress text
  · obtain ⟨first, others, rfl, digit⟩ := begins
    obtain ⟨found, answers⟩ := exists_afterAddress? (others.dropWhile isAddressDigit)
    refine ⟨found.getD ('0' :: 'x' :: first :: others), fun rest => ?_⟩
    rw [List.cons_append, List.cons_append, List.cons_append, stripAddress_of_digit digit,
      dropWhile_append_cons (by decide), answers]
    cases found <;> rfl
  · refine ⟨text, fun rest => stripAddress_eq_self_of_not ?_⟩
    exact not_beginsWithAddress_append begins (by decide) rest

/-- What a line says does not depend on its comment. -/
theorem content_append_semicolon (front rest other : Text) :
    content (front ++ ';' :: rest) = content (front ++ ';' :: other) := by
  obtain ⟨kept, stripped⟩ := exists_stripAddress (collapseBlanks (front.map untab)).trimStart.lower
  simp only [content, normalize_append_semicolon, stripped, before_append_semicolon]

/-! ### Lines -/

/-- An edit of one line. -/
inductive LineEdit : Text → Text → Prop
  | respace {front gap other rest : Text} (isGap : IsGap gap) (otherIsGap : IsGap other) :
      LineEdit (front ++ gap ++ rest) (front ++ other ++ rest)
  | before {line gap : Text} (isGap : IsGap gap) : LineEdit line (gap ++ line)
  | behind {line gap : Text} (isGap : IsGap gap) : LineEdit line (line ++ gap)
  | recase {line edited : Text} (same : line.map Char.toLower = edited.map Char.toLower) :
      LineEdit line edited
  | recomment {front comment other : Text} (unbarred : '|' ∉ comment) (otherUnbarred : '|' ∉ other) :
      LineEdit (front ++ ';' :: comment) (front ++ ';' :: other)

theorem LineEdit.content_eq (edit : LineEdit line edited) : content edited = content line := by
  cases edit with
  | @respace front gap other rest isGap otherIsGap =>
    rw [content, otherIsGap.normalize_eq front rest, ← isGap.normalize_eq front rest, content]
  | before isGap => rw [content, normalize_margin isGap.isBlank, content]
  | behind isGap => rw [content, isGap.normalize_append, content]
  | recase same =>
    rw [content, ← normalize_map_toLower edited, ← same, normalize_map_toLower, content]
  | recomment => exact content_append_semicolon _ _ _

theorem LineEdit.bar_mem_iff (edit : LineEdit line edited) : '|' ∈ edited ↔ '|' ∈ line := by
  cases edit with
  | respace isGap otherIsGap => simp [isGap.bar_not_mem, otherIsGap.bar_not_mem]
  | before isGap => simp [isGap.bar_not_mem]
  | behind isGap => simp [isGap.bar_not_mem]
  | recase same =>
    have kept (text : Text) : '|' ∈ text.map Char.toLower ↔ '|' ∈ text := by
      have bar (c : Char) : c.toLower = '|' ↔ c = '|' := eq_toLower_iff (by decide)
      simp [List.mem_map, bar]
    rw [← kept, ← same, kept]
  | recomment unbarred otherUnbarred => simp [unbarred, otherUnbarred]

theorem tokenize_congr (same : content edited = content line) (layout : Layout) :
    tokenize layout edited = tokenize layout line := by
  unfold tokenize
  rw [same]

/-! ### Blocks -/

variable {ends lines block : List Text}

/-- An edit of the lines of a method, none of which ends it. -/
inductive BlockEdit (ends : List Text) : List Text → List Text → Prop
  | line {front back : List Text} {line edited : Text} (edit : LineEdit line edited)
      (inside : endsRegion ends edited = false) :
      BlockEdit ends (front ++ line :: back) (front ++ edited :: back)
  | insert {front back : List Text} {line : Text} (filler : Filler line) (unbarred : '|' ∉ line)
      (inside : endsRegion ends line = false) :
      BlockEdit ends (front ++ back) (front ++ line :: back)
  | delete {front back : List Text} {line : Text} (filler : Filler line) (unbarred : '|' ∉ line) :
      BlockEdit ends (front ++ line :: back) (front ++ back)

theorem BlockEdit.detect_eq (edit : BlockEdit ends lines block) :
    Layout.detect block = Layout.detect lines := by
  unfold Layout.detect
  cases edit with
  | @line front back line edited edit =>
    have bars : edited.contains '|' = line.contains '|' := by
      rw [Bool.eq_iff_iff, List.contains_iff_mem, List.contains_iff_mem, edit.bar_mem_iff]
    simp only [List.any_append, List.any_cons, bars]
  | insert filler unbarred => simp [unbarred]
  | delete filler unbarred => simp [unbarred]

theorem BlockEdit.tokenizeAll_eq (edit : BlockEdit ends lines block) (layout : Layout) :
    tokenizeAll layout block = tokenizeAll layout lines := by
  cases edit with
  | line edit => simp [tokenizeAll, tokenize_congr edit.content_eq]
  | insert filler => simp [tokenizeAll, filler.tokenize_eq]
  | delete filler => simp [tokenizeAll, filler.tokenize_eq]

theorem BlockEdit.inside (edit : BlockEdit ends lines block)
    (inside : ∀ line ∈ lines, endsRegion ends line = false) :
    ∀ line ∈ block, endsRegion ends line = false := by
  cases edit with
  | line _ kept =>
    simp only [List.forall_mem_append, List.forall_mem_cons] at inside ⊢
    exact ⟨inside.1, kept, inside.2.2⟩
  | insert _ _ kept =>
    simp only [List.forall_mem_append, List.forall_mem_cons] at inside ⊢
    exact ⟨inside.1, kept, inside.2⟩
  | delete =>
    simp only [List.forall_mem_append, List.forall_mem_cons] at inside ⊢
    exact ⟨inside.1, inside.2.2⟩

end SpinWait.Log
