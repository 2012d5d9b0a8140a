import SpinWait.Proofs.Instruction.Immediate
import SpinWait.Proofs.Log.Normal
import SpinWait.Proofs.Text.AsciiCase

namespace SpinWait.Log

open Text

/-! Lines that begin with an address, and lines that hold no instruction. -/

variable {margin address gap text line : Text} {layout : Layout} {c : Char}

/-! ### Hexadecimal digits -/

def hexDigits : Text := "0123456789abcdefABCDEF".toList

theorem isAscii_of_mem_hexDigits {c : Char} (digit : c ∈ hexDigits) : IsAscii c := by
  revert c
  decide

theorem visible_of_mem_hexDigits {c : Char} (digit : c ∈ hexDigits) : isBlank c = false := by
  revert c
  decide

theorem toLower_mem_hexDigits {c : Char} (digit : c ∈ hexDigits) :
    c.toLower ∈ hexDigits ∧ isAddressDigit c.toLower = true := by
  revert c
  decide

theorem not_mem_hexDigits {c : Char} (digit : c ∈ hexDigits) : c ∉ [' ', '\t', ':', ';', '#', '|'] := by
  revert c
  decide

theorem mem_hexDigits_iff {c : Char} :
    c ∈ hexDigits ↔ ∃ digit < 16, c.toLower = Nat.digitChar digit := by
  constructor
  · intro member
    revert c
    decide
  · intro shown
    obtain ⟨digit, small, same⟩ := shown
    by_cases ascii : IsAscii c
    · have shows : ∀ digit < 16, c.toLower = Nat.digitChar digit → c ∈ hexDigits := by
        apply ascii.of_points
        decide
      exact shows digit small same
    · have digits : ∀ digit < 16, IsAscii (Nat.digitChar digit) := by decide
      rw [toLower_of_not_isAscii ascii] at same
      exact absurd (same ▸ digits digit small) ascii

/-- Hexadecimal digits of either case, at least one. -/
structure IsHexNumeral (text : Text) : Prop where
  nonempty : text ≠ []
  digits : ∀ c ∈ text, c ∈ hexDigits

theorem IsHexNumeral.not_mem (numeral : IsHexNumeral text) {c : Char}
    (other : c ∈ [' ', '\t', ':', ';', '#', '|']) : c ∉ text :=
  fun member => not_mem_hexDigits (numeral.digits c member) other

theorem IsHexNumeral.isPlain (numeral : IsHexNumeral text) : IsPlain text :=
  isPlain_of_visible numeral.nonempty
    (fun c member => isAscii_of_mem_hexDigits (numeral.digits c member))
    fun c member => visible_of_mem_hexDigits (numeral.digits c member)

theorem IsHexNumeral.toLower (numeral : IsHexNumeral text) :
    IsHexNumeral (text.map Char.toLower) := by
  refine ⟨by simpa using numeral.nonempty, fun c member => ?_⟩
  obtain ⟨other, among, rfl⟩ := List.mem_map.mp member
  exact (toLower_mem_hexDigits (numeral.digits other among)).1

/-! ### Addresses -/

/-- White space, an address, and what is shown there. -/
def addressed (margin address text : Text) : Text :=
  margin ++ ("0x".toList ++ address ++ [':']) ++ ' ' :: text

/-- An address and its colon. -/
inductive IsAddressText : Text → Prop
  | hexadecimal {mark : Char} {digits : Text} (isMark : mark = 'x' ∨ mark = 'X')
      (numeral : IsHexNumeral digits) : IsAddressText ('0' :: mark :: (digits ++ [':']))

theorem isAddressText_of_numeral (numeral : IsHexNumeral address) :
    IsAddressText ("0x".toList ++ address ++ [':']) := by
  have shape : "0x".toList ++ address ++ [':'] = '0' :: 'x' :: (address ++ [':']) := by simp
  rw [shape]
  exact .hexadecimal (.inl rfl) numeral

/-- An address in lower case. -/
inductive IsSmallAddress : Text → Prop
  | digits {first : Char} {others : Text} (digit : isAddressDigit first = true)
      (digits : ∀ c ∈ others, isAddressDigit c = true) :
      IsSmallAddress ('0' :: 'x' :: first :: (others ++ [':']))

theorem isAddressDigit_iff : isAddressDigit c = true ↔ ∃ digit < 16, c = Nat.digitChar digit := by
  rw [isAddressDigit, Option.isSome_iff_exists]
  simp only [Numeral.lowerHexValue?_eq_some_iff]

theorem isAddressDigit_toLower_iff : isAddressDigit c.toLower = true ↔ c ∈ hexDigits := by
  rw [isAddressDigit_iff, mem_hexDigits_iff]

theorem toLower_eq_mark_iff : c.toLower = 'x' ↔ c = 'x' ∨ c = 'X' := by
  by_cases ascii : IsAscii c
  · apply ascii.of_points
    decide
  · rw [toLower_of_not_isAscii ascii]
    refine ⟨.inl, fun either => either.resolve_right ?_⟩
    rintro rfl
    exact ascii (by decide)

theorem isSmallAddress_map_toLower_iff :
    IsSmallAddress (text.map Char.toLower) ↔ IsAddressText text := by
  constructor
  · intro small
    generalize shape : text.map Char.toLower = shown at small
    cases small with
    | @digits first others digit digits =>
      obtain ⟨zero, behindZero, rfl, isZero, marked⟩ := List.map_eq_cons_iff.mp shape
      obtain ⟨mark, behindMark, rfl, isMark, numbered⟩ := List.map_eq_cons_iff.mp marked
      obtain ⟨start, behindStart, rfl, rfl, ended⟩ := List.map_eq_cons_iff.mp numbered
      obtain ⟨front, back, rfl, rfl, last⟩ := List.map_eq_append_iff.mp ended
      obtain ⟨colon, nothing, rfl, isColon, empty⟩ := List.map_eq_cons_iff.mp last
      obtain rfl := List.map_eq_nil_iff.mp empty
      obtain rfl : zero = '0' := (eq_toLower_iff (by decide)).mp isZero
      obtain rfl : colon = ':' := (eq_toLower_iff (by decide)).mp isColon
      have among : ∀ c ∈ start :: front, c ∈ hexDigits := by
        refine List.forall_mem_cons.mpr ⟨isAddressDigit_toLower_iff.mp digit, fun c member => ?_⟩
        exact isAddressDigit_toLower_iff.mp (digits _ (List.mem_map_of_mem member))
      exact .hexadecimal (toLower_eq_mark_iff.mp isMark) ⟨List.cons_ne_nil _ _, among⟩
  · intro shown
    cases shown with
    | @hexadecimal mark digits isMark numeral =>
      obtain ⟨first, others, rfl⟩ := List.exists_cons_of_ne_nil numeral.nonempty
      obtain ⟨digit, small⟩ := List.forall_mem_cons.mp numeral.digits
      rw [List.map_cons, List.map_cons, toLower_eq_mark_iff.mpr isMark, List.map_append,
        List.map_cons, List.cons_append]
      refine .digits (isAddressDigit_toLower_iff.mpr digit) fun c member => ?_
      obtain ⟨other, among, rfl⟩ := List.mem_map.mp member
      exact isAddressDigit_toLower_iff.mpr (small other among)

theorem isPlain_of_isAddressText (shown : IsAddressText text) : IsPlain text := by
  cases shown with
  | @hexadecimal mark digits isMark numeral =>
    have seen : ∀ c ∈ '0' :: mark :: (digits ++ [':']), IsAscii c ∧ isBlank c = false := by
      intro c member
      simp only [List.mem_cons, List.mem_append, List.not_mem_nil, or_false] at member
      rcases member with rfl | rfl | digit | rfl
      · decide
      · rcases isMark with rfl | rfl <;> decide
      · have among := numeral.digits c digit
        exact ⟨isAscii_of_mem_hexDigits among, visible_of_mem_hexDigits among⟩
      · decide
    exact isPlain_of_visible (List.cons_ne_nil _ _) (fun c member => (seen c member).1)
      fun c member => (seen c member).2

theorem stripAddress_of_digit {first : Char} {others : Text} (digit : isAddressDigit first = true) :
    stripAddress ('0' :: 'x' :: first :: others) =
      (afterAddress? (others.dropWhile isAddressDigit)).getD ('0' :: 'x' :: first :: others) := by
  simp only [stripAddress, digit, if_true]

theorem IsSmallAddress.stripAddress_append (small : IsSmallAddress text) (rest : Text) :
    stripAddress (text ++ rest) = (afterAddress? (':' :: rest)).getD (text ++ rest) := by
  cases small with
  | @digits first others digit digits =>
    have cut : (others ++ ':' :: rest).dropWhile isAddressDigit = ':' :: rest :=
      dropWhile_append_of_boundary digits (by simpa using (by decide : isAddressDigit ':' = false))
    have shape : '0' :: 'x' :: first :: (others ++ [':']) ++ rest =
        '0' :: 'x' :: first :: (others ++ ':' :: rest) := by simp
    rw [shape, stripAddress_of_digit digit, cut]

theorem stripAddress_of_isSmallAddress (small : IsSmallAddress text) : stripAddress text = [] := by
  have alone := small.stripAddress_append []
  rwa [List.append_nil] at alone

theorem content_at_visible (blank : ∀ c ∈ margin, isBlank c = true) (shown : IsAddressText address)
    (opens : gap.head? = some ' ' ∨ gap.head? = some '\t') (gapBlank : ∀ c ∈ gap, isBlank c = true)
    (first : ∃ c ∈ text.head?, isBlank c = false) :
    content (margin ++ address ++ gap ++ text) = ((normalize text).before ';').trim := by
  have plain := isPlain_of_isAddressText shown
  have small := isSmallAddress_map_toLower_iff.mpr shown
  have some : gap ≠ [] := by
    rintro rfl
    exact opens.elim nofun nofun
  obtain ⟨more, spaced⟩ := List.head?_eq_some_iff.mp ((head?_gap_iff gap).mpr opens)
  have moreBlank : ∀ c ∈ more, isBlank c = true := fun c member =>
    isBlank_of_mem_collapseBlanks gapBlank c (spaced ▸ .tail ' ' member)
  have uncut : ∀ c ∈ more, (c != ';') = true := by
    intro c member
    rw [bne_iff_ne]
    rintro rfl
    exact absurd (moreBlank _ member) (by decide)
  rw [content, List.append_assoc, List.append_assoc, normalize_margin blank, ← List.append_assoc,
    normalize_append_gap plain.trimmed some gapBlank first, plain.normalize_eq, spaced,
    List.append_assoc, small.stripAddress_append, List.cons_append, afterAddress?,
    Option.getD_some, before, List.takeWhile_append_of_pos uncut, trim_blanks_append moreBlank,
    before]

/-- What a line says at its address is what the text there says, whatever white space begins it. -/
theorem content_at (blank : ∀ c ∈ margin, isBlank c = true) (shown : IsAddressText address)
    (opens : gap.head? = some ' ' ∨ gap.head? = some '\t') (gapBlank : ∀ c ∈ gap, isBlank c = true)
    (text : Text) : content (margin ++ address ++ gap ++ text) =
      ((normalize text).before ';').trim := by
  obtain ⟨lead, trail, shape, leadBlank, trailBlank⟩ := exists_margins text
  by_cases empty : text.trim = []
  · have plain := isPlain_of_isAddressText shown
    have small := isSmallAddress_map_toLower_iff.mpr shown
    have textBlank : ∀ c ∈ text, isBlank c = true := by
      rw [shape, empty, List.append_nil]
      exact List.forall_mem_append.mpr ⟨leadBlank, trailBlank⟩
    rw [content, List.append_assoc, List.append_assoc, normalize_margin blank,
      normalize_append_blanks plain.trimmed (List.forall_mem_append.mpr ⟨gapBlank, textBlank⟩),
      plain.normalize_eq, stripAddress_of_isSmallAddress small, normalize_eq_nil textBlank]
  · have first : ∃ c ∈ (text.trim ++ trail).head?, isBlank c = false := by
      obtain ⟨c, first, visible⟩ := (isTrimmed_trim empty).first
      exact ⟨c, by rw [Option.mem_def, List.head?_append, Option.mem_def.mp first]; rfl, visible⟩
    have wider : (gap ++ lead).head? = some ' ' ∨ (gap ++ lead).head? = some '\t' := by
      rw [List.head?_append]
      exact opens.imp (by rw [·]; rfl) (by rw [·]; rfl)
    have whole := content_at_visible blank shown wider
      (List.forall_mem_append.mpr ⟨gapBlank, leadBlank⟩) first
    conv_lhs => rw [shape]
    conv_rhs => rw [shape, List.append_assoc, normalize_margin leadBlank]
    rw [← whole]
    simp only [List.append_assoc]

theorem content_addressed (blank : ∀ c ∈ margin, isBlank c = true) (numeral : IsHexNumeral address)
    (text : Text) : content (addressed margin address text) = ((normalize text).before ';').trim := by
  have gapBlank : ∀ c ∈ [' '], isBlank c = true := by decide
  have whole := content_at blank (isAddressText_of_numeral numeral) (.inl rfl) gapBlank text
  rwa [List.append_assoc] at whole

theorem isInstructionLine_iff :
    isInstructionLine line = true ↔ "0x".toList <:+: line ∧ ';' ∉ line := by
  simp [isInstructionLine, mentions_iff]

theorem isInstructionLine_addressed (blank : ∀ c ∈ margin, isBlank c = true)
    (numeral : IsHexNumeral address) (uncommented : ';' ∉ text) :
    isInstructionLine (addressed margin address text) = true := by
  have marginFree : ';' ∉ margin := fun member => absurd (blank ';' member) (by decide)
  have addressFree : ';' ∉ address := numeral.not_mem (by decide)
  rw [isInstructionLine_iff]
  refine ⟨⟨margin, address ++ [':'] ++ ' ' :: text, ?_⟩, ?_⟩
  · simp only [addressed, List.append_assoc]
  · simp [addressed, marginFree, addressFree, uncommented]

/-! ### Lines without instructions -/

/-- A line of white space, a comment with or without an address, or an annotation. -/
inductive Filler : Text → Prop
  | blank {line : Text} (blank : ∀ c ∈ line, isBlank c = true) : Filler line
  | comment {margin rest : Text} (blank : ∀ c ∈ margin, isBlank c = true) :
      Filler (margin ++ ';' :: rest)
  | commentAt {margin address rest : Text} (blank : ∀ c ∈ margin, isBlank c = true)
      (numeral : IsHexNumeral address) : Filler (addressed margin address (';' :: rest))
  | hashed {margin rest : Text} (blank : ∀ c ∈ margin, isBlank c = true) :
      Filler (margin ++ '#' :: rest)

theorem stripAddress_of_head {c : Char} {rest : Text} (other : c ≠ '0') :
    stripAddress (c :: rest) = c :: rest := by
  rw [stripAddress]
  intro first others same
  obtain ⟨rfl, _⟩ := same
  exact other rfl

theorem tokenize_of_content_nil (nothing : content line = []) : tokenize layout line = [] := by
  rw [tokenize, nothing]

theorem Filler.tokenize_eq (filler : Filler line) : tokenize layout line = [] := by
  cases filler with
  | blank blank =>
    refine tokenize_of_content_nil ?_
    rw [content, normalize_eq_nil blank]
    rfl
  | @comment margin rest blank =>
    refine tokenize_of_content_nil ?_
    obtain ⟨others, shape⟩ : ∃ others, normalize (';' :: rest) = Char.toLower ';' :: others :=
      normalize_cons (by decide) (by decide)
    rw [content, normalize_margin blank, shape, stripAddress_of_head (by decide)]
    rfl
  | @commentAt margin address rest blank numeral =>
    refine tokenize_of_content_nil ?_
    obtain ⟨others, shape⟩ : ∃ others, normalize (';' :: rest) = Char.toLower ';' :: others :=
      normalize_cons (by decide) (by decide)
    rw [content_addressed blank numeral, shape]
    rfl
  | @hashed margin rest blank =>
    obtain ⟨others, shape⟩ : ∃ others, normalize ('#' :: rest) = Char.toLower '#' :: others :=
      normalize_cons (by decide) (by decide)
    have seen : IsTrimmed ['#'] := ⟨⟨'#', rfl, by decide⟩, ⟨'#', rfl, by decide⟩⟩
    have kept : content (margin ++ '#' :: rest) = '#' :: (before ';' others).trimEnd := by
      rw [content, normalize_margin blank, shape, stripAddress_of_head (by decide)]
      exact trim_append seen
    rw [tokenize, kept]
    rfl

end SpinWait.Log
