import SpinWait.Proofs.Log.Edits
import SpinWait.Proofs.Log.Token

namespace SpinWait.Log

open Text

/-! A comment behind a line. It leaves the tokens as they are, unless the line is nothing but an
address and has neither a blank nor a tab behind its colon: then the address is taken for an
instruction. -/

variable {line text core gap between comment others rest : Text} {layout : Layout} {c : Char}

/-! ### Addresses -/

/-- Nothing but an address stands on the line, with this white space behind it. -/
inductive IsAddressLine : Text → Text → Prop
  | address {margin address gap : Text} (blank : ∀ c ∈ margin, isBlank c = true)
      (shown : IsAddressText address) (gapBlank : ∀ c ∈ gap, isBlank c = true) :
      IsAddressLine (margin ++ address ++ gap) gap

/-- Neither a blank nor a tab stands behind the address. -/
def IsBareAddress (line : Text) : Prop :=
  ∃ gap, IsAddressLine line gap ∧ gap.head? ≠ some ' ' ∧ gap.head? ≠ some '\t'

/-! ### The normal form of an address -/

theorem blank_mem_collapseBlanks (member : ' ' ∈ text) : ' ' ∈ collapseBlanks text := by
  induction text with
  | nil => cases member
  | cons c rest ih =>
    rw [collapseBlanks_eq]
    split
    · next both =>
      exact ih (List.mem_of_mem_head? (Option.mem_def.mpr both.2))
    · rcases List.mem_cons.mp member with rfl | later
      · exact .head _
      · exact .tail c (ih later)

/-- Without a blank in it, the normal form of a text differs in its case alone. -/
theorem normalize_eq_map_toLower (trimmed : IsTrimmed text)
    (ascii : ∀ c ∈ normalize text, IsAscii c ∧ c ≠ 'k') (unspaced : ' ' ∉ normalize text) :
    normalize text = text.map Char.toLower := by
  rw [normalize_of_isTrimmed trimmed] at ascii unspaced ⊢
  have cased := map_toLower_of_lower ascii
  have untabbed : ' ' ∉ text.map untab := fun member =>
    unspaced (cased ▸ List.mem_map.mpr ⟨' ', blank_mem_collapseBlanks member, rfl⟩)
  -- A tab would be a blank in the normal form.
  have kept : text.map untab = text.map id := by
    refine List.map_congr_left fun c member => if_neg fun tab => untabbed ?_
    subst tab
    exact List.mem_map.mpr ⟨'\t', member, rfl⟩
  rw [← cased, collapseBlanks_of_not_mem untabbed, kept, List.map_id]

theorem mem_of_isSmallAddress (small : IsSmallAddress text) (member : c ∈ text) :
    c ∈ "0123456789abcdefx:".toList := by
  have all : ∀ digit < 16, Nat.digitChar digit ∈ "0123456789abcdefx:".toList := by decide
  have among {c : Char} (digit : isAddressDigit c = true) : c ∈ "0123456789abcdefx:".toList := by
    obtain ⟨value, bounded, rfl⟩ := isAddressDigit_iff.mp digit
    exact all value bounded
  cases small with
  | @digits first others digit digits =>
    simp only [List.mem_cons, List.mem_append, List.not_mem_nil, or_false] at member
    rcases member with rfl | rfl | rfl | later | rfl
    · decide
    · decide
    · exact among digit
    · exact among (digits c later)
    · decide

theorem isSmallAddress_normalize_iff (trimmed : IsTrimmed text) :
    IsSmallAddress (normalize text) ↔ IsAddressText text := by
  rw [← isSmallAddress_map_toLower_iff]
  constructor
  · intro small
    have plain : ∀ c ∈ "0123456789abcdefx:".toList, (IsAscii c ∧ c ≠ 'k') ∧ c ≠ ' ' := by decide
    have all : ∀ c ∈ normalize text, (IsAscii c ∧ c ≠ 'k') ∧ c ≠ ' ' := fun c member =>
      plain c (mem_of_isSmallAddress small member)
    have same := normalize_eq_map_toLower trimmed (fun c member => (all c member).1)
      fun member => (all ' ' member).2 rfl
    rwa [← same]
  · intro small
    rwa [(isPlain_of_isAddressText (isSmallAddress_map_toLower_iff.mp small)).normalize_eq]

/-! ### Before a comment -/

theorem exists_comment_head (blank : ∀ c ∈ between, isBlank c = true) (others : Text) :
    ∃ c rest, between ++ ';' :: others = c :: rest ∧ (isBlank c = true ∨ c = ';') := by
  cases between with
  | nil => exact ⟨';', others, rfl, .inr rfl⟩
  | cons c between => exact ⟨c, between ++ ';' :: others, rfl, .inl (blank c (.head between))⟩

theorem afterAddress?_of_head (other : c ≠ ':') : afterAddress? (c :: rest) = none := by
  unfold afterAddress?
  split <;> simp_all

/-- What follows an address is the same with a comment behind it, but for the colon alone, which
needs a blank there. -/
theorem exists_afterAddress?_comment (fed : text ≠ [':', '\n'])
    (blank : ∀ c ∈ between, isBlank c = true) (spaced : text = [':'] → between.head? = some ' ')
    (others : Text) : ∃ more, (∀ c ∈ more, isBlank c = true) ∧
      afterAddress? (text ++ (between ++ ';' :: others)) =
        (afterAddress? text).map (· ++ (more ++ ';' :: others)) := by
  rcases text with _ | ⟨c, _ | ⟨next, behind⟩⟩
  · obtain ⟨c, rest, shape, head⟩ := exists_comment_head blank others
    have other : c ≠ ':' := by
      rintro rfl
      revert head
      decide
    exact ⟨[], nofun, by rw [List.nil_append, shape, afterAddress?_of_head other]; rfl⟩
  · by_cases colon : c = ':'
    · subst colon
      obtain ⟨more, rfl⟩ := List.head?_eq_some_iff.mp (spaced rfl)
      exact ⟨more, fun c member => blank c (.tail ' ' member), rfl⟩
    · refine ⟨[], nofun, ?_⟩
      rw [List.singleton_append, afterAddress?_of_head colon, afterAddress?_of_head colon]
      rfl
  · by_cases opens : c = ':' ∧ next = ' '
    · obtain ⟨rfl, rfl⟩ := opens
      exact ⟨between, blank, rfl⟩
    · have neither {behind : Text} (unfed : c :: next :: behind ≠ [':', '\n']) :
          afterAddress? (c :: next :: behind) = none := by
        unfold afterAddress?
        split <;> simp_all
      refine ⟨[], nofun, ?_⟩
      rw [neither fed, List.cons_append, List.cons_append, neither (by simp)]
      rfl

/-- What an address is told from stops at a comment and at the white space before it. -/
theorem outside_of_comment_head (head : isBlank c = true ∨ c = ';') :
    c ≠ '0' ∧ c ≠ 'x' ∧ isAddressDigit c = false := by
  rcases head with blank | rfl
  · refine ⟨?_, ?_, Bool.eq_false_iff.mpr fun digit => ?_⟩
    · rintro rfl
      exact absurd blank (by decide)
    · rintro rfl
      exact absurd blank (by decide)
    · have visible : ∀ digit < 16, isBlank (Nat.digitChar digit) = false := by decide
      obtain ⟨value, small, rfl⟩ := isAddressDigit_iff.mp digit
      exact absurd blank (Bool.eq_false_iff.mp (visible value small))
  · decide

theorem ne_append_feed (ended : ∃ c ∈ text.getLast?, isBlank c = false) (front : Text) :
    text ≠ front ++ ['\n'] := by
  rintro rfl
  obtain ⟨c, last, visible⟩ := ended
  rw [List.getLast?_concat] at last
  obtain rfl : '\n' = c := Option.some.inj last
  exact absurd visible (by decide)

theorem exists_stripAddress_comment (ended : ∃ c ∈ text.getLast?, isBlank c = false)
    (blank : ∀ c ∈ between, isBlank c = true)
    (spaced : IsSmallAddress text → between.head? = some ' ') (others : Text) :
    ∃ more, (∀ c ∈ more, isBlank c = true) ∧
      stripAddress (text ++ (between ++ ';' :: others)) =
        stripAddress text ++ (more ++ ';' :: others) := by
  obtain ⟨head, behind, shape, isHead⟩ := exists_comment_head blank others
  have outside := outside_of_comment_head isHead
  by_cases begins : BeginsWithAddress text
  · obtain ⟨first, digits, rfl, digit⟩ := begins
    have whole := List.takeWhile_append_dropWhile (p := isAddressDigit) (l := digits)
    have cut : (digits ++ (between ++ ';' :: others)).dropWhile isAddressDigit =
        digits.dropWhile isAddressDigit ++ (between ++ ';' :: others) := by
      refine dropWhile_append fun c first => ?_
      rw [shape] at first
      obtain rfl : head = c := Option.some.inj first
      exact outside.2.2
    -- A line feed alone would do behind the colon, but a text ends with no white space here.
    have fed : digits.dropWhile isAddressDigit ≠ [':', '\n'] := by
      intro same
      have feed : digits = digits.takeWhile isAddressDigit ++ [':'] ++ ['\n'] := by
        rw [List.append_assoc]
        exact whole.symm.trans (congrArg _ same)
      exact ne_append_feed ended ('0' :: 'x' :: first :: (digits.takeWhile isAddressDigit ++ [':']))
        (congrArg ('0' :: 'x' :: first :: ·) feed)
    have spacedColon : digits.dropWhile isAddressDigit = [':'] → between.head? = some ' ' := by
      intro same
      rw [same] at whole
      refine spaced ?_
      rw [← whole]
      exact .digits digit fun c => List.mem_takeWhile_imp
    obtain ⟨more, moreBlank, answers⟩ := exists_afterAddress?_comment fed blank spacedColon others
    rw [List.cons_append, List.cons_append, List.cons_append, stripAddress_of_digit digit, cut,
      answers, stripAddress_of_digit digit]
    cases afterAddress? (digits.dropWhile isAddressDigit) with
    | none => exact ⟨between, blank, rfl⟩
    | some kept => exact ⟨more, moreBlank, rfl⟩
  · refine ⟨between, blank, ?_⟩
    rw [stripAddress_eq_self_of_not begins, shape]
    exact stripAddress_eq_self_of_not (not_beginsWithAddress_append begins outside behind)

/-! ### What a line says -/

/-- Blank lines apart, a line is a text without margins between white space. -/
theorem exists_core (line : Text) : (∀ c ∈ line, isBlank c = true) ∨
    ∃ margin core gap, line = margin ++ core ++ gap ∧ IsTrimmed core ∧
      (∀ c ∈ margin, isBlank c = true) ∧ ∀ c ∈ gap, isBlank c = true := by
  obtain ⟨margin, gap, shape, marginBlank, gapBlank⟩ := exists_margins line
  by_cases empty : line.trim = []
  · left
    rw [shape, empty, List.append_nil]
    exact List.forall_mem_append.mpr ⟨marginBlank, gapBlank⟩
  · exact .inr ⟨margin, line.trim, gap, shape, isTrimmed_trim empty, marginBlank, gapBlank⟩

theorem exists_last_normalize (trimmed : IsTrimmed core) :
    ∃ c ∈ (normalize core).getLast?, isBlank c = false := by
  rw [normalize_of_isTrimmed trimmed]
  exact exists_last_lower (isTrimmed_collapseBlanks trimmed).last

/-- With a blank or a tab behind an address, a comment is not seen. -/
theorem content_comment (trimmed : IsTrimmed core) (blank : ∀ c ∈ gap, isBlank c = true)
    (spaced : IsAddressText core → gap.head? = some ' ' ∨ gap.head? = some '\t')
    (comment : Text) : content (core ++ gap ++ ';' :: comment) = content (core ++ gap) := by
  obtain ⟨others, shape⟩ := normalize_append_comment trimmed blank comment
  have opens : IsSmallAddress (normalize core) →
      (collapseBlanks (gap.map untab)).head? = some ' ' := fun small =>
    (head?_gap_iff gap).mpr (spaced ((isSmallAddress_normalize_iff trimmed).mp small))
  obtain ⟨more, moreBlank, stripped⟩ := exists_stripAddress_comment (exists_last_normalize trimmed)
    (isBlank_of_mem_collapseBlanks blank) opens others
  rw [content, content, shape, normalize_append_blanks trimmed blank, List.append_assoc, stripped,
    ← List.append_assoc, before_append_semicolon, trim_before_append_blanks (by decide) moreBlank]

/-! ### An address alone -/

/-- Without a blank behind its colon an address is kept. -/
theorem stripAddress_append_of_isSmallAddress (small : IsSmallAddress text)
    (bare : rest.head? ≠ some ' ') (long : rest ≠ [] ∧ rest ≠ ['\n']) :
    stripAddress (text ++ rest) = text ++ rest := by
  have kept : afterAddress? (':' :: rest) = none := by
    unfold afterAddress?
    split <;> simp_all
  rw [small.stripAddress_append, kept]
  rfl

theorem isPlain_of_isSmallAddress (small : IsSmallAddress text) : IsPlain text := by
  have seen : ∀ c ∈ "0123456789abcdefx:".toList, IsAscii c ∧ isBlank c = false := by decide
  have nonempty : text ≠ [] := by
    cases small with
    | digits => exact List.cons_ne_nil _ _
  exact isPlain_of_visible nonempty
    (fun c member => (seen c (mem_of_isSmallAddress small member)).1)
    fun c member => (seen c (mem_of_isSmallAddress small member)).2

theorem content_of_address (trimmed : IsTrimmed core) (blank : ∀ c ∈ gap, isBlank c = true)
    (shown : IsAddressText core) : content (core ++ gap) = [] := by
  have small := (isSmallAddress_normalize_iff trimmed).mpr shown
  rw [content, normalize_append_blanks trimmed blank, stripAddress_of_isSmallAddress small]
  rfl

theorem content_of_bareAddress (trimmed : IsTrimmed core) (blank : ∀ c ∈ gap, isBlank c = true)
    (shown : IsAddressText core) (bare : gap.head? ≠ some ' ' ∧ gap.head? ≠ some '\t')
    (comment : Text) : content (core ++ gap ++ ';' :: comment) = normalize core := by
  obtain ⟨others, shape⟩ := normalize_append_comment trimmed blank comment
  have small := (isSmallAddress_normalize_iff trimmed).mpr shown
  have inside := isBlank_of_mem_collapseBlanks blank
  have apart : (collapseBlanks (gap.map untab)).head? ≠ some ' ' := fun same =>
    not_or.mpr bare ((head?_gap_iff gap).mp same)
  have bareRest : (collapseBlanks (gap.map untab) ++ ';' :: others).head? ≠ some ' ' := by
    cases between : collapseBlanks (gap.map untab) with
    | nil => exact (by decide : some ';' ≠ some ' ')
    | cons c rest => rwa [between] at apart
  have semicolon : ';' ∈ collapseBlanks (gap.map untab) ++ ';' :: others :=
    List.mem_append_right _ (.head _)
  have long : collapseBlanks (gap.map untab) ++ ';' :: others ≠ [] ∧
      collapseBlanks (gap.map untab) ++ ';' :: others ≠ ['\n'] := by
    constructor
    · exact List.ne_nil_of_mem semicolon
    · intro same
      rw [same] at semicolon
      exact absurd semicolon (by decide)
  have uncommented : ';' ∉ normalize core := fun member =>
    absurd (mem_of_isSmallAddress small member) (by decide)
  rw [content, shape, List.append_assoc, stripAddress_append_of_isSmallAddress small bareRest long,
    ← List.append_assoc, before_append_semicolon, trim_before_append_blanks (by decide) inside,
    before_of_not_mem uncommented, (isPlain_of_isSmallAddress small).trimmed.trim_eq]

theorem head?_isSmallAddress (small : IsSmallAddress text) : text.head? = some '0' := by
  cases small
  rfl

theorem tokenize_of_isSmallAddress (small : IsSmallAddress text) (same : content line = text) :
    tokenize layout line = [text] := by
  refine tokenize_of_content same (isPlain_of_isSmallAddress small).trimmed ?_ fun _ member => ?_
  · rw [head?_isSmallAddress small]
    decide
  · exact absurd (mem_of_isSmallAddress small member) (by decide)

theorem isTrimmed_of_isAddressText (shown : IsAddressText core) : IsTrimmed core :=
  (isPlain_of_isAddressText shown).trimmed

/-- The white space is all that there is behind the address. -/
theorem IsAddressLine.trimEnd_append (alone : IsAddressLine line gap) :
    trimEnd line ++ gap = line := by
  cases alone with
  | @address margin core _ blank shown gapBlank =>
    obtain ⟨c, isLast, visible⟩ := (isTrimmed_of_isAddressText shown).last
    have last : ∃ c ∈ (margin ++ core).getLast?, isBlank c = false := by
      refine ⟨c, ?_, visible⟩
      rw [Option.mem_def, List.getLast?_append, Option.mem_def.mp isLast]
      rfl
    rw [Text.trimEnd_append last, trimEnd_of_blanks gapBlank, List.append_nil]

theorem IsAddressLine.tokenize_eq (alone : IsAddressLine line gap) : tokenize layout line = [] := by
  cases alone with
  | @address margin core _ blank shown gapBlank =>
    refine tokenize_of_content_nil ?_
    rw [content, List.append_assoc, normalize_margin blank, ← content]
    exact content_of_address (isTrimmed_of_isAddressText shown) gapBlank shown

theorem IsBareAddress.tokenize_comment (bare : IsBareAddress line) (layout : Layout)
    (comment : Text) : tokenize layout (line ++ ';' :: comment) = [normalize line] := by
  obtain ⟨gap, alone, apart⟩ := bare
  cases alone with
  | @address margin core _ blank shown gapBlank =>
    have trimmed := isTrimmed_of_isAddressText shown
    have whole : normalize (margin ++ core ++ gap) = normalize core := by
      rw [List.append_assoc, normalize_margin blank, normalize_append_blanks trimmed gapBlank]
    rw [whole]
    refine tokenize_of_isSmallAddress ((isSmallAddress_normalize_iff trimmed).mpr shown) ?_
    rw [List.append_assoc, List.append_assoc, content, normalize_margin blank, ← content,
      ← List.append_assoc]
    exact content_of_bareAddress trimmed gapBlank shown apart comment

theorem tokenize_comment_of_not_bare (kept : ¬ IsBareAddress line) (layout : Layout)
    (comment : Text) : tokenize layout (line ++ ';' :: comment) = tokenize layout line := by
  rcases exists_core line with blank | ⟨margin, core, gap, rfl, trimmed, blank, gapBlank⟩
  · rw [(Filler.comment blank).tokenize_eq, (Filler.blank blank).tokenize_eq]
  · refine tokenize_congr ?_ layout
    have spaced : IsAddressText core → gap.head? = some ' ' ∨ gap.head? = some '\t' := by
      intro shown
      by_contra neither
      exact kept ⟨gap, .address blank shown gapBlank, not_or.mp neither⟩
    have same := content_comment trimmed gapBlank spaced comment
    rw [content, content] at same
    rw [content, content, List.append_assoc, List.append_assoc, normalize_margin blank,
      List.append_assoc, normalize_margin blank, ← List.append_assoc]
    exact same

/-- A comment leaves the tokens of a line as they are, unless the line is a bare address. That has
no token, like every line of an address alone, but with a comment directly behind it has itself. -/
theorem tokenize_comment_iff (layout : Layout) (line comment : Text) :
    (tokenize layout (line ++ ';' :: comment) = tokenize layout line ↔ ¬ IsBareAddress line) ∧
      (∀ gap, IsAddressLine line gap → tokenize layout line = []) ∧
      (IsBareAddress line → tokenize layout (line ++ ';' :: comment) = [normalize line]) := by
  refine ⟨⟨?_, ?_⟩, fun gap alone => alone.tokenize_eq, fun bare => bare.tokenize_comment _ _⟩
  · intro same bare
    rw [bare.tokenize_comment] at same
    obtain ⟨gap, alone, _⟩ := bare
    rw [alone.tokenize_eq] at same
    cases same
  · exact fun kept => tokenize_comment_of_not_bare kept layout comment

theorem bareAddress_comment_shown : ¬ ∀ (line comment : Text) (layout : Layout),
    tokenize layout (line ++ ';' :: comment) = tokenize layout line := by
  intro dropped
  have shown : tokenize .mnemonic ("0x1:".toList ++ ';' :: "c".toList) = ["0x1:".toList] := by
    decide +kernel
  have nothing : tokenize .mnemonic "0x1:".toList = [] := by decide +kernel
  rw [dropped, nothing] at shown
  cases shown

theorem spacedAddress_comment_dropped :
    tokenize .hex ("\t0X1F: ".toList ++ ';' :: "*getstatic".toList) = [] ∧
      tokenize .hex ("\t0X1F:".toList ++ ';' :: "*getstatic".toList) = ["0x1f:".toList] := by
  have address : IsAddressText "0X1F:".toList :=
    @IsAddressText.hexadecimal 'X' "1F".toList (.inr rfl) ⟨by decide, by decide⟩
  have margin : ∀ c ∈ "\t".toList, isBlank c = true := by decide
  have spaced : IsAddressLine ("\t0X1F: ".toList) " ".toList :=
    @IsAddressLine.address "\t".toList _ " ".toList margin address (by decide)
  have kept : ¬ IsBareAddress "\t0X1F: ".toList := by
    intro bare
    obtain ⟨gap, alone, unspaced, _⟩ := bare
    have front : trimEnd "\t0X1F: ".toList = "\t0X1F:".toList := by decide
    have behind : "\t0X1F:".toList ++ gap = "\t0X1F:".toList ++ " ".toList :=
      front ▸ alone.trimEnd_append
    rw [List.append_cancel_left behind] at unspaced
    exact unspaced rfl
  have bare : IsBareAddress "\t0X1F:".toList :=
    ⟨[], @IsAddressLine.address "\t".toList _ [] margin address nofun, nofun, nofun⟩
  obtain ⟨same, alone, _⟩ := tokenize_comment_iff .hex "\t0X1F: ".toList "*getstatic".toList
  obtain ⟨_, _, shows⟩ := tokenize_comment_iff .hex "\t0X1F:".toList "*getstatic".toList
  exact ⟨(same.mpr kept).trans (alone _ spaced), shows bare⟩

end SpinWait.Log
