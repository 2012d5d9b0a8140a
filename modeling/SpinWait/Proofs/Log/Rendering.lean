import SpinWait.Proofs.Log.Cells
import SpinWait.Proofs.Log.Search

namespace SpinWait.Log

open Text

/-! Lines as a disassembler prints them, and the instructions that are read from them. -/

variable {margin address text token : Text} {words tokens block : List Text} {layout : Layout}

/-! ### Words between bars -/

/-- The words of one line. -/
def bars (words : List Text) : Text := " | ".toList.intercalate words

theorem bars_singleton (word : Text) : bars [word] = word := by
  simp [bars, List.intercalate]

theorem bars_cons (word next : Text) (others : List Text) :
    bars (word :: next :: others) = word ++ ' ' :: '|' :: ' ' :: bars (next :: others) := by
  simp [bars, List.intercalate]

theorem showsCells_bars (images : ∀ word ∈ words, IsImage word) (before : IsSpacing margin) :
    ShowsCells words (margin ++ bars words) := by
  induction words generalizing margin with
  | nil =>
    have nothing : bars [] = [] := rfl
    rw [nothing, List.append_nil]
    exact .last (.empty before)
  | cons word others ih =>
    obtain ⟨image, later⟩ := List.forall_mem_cons.mp images
    cases others with
    | nil =>
      rw [bars_singleton, ← List.append_nil (margin ++ word)]
      exact .last (.of_image image before nofun)
    | cons next others =>
      have blank : IsSpacing [' '] := by decide
      have cut : margin ++ bars (word :: next :: others) =
          (margin ++ word ++ [' ']) ++ '|' :: ([' '] ++ bars (next :: others)) := by
        rw [bars_cons]
        simp
      rw [cut]
      exact .bar (.of_image image before blank) (ih later blank)

theorem semicolon_not_mem_bars (images : ∀ word ∈ words, IsImage word) : ';' ∉ bars words :=
  (showsCells_bars images nofun : ShowsCells words ([] ++ bars words)).not_mem (by decide)

theorem tokenize_words (blank : ∀ c ∈ margin, isBlank c = true) (numeral : IsHexNumeral address)
    (images : ∀ word ∈ words, IsImage word) :
    tokenize .hex (addressed margin address (bars words)) = words.map Text.lower := by
  have gap : IsGap [' '] := ⟨by decide, by decide⟩
  have cells : ShowsCells words ([] ++ bars words) := showsCells_bars images nofun
  have shown := @WordLine.intro _ _ _ _ _ [] blank (isAddressText_of_numeral numeral) gap cells nofun
  have shape : addressed margin address (bars words) = margin ++
      ("0x".toList ++ address ++ [':']) ++ [' '] ++ ([] ++ bars words ++ []) := by
    simp [addressed]
  rw [shape]
  exact shown.tokenize_eq

/-! ### Blocks of lines -/

/-- What is shown at an address reads as one instruction. -/
structure ReadsAs (text token : Text) : Prop where
  first : ∃ c ∈ text.head?, isBlank c = false
  token_eq : ((normalize text).before ';').trim = token
  nonempty : token ≠ []
  instruction : token.head? ≠ some '#'

theorem IsPlain.readsAs (plain : IsPlain text) (small : text.map Char.toLower = text)
    (uncommented : ';' ∉ text) (instruction : text.head? ≠ some '#') : ReadsAs text text where
  first := plain.trimmed.first
  token_eq := by rw [plain.normalize_eq, small, before_of_not_mem uncommented, plain.trimmed.trim_eq]
  nonempty := plain.trimmed.ne_nil
  instruction := instruction

/-- Lower-case ASCII text with single blanks inside, without a comment, a bar or a `#` in front. -/
def isInstructionText (text : Text) : Bool :=
  (text.all fun c => decide (IsAscii c) && c.toLower == c && c != '\t' && c != ';' && c != '|') &&
    collapseBlanks text == text && (text.head?.any fun c => !isBlank c && c != '#') &&
    text.getLast?.any fun c => !isBlank c

theorem readsAs_of_isInstructionText (shown : isInstructionText text = true) :
    ReadsAs text text ∧ '|' ∉ text := by
  simp only [isInstructionText, Bool.and_eq_true, List.all_eq_true, Option.any_eq_true,
    decide_eq_true_eq, beq_iff_eq, bne_iff_ne, Bool.not_eq_true'] at shown
  obtain ⟨⟨⟨characters, spaced⟩, c, isFirst, visible, instruction⟩, last⟩ := shown
  have absent {c : Char} (member : c ∈ text) : c ≠ '\t' ∧ c ≠ ';' ∧ c ≠ '|' := by
    obtain ⟨⟨⟨_, untabbed⟩, uncommented⟩, unbarred⟩ := characters c member
    exact ⟨untabbed, uncommented, unbarred⟩
  have plain : IsPlain text :=
    ⟨fun c member => (characters c member).1.1.1.1, fun member => (absent member).1 rfl, spaced,
      ⟨c, isFirst, visible⟩, last⟩
  have small : text.map Char.toLower = text := by
    have same : ∀ c ∈ text, c.toLower = id c := fun c member => (characters c member).1.1.1.2
    rw [List.map_congr_left same, List.map_id]
  refine ⟨plain.readsAs small (fun member => (absent member).2.1 rfl) ?_,
    fun member => (absent member).2.2 rfl⟩
  intro sharp
  exact instruction (Option.some.inj (isFirst.symm.trans sharp))

theorem tokenize_instruction (blank : ∀ c ∈ margin, isBlank c = true)
    (numeral : IsHexNumeral address) (reads : ReadsAs text token) :
    tokenize .mnemonic (addressed margin address text) = [token] := by
  rw [tokenize, content_addressed blank numeral, reads.token_eq]
  split
  · exact absurd rfl reads.nonempty
  · exact absurd rfl reads.instruction
  · rfl

/-- The lines of a block show these tokens: between bars, any number on a line, or one instruction
on each line. Lines without instructions may stand anywhere. -/
inductive Shows : Layout → List Text → List Text → Prop
  | nil {layout : Layout} : Shows layout [] []
  | filler {layout : Layout} {tokens block : List Text} {line : Text} (filler : Filler line)
      (unbarred : '|' ∉ line) (others : Shows layout tokens block) :
      Shows layout tokens (line :: block)
  | words {margin address : Text} {words tokens block : List Text}
      (blank : ∀ c ∈ margin, isBlank c = true) (numeral : IsHexNumeral address)
      (nonempty : words ≠ []) (images : ∀ word ∈ words, IsImage word)
      (others : Shows .hex tokens block) :
      Shows .hex (words.map Text.lower ++ tokens) (addressed margin address (bars words) :: block)
  | instruction {margin address text token : Text} {tokens block : List Text}
      (blank : ∀ c ∈ margin, isBlank c = true) (numeral : IsHexNumeral address)
      (reads : ReadsAs text token) (unbarred : '|' ∉ text) (others : Shows .mnemonic tokens block) :
      Shows .mnemonic (token :: tokens) (addressed margin address text :: block)

theorem Shows.tokenizeAll_eq (shows : Shows layout tokens block) :
    tokenizeAll layout block = tokens := by
  induction shows with
  | nil => rfl
  | filler filler unbarred others ih =>
    rw [tokenizeAll, List.flatMap_cons, filler.tokenize_eq, List.nil_append]
    exact ih
  | words blank numeral nonempty images others ih =>
    rw [tokenizeAll, List.flatMap_cons, tokenize_words blank numeral images]
    exact congrArg _ ih
  | instruction blank numeral reads unbarred others ih =>
    rw [tokenizeAll, List.flatMap_cons, tokenize_instruction blank numeral reads]
    exact congrArg _ ih

theorem bar_not_mem_addressed (blank : ∀ c ∈ margin, isBlank c = true)
    (numeral : IsHexNumeral address) (unbarred : '|' ∉ text) :
    '|' ∉ addressed margin address text := by
  have marginBar : '|' ∉ margin := fun member => absurd (blank '|' member) (by decide)
  have addressBar : '|' ∉ address := numeral.not_mem (by decide)
  simp [addressed, marginBar, addressBar, unbarred]

theorem Shows.unbarred (shows : Shows layout tokens block) (plain : layout = .mnemonic) :
    ∀ line ∈ block, '|' ∉ line := by
  induction shows with
  | nil => simp
  | filler filler unbarred others ih => exact List.forall_mem_cons.mpr ⟨unbarred, ih plain⟩
  | words => contradiction
  | instruction blank numeral reads unbarred others ih =>
    exact List.forall_mem_cons.mpr ⟨bar_not_mem_addressed blank numeral unbarred, ih plain⟩

theorem Shows.detect_eq (shows : Shows layout tokens block)
    (bar : layout = .hex → ∃ line ∈ block, '|' ∈ line) : Layout.detect block = layout := by
  cases layout with
  | hex => exact Layout.detect_eq_hex (bar rfl)
  | mnemonic => exact Layout.detect_eq_mnemonic (shows.unbarred rfl)

end SpinWait.Log
