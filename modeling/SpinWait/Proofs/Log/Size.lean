import SpinWait.Log.TrailingRun
import SpinWait.Proofs.Log.Search
import SpinWait.Proofs.Text.Numeral
import SpinWait.Text.Lines

namespace SpinWait

/-! How many lines and how many instructions a text can hold. -/

namespace Text

theorem length_fields_le (separator : Char) (text : Text) :
    (text.fields separator).length ≤ text.length + 1 := by
  induction text with
  | nil => simp [fields]
  | cons c rest ih =>
    rw [fields]
    split
    · simpa using ih
    · cases parts : fields separator rest with
      | nil => simp
      | cons part others =>
        rw [parts] at ih
        simp only [List.length_cons] at ih ⊢
        omega

theorem length_lowerAfter_le (afterCased : Bool) (text : Text) :
    (lowerAfter afterCased text).length ≤ 2 * text.length := by
  induction text generalizing afterCased with
  | nil => simp [lowerAfter]
  | cons c rest ih =>
    have single : (lowerChar c).length ≤ 2 := by
      rw [lowerChar]
      split <;> simp
    have later := ih (if isCaseIgnorable c then afterCased else isCased c)
    simp only [lowerAfter, List.length_append, List.length_cons]
    split
    · rw [List.length_singleton]
      omega
    · omega

theorem length_trim_le (text : Text) : text.trim.length ≤ text.length := by
  have first : (text.dropWhile isBlank).length ≤ text.length :=
    (List.dropWhile_sublist _).length_le
  have last : (((text.dropWhile isBlank).reverse).dropWhile isBlank).length ≤
      (text.dropWhile isBlank).reverse.length := (List.dropWhile_sublist _).length_le
  rw [List.length_reverse] at last
  rw [trim, trimStart, trimEnd, List.length_reverse]
  exact Nat.le_trans last first

theorem length_extendFirst (c : Char) (lines : List Text) :
    (extendFirst c lines).length ≤ lines.length + 1 ∧
      ((extendFirst c lines).map List.length).sum = (lines.map List.length).sum + 1 := by
  cases lines with
  | nil => simp [extendFirst]
  | cons line others =>
    simp only [extendFirst, List.length_cons, List.map_cons, List.sum_cons]
    omega

/-- A text is at least as long as its lines together, and as their number. -/
theorem length_lines_le (text : Text) :
    text.lines.length ≤ text.length ∧ (text.lines.map List.length).sum ≤ text.length := by
  induction text using lines.induct with
  | case1 => simp [lines]
  | case2 rest ih =>
    simp only [lines, List.length_cons, List.map_cons, List.sum_cons, List.length_nil]
    omega
  | case3 c rest _ stop ih =>
    rw [lines, if_pos stop]
    · simp only [List.length_cons, List.map_cons, List.sum_cons, List.length_nil]
      omega
    · assumption
  | case4 c rest _ inside ih =>
    have extended := length_extendFirst c (lines rest)
    rw [lines, if_neg inside]
    · simp only [List.length_cons]
      omega
    · assumption

end Text

namespace Log

open Text

theorem length_collapseBlanks_le (text : Text) : (collapseBlanks text).length ≤ text.length := by
  induction text with
  | nil => simp [collapseBlanks]
  | cons c rest ih =>
    rw [collapseBlanks]
    split <;> simp only [List.length_cons] <;> omega

theorem length_normalize_le (line : Text) : (normalize line).length ≤ 2 * line.length := by
  have lowered := length_lowerAfter_le false
    (collapseBlanks (line.map fun c => if c = '\t' then ' ' else c)).trim
  have trimmed := length_trim_le (collapseBlanks (line.map fun c => if c = '\t' then ' ' else c))
  have collapsed := length_collapseBlanks_le (line.map fun c => if c = '\t' then ' ' else c)
  rw [List.length_map] at collapsed
  rw [normalize, lower]
  omega

theorem length_of_afterAddress? {text rest : Text} (found : afterAddress? text = some rest) :
    rest.length ≤ text.length := by
  unfold afterAddress? at found
  split at found <;> cases found <;> simp
  omega

theorem length_stripAddress_le (line : Text) : (stripAddress line).length ≤ line.length := by
  unfold stripAddress
  split
  case h_1 first rest =>
    split
    · cases found : afterAddress? (rest.dropWhile isAddressDigit) with
      | none => exact Nat.le_refl _
      | some others =>
        have shorter := length_of_afterAddress? found
        have cut : (rest.dropWhile isAddressDigit).length ≤ rest.length :=
          (List.dropWhile_sublist _).length_le
        simp only [Option.getD_some, List.length_cons]
        omega
    · exact Nat.le_refl _
  case h_2 => exact Nat.le_refl _

theorem length_content_le (line : Text) : (content line).length ≤ 2 * line.length := by
  have normal := length_normalize_le line
  have stripped := length_stripAddress_le (normalize line)
  have cut : (before ';' (stripAddress (normalize line))).length ≤
      (stripAddress (normalize line)).length := (List.takeWhile_sublist _).length_le
  have trimmed := length_trim_le (before ';' (stripAddress (normalize line)))
  rw [content]
  omega

/-- A number that bounds both the lines and what they show. -/
def weight (lines : List Text) : Nat := (lines.map fun line => 2 * line.length + 1).sum

theorem length_tokenize_le (layout : Layout) (line : Text) :
    (tokenize layout line).length ≤ 2 * line.length + 1 := by
  have shown := length_content_le line
  unfold tokenize
  split
  · simp
  · simp
  · cases layout with
    | hex =>
      have pieces := length_fields_le '|' (content line)
      have kept := (List.filter_sublist (p := fun piece : Text => !piece.isEmpty)
        (l := ((content line).fields '|').map trim)).length_le
      rw [List.length_map] at kept
      exact Nat.le_trans kept (by omega)
    | mnemonic => simp

theorem length_tokenizeAll_le (layout : Layout) (lines : List Text) :
    (tokenizeAll layout lines).length ≤ weight lines := by
  induction lines with
  | nil => simp [tokenizeAll]
  | cons line others ih =>
    have first := length_tokenize_le layout line
    simp only [tokenizeAll, weight, List.flatMap_cons, List.length_append, List.map_cons,
      List.sum_cons] at ih ⊢
    omega

theorem length_le_weight (lines : List Text) : lines.length ≤ weight lines := by
  induction lines with
  | nil => simp
  | cons line others ih =>
    simp only [weight, List.length_cons, List.map_cons, List.sum_cons] at ih ⊢
    omega

theorem weight_le_of_sublist {few lines : List Text} (sublist : few.Sublist lines) :
    weight few ≤ weight lines := by
  induction sublist with
  | slnil => exact Nat.le_refl _
  | cons line sublist ih =>
    simp only [weight, List.map_cons, List.sum_cons] at ih ⊢
    omega
  | cons_cons line sublist ih =>
    simp only [weight, List.map_cons, List.sum_cons] at ih ⊢
    omega

theorem weight_lines_le (text : Text) : weight text.lines ≤ 3 * text.length := by
  have bounds := length_lines_le text
  have whole (lines : List Text) :
      weight lines = 2 * (lines.map List.length).sum + lines.length := by
    induction lines with
    | nil => rfl
    | cons line others ih =>
      simp only [weight, List.map_cons, List.sum_cons, List.length_cons] at ih ⊢
      omega
  rw [whole]
  omega

theorem length_tokenize_le_weight {line : Text} {lines : List Text} (layout : Layout) (member : line ∈ lines) :
    (tokenize layout line).length ≤ weight lines := by
  have single := length_tokenize_le layout line
  have whole := weight_le_of_sublist (List.singleton_sublist.mpr member)
  simp only [weight, List.map_cons, List.map_nil, List.sum_cons, List.sum_nil] at single whole ⊢
  omega

theorem trailingRun_le (tokens : List Text) (target : Text) :
    trailingRun tokens target ≤ tokens.length := by
  have run := (List.takeWhile_sublist (l := tokens.reverse.dropWhile (· != target))
    (· == target)).length_le
  have rest := (List.dropWhile_sublist (l := tokens.reverse) (· != target)).length_le
  rw [List.length_reverse] at rest
  exact Nat.le_trans run rest

/-- Every number that a check finds in the log is short enough to be written. -/
def IsSmall (lines : List Text) : Prop := Numeral.IsShort (2 * weight lines + 2)

theorem IsSmall.isShort {lines : List Text} {n : Nat} (small : IsSmall lines)
    (le : n ≤ 2 * weight lines + 2) : Numeral.IsShort n := Numeral.IsShort.of_le small le

theorem isSmall_of_weight_lt {lines : List Text} (light : weight lines < 2 ^ 65) :
    IsSmall lines := by
  have few : 2 * weight lines + 2 < 10 ^ 100 := by omega
  exact Nat.lt_of_lt_of_le few (Nat.pow_le_pow_right (by decide) (by decide))

end Log

/-- The text fits into a memory whose addresses have 64 bits. -/
def Text.FitsMemory (text : Text) : Prop := text.length < 2 ^ 63

theorem Text.FitsMemory.isSmall_lines {text : Text} (fits : text.FitsMemory) :
    Log.IsSmall text.lines := by
  have light := Log.weight_lines_le text
  unfold Text.FitsMemory at fits
  exact Log.isSmall_of_weight_lt (by omega)

end SpinWait
