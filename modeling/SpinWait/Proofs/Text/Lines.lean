import Mathlib.Data.List.Basic
import SpinWait.Text.Lines

namespace SpinWait.Text

/-! Text that is printed line by line. -/

variable {c : Char} {line rest : Text}

theorem lines_cons (inside : isLineBreak c = false) :
    lines (c :: rest) = extendFirst c (lines rest) := by
  rw [lines]
  · simp [inside]
  · intro others carriage _
    rw [carriage] at inside
    exact absurd inside (by decide)

theorem lines_append_newline (unbroken : ∀ c ∈ line, isLineBreak c = false) :
    lines (line ++ '\n' :: rest) = line :: lines rest := by
  induction line with
  | nil =>
    rw [List.nil_append, lines]
    · rfl
    · intro others carriage
      exact absurd carriage (by decide)
  | cons c line ih =>
    have later := ih fun other member => unbroken other (.tail c member)
    rw [List.cons_append, lines_cons (unbroken c (.head line)), later]
    rfl

/-- Lines that each end in a line feed are found again. -/
theorem lines_flatMap {block : List Text}
    (unbroken : ∀ line ∈ block, ∀ c ∈ line, isLineBreak c = false) :
    lines (block.flatMap (· ++ ['\n'])) = block := by
  induction block with
  | nil => rfl
  | cons line block ih =>
    have later := ih fun other member => unbroken other (.tail line member)
    rw [List.flatMap_cons, List.append_assoc, List.singleton_append,
      lines_append_newline (unbroken line (.head block)), later]

/-! ### Line breaks that are made one -/

theorem lines_break (ends : isLineBreak c = true) (single : c = '\r' → rest.head? ≠ some '\n') :
    lines (c :: rest) = [] :: lines rest := by
  rw [lines]
  · rw [if_pos ends]
  · intro others carriage feed
    subst feed
    exact single carriage rfl

theorem lines_feed : lines ('\n' :: rest) = [] :: lines rest :=
  lines_break (by decide) fun carriage => absurd carriage (by decide)

/-- It makes no difference to the lines how the line breaks of a text are written. -/
theorem lines_unifyNewlines (text : Text) : text.unifyNewlines.lines = text.lines := by
  induction text using unifyNewlines.induct with
  | case1 => rfl
  | case2 rest ih =>
    rw [unifyNewlines, lines_feed, ih, lines]
  | case3 rest alone ih =>
    have single : rest.head? ≠ some '\n' := by
      cases rest with
      | nil => nofun
      | cons c others =>
        intro feed
        obtain rfl := Option.some.inj feed
        exact alone others rfl
    rw [unifyNewlines, lines_feed, ih, lines_break (by decide) fun _ => single]
    exact alone
  | case4 c rest _ other ih =>
    rw [unifyNewlines]
    · by_cases ends : isLineBreak c = true
      · have plain : ∀ rest : Text, c = '\r' → rest.head? ≠ some '\n' :=
          fun _ carriage => absurd carriage other
        rw [lines_break ends (plain _), lines_break ends (plain _), ih]
      · have inside : isLineBreak c = false := Bool.eq_false_iff.mpr ends
        rw [lines_cons inside, lines_cons inside, ih]
    · exact fun others carriage => absurd carriage other
    · exact other

end SpinWait.Text
