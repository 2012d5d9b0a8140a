import SpinWait.Fault.Basic
import SpinWait.Proofs.Text.OneLine

namespace SpinWait

open Text

/-! What is said of a fault stands on one line: a text that need not is quoted. -/

/-- The fault names its subject and explains itself on one line each. -/
def Fault.IsOneLine (fault : Fault) : Prop :=
  fault.subject.shown.IsOneLine ∧ fault.message.shown.IsOneLine

theorem FaultKind.isOneLine_name (kind : FaultKind) : kind.name.IsOneLine := by
  cases kind <;> decide

theorem Value.isOneLine_shown_number (n : Int) : (Value.number n).shown.IsOneLine :=
  Numeral.isOneLine_signed n

theorem Value.isOneLine_written_text (text : Text) : (Value.text text).written.IsOneLine :=
  isOneLine_quoted text

namespace Fault

variable {name marker target expected actual : Text} {start occurrences found count slot : Nat}
  {fault : Fault}

theorem characters_text (text : Text) : characters (.text text) = text := rfl

theorem isOneLine_of_details (subject : fault.subject.shown.IsOneLine)
    (details : fault.details.IsOneLine)
    (worded : fault.message = .text (fault.kind.name ++ ": ".toList ++ fault.details)) :
    fault.IsOneLine := by
  have colon : Text.IsOneLine ": ".toList := by decide
  refine ⟨subject, ?_⟩
  rw [worded]
  exact isOneLine_append.mpr ⟨isOneLine_append.mpr ⟨fault.kind.isOneLine_name, colon⟩, details⟩

theorem isOneLine_markerNotFound (named : name.IsOneLine) :
    (markerNotFound (.text name) (.text marker) (.number start)).IsOneLine := by
  have words : Text.IsOneLine " marker ".toList ∧
      Text.IsOneLine " not found at or after line ".toList ∧ Text.IsOneLine ".".toList := by decide
  refine isOneLine_of_details named ?_ rfl
  unfold details
  simp only [characters_text, Value.isOneLine_shown_number, Value.isOneLine_written_text,
    isOneLine_append, named, words, and_self]

theorem isOneLine_duplicateMarker (named : name.IsOneLine) :
    (duplicateMarker (.text name) (.text marker) (.number occurrences)).IsOneLine := by
  have words : Text.IsOneLine " marker ".toList ∧
      Text.IsOneLine " must occur exactly once; found ".toList ∧
      Text.IsOneLine " occurrences.".toList := by decide
  refine isOneLine_of_details named ?_ rfl
  unfold details
  simp only [characters_text, Value.isOneLine_shown_number, Value.isOneLine_written_text,
    isOneLine_append, named, words, and_self]

theorem isOneLine_countMismatch (named : target.IsOneLine) :
    (countMismatch (.text target) (.number found) (.number count)).IsOneLine := by
  have words : Text.IsOneLine "wrong instruction ".toList ∧ Text.IsOneLine " count ".toList ∧
      Text.IsOneLine "; expecting ".toList ∧ Text.IsOneLine ".".toList := by decide
  refine isOneLine_of_details named ?_ rfl
  unfold details
  simp only [Value.isOneLine_shown_number, Value.isOneLine_written_text, isOneLine_append, words,
    and_self]

theorem isOneLine_idiomMismatch (named : expected.IsOneLine) :
    (idiomMismatch (.number slot) (.text expected) (.text actual)).IsOneLine := by
  have words : Text.IsOneLine "slot ".toList ∧ Text.IsOneLine " expected ".toList ∧
      Text.IsOneLine " but found ".toList ∧ Text.IsOneLine ".".toList := by decide
  refine isOneLine_of_details named ?_ rfl
  unfold details
  simp only [characters_text, Value.isOneLine_shown_number, Value.isOneLine_written_text,
    isOneLine_append, named, words, and_self]

theorem isOneLine_invalidDelay {delay : Value} (written : delay.written.IsOneLine) (upper : Int) :
    (invalidDelay delay (.number upper)).IsOneLine := by
  have subject : Text.IsOneLine "delay".toList := by decide
  have words : Text.IsOneLine "delay must be in [0, ".toList ∧ Text.IsOneLine "]: got ".toList ∧
      Text.IsOneLine ".".toList := by decide
  refine isOneLine_of_details subject ?_ rfl
  unfold details
  simp only [Value.isOneLine_shown_number, isOneLine_append, written, words, and_self]

theorem isOneLine_invalidCount {count : Value} (written : count.written.IsOneLine) :
    (invalidCount count).IsOneLine := by
  have subject : Text.IsOneLine "count".toList := by decide
  have words : Text.IsOneLine "count must be a non-negative integer: got ".toList ∧
      Text.IsOneLine ".".toList := by decide
  refine isOneLine_of_details subject ?_ rfl
  unfold details
  simp only [isOneLine_append, written, words, and_self]

theorem isOneLine_unknownHint {name : Value} (written : name.written.IsOneLine) :
    (unknownHint name).IsOneLine := by
  have subject : Text.IsOneLine "instruction".toList := by decide
  have words : Text.IsOneLine "unknown spin wait instruction ".toList ∧
      Text.IsOneLine "; expected one of 'nop', 'isb', 'yield'.".toList := by decide
  refine isOneLine_of_details subject ?_ rfl
  unfold details
  simp only [isOneLine_append, written, words, and_self]

end Fault

end SpinWait
