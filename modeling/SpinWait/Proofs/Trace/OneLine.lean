import SpinWait.Proofs.Fault.OneLine
import SpinWait.Proofs.Trace.Recording

namespace SpinWait

open Text

/-! An event is printed on one line, if the texts in it are on one line. -/

/-! ### Notes -/

/-- Every entry is shown on one line. -/
def AreOneLine (entries : List (Text × Value)) : Prop :=
  ∀ entry ∈ entries, entry.1.IsOneLine ∧ entry.2.shown.IsOneLine

theorem AreOneLine.nil : AreOneLine [] := nofun

theorem AreOneLine.cons {key : Text} {value : Value} {entries : List (Text × Value)}
    (named : key.IsOneLine) (shown : value.shown.IsOneLine) (later : AreOneLine entries) :
    AreOneLine ((key, value) :: entries) :=
  List.forall_mem_cons.mpr ⟨⟨named, shown⟩, later⟩

theorem Log.Layout.isOneLine_name (layout : Log.Layout) : layout.name.IsOneLine := by
  cases layout <;> decide

namespace Note

/-- The texts in a note that are taken from the log, or name what is looked for. -/
def texts : Note → List Text
  | markerFound marker _ => [marker]
  | formatDetected .. => []
  | tokensCollected _ target => target.toList
  | runCounted target .. => [target]
  | slotMatched _ token => [token]
  | verdict _ detail => [detail]

theorem isOneLine_kind (note : Note) : note.kind.IsOneLine := by
  cases note with
  | markerFound => exact (by decide : Text.IsOneLine "MARKER_FOUND".toList)
  | formatDetected => exact (by decide : Text.IsOneLine "FORMAT_DETECTED".toList)
  | tokensCollected => exact (by decide : Text.IsOneLine "TOKENS_COLLECTED".toList)
  | runCounted => exact (by decide : Text.IsOneLine "RUN_COUNTED".toList)
  | slotMatched => exact (by decide : Text.IsOneLine "IDIOM_SLOT_MATCHED".toList)
  | verdict => exact (by decide : Text.IsOneLine "VERDICT".toList)

theorem areOneLine_data {note : Note} (each : ∀ text ∈ note.texts, text.IsOneLine) :
    AreOneLine note.data := by
  have number := Value.isOneLine_shown_number
  cases note with
  | markerFound marker index =>
    exact .cons (by decide) (each marker (.head _)) (.cons (by decide) (number _) .nil)
  | formatDetected layout regionLines =>
    exact .cons (by decide) layout.isOneLine_name (.cons (by decide) (number _) .nil)
  | tokensCollected count target =>
    cases target with
    | none => exact .cons (by decide) (number _) .nil
    | some target =>
      exact .cons (by decide) (number _) (.cons (by decide) (each target (.head _)) .nil)
  | runCounted target found expected =>
    exact .cons (by decide) (each target (.head _))
      (.cons (by decide) (number _) (.cons (by decide) (number _) .nil))
  | slotMatched slot token =>
    exact .cons (by decide) (number _) (.cons (by decide) (each token (.head _)) .nil)
  | verdict layout detail =>
    have flag : (Value.flag true).shown.IsOneLine := by decide
    exact .cons (by decide) flag
      (.cons (by decide) layout.isOneLine_name (.cons (by decide) (each detail (.head _)) .nil))

end Note

/-! ### Events -/

namespace Event

variable {event : Event}

/-- The beginning of every identifier. -/
def mark : Text := "EVT-".toList

theorem mark_prefix_idOf (number : Nat) : mark <+: idOf number := List.prefix_append _ _

theorem id_prefix_line (event : Event) : event.id <+: event.line := by
  unfold line
  rw [List.append_assoc, List.append_assoc]
  exact List.prefix_append _ _

theorem isOneLine_idOf (number : Nat) : (idOf number).IsOneLine := by
  have opening : Text.IsOneLine "EVT-".toList := by decide
  exact isOneLine_append.mpr
    ⟨opening, (isOneLine_padZeros 16).mpr (Numeral.isOneLine_decimal number)⟩

theorem isOneLine_line (identified : event.id.IsOneLine) (named : event.kind.IsOneLine)
    (shown : AreOneLine event.data) : event.line.IsOneLine := by
  have blanks : isLineBreak ' ' = false ∧ Text.IsOneLine "  ".toList ∧ Text.IsOneLine " ".toList := by
    decide
  have equals : isLineBreak '=' = false := by decide
  have entries : Text.IsOneLine (" ".toList.intercalate
      (event.data.map fun entry => entry.1 ++ '=' :: entry.2.shown)) := by
    refine isOneLine_intercalate blanks.2.2 fun part member => ?_
    obtain ⟨entry, among, rfl⟩ := List.mem_map.mp member
    obtain ⟨key, value⟩ := shown entry among
    exact isOneLine_append.mpr ⟨key, isOneLine_cons.mpr ⟨equals, value⟩⟩
  unfold line
  simp only [isOneLine_append, isOneLine_cons, isOneLine_padRight, identified, named, blanks,
    entries, and_self]

theorem isOneLine_line_ofNote {note : Note} (number : Nat) (shown : AreOneLine note.data) :
    (ofNote number note).line.IsOneLine :=
  isOneLine_line (isOneLine_idOf number) note.isOneLine_kind shown

end Event

end SpinWait
