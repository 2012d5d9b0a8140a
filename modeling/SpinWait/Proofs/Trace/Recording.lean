import Mathlib.Data.List.Basic
import SpinWait.Check.Run
import SpinWait.Proofs.Fault.Wording

namespace SpinWait

/-! What a trace holds after notes were recorded in it. A note whose numbers can be written becomes
one event under the next identifier, so a trace is extended by the notes in their order. -/

open Numeral

variable {notes others : List Note} {note : Note} {trace : Trace} {number : Nat}

/-! ### Identifiers -/

/-- The number is read back from the digits behind the mark. -/
theorem Event.ofDigitChars_idOf (number : Nat) :
    Nat.ofDigitChars 10 ((Event.idOf number).drop 4) 0 = number := by
  have digits : (Event.idOf number).drop 4 = (decimal number).padZeros 16 := rfl
  rw [digits, Text.padZeros, Nat.ofDigitChars_append, Nat.ofDigitChars_replicate_zero, Nat.mul_zero,
    decimal, Nat.ofDigitChars_ten_toDigits]

theorem Event.idOf_injective : Function.Injective Event.idOf := by
  intro left right same
  rw [← Event.ofDigitChars_idOf left, same, Event.ofDigitChars_idOf]

/-! ### Notes -/

/-- The numbers of a note are short enough to be written. -/
def Note.IsWritable (note : Note) : Prop := Value.entriesWritable note.data = true

namespace Note

variable {marker target token : Text} {layout : Log.Layout} {n found expected : Nat}

theorem isWritable_markerFound (short : IsShort n) : (markerFound marker n).IsWritable := by
  simp [IsWritable, data, Value.entriesWritable, Value.isWritable, short.isWritable]

theorem isWritable_formatDetected (short : IsShort n) : (formatDetected layout n).IsWritable := by
  simp [IsWritable, data, Value.entriesWritable, Value.isWritable, short.isWritable]

theorem isWritable_tokensCollected (short : IsShort n) (target : Option Text) :
    (tokensCollected n target).IsWritable := by
  cases target <;>
    simp [IsWritable, data, Value.entriesWritable, Value.isWritable, short.isWritable]

theorem isWritable_runCounted (foundShort : IsShort found) (expectedShort : IsShort expected) :
    (runCounted target found expected).IsWritable := by
  simp [IsWritable, data, Value.entriesWritable, Value.isWritable, foundShort.isWritable,
    expectedShort.isWritable]

theorem isWritable_slotMatched (short : IsShort n) : (slotMatched n token).IsWritable := by
  simp [IsWritable, data, Value.entriesWritable, Value.isWritable, short.isWritable]

theorem isWritable_verdict (layout : Log.Layout) (detail : Text) :
    (verdict layout detail).IsWritable := by
  simp [IsWritable, data, Value.entriesWritable, Value.isWritable]

theorem kind_ne_nil (note : Note) : note.kind ≠ [] := by
  cases note with
  | markerFound => exact (by decide : "MARKER_FOUND".toList ≠ [])
  | formatDetected => exact (by decide : "FORMAT_DETECTED".toList ≠ [])
  | tokensCollected => exact (by decide : "TOKENS_COLLECTED".toList ≠ [])
  | runCounted => exact (by decide : "RUN_COUNTED".toList ≠ [])
  | slotMatched => exact (by decide : "IDIOM_SLOT_MATCHED".toList ≠ [])
  | verdict => exact (by decide : "VERDICT".toList ≠ [])

end Note

/-! ### Events -/

namespace Event

/-- The event under which a note is recorded. -/
def ofNote (number : Nat) (note : Note) : Event :=
  ⟨idOf number, note.kind, note.data, digestOf (idOf number) note.kind note.data⟩

/-- What an event says, whatever its number. -/
def content (event : Event) : Text × List (Text × Value) := (event.kind, event.data)

/-- Notes as events, numbered on from the one given. -/
def numbered (last : Nat) (notes : List Note) : List Event :=
  notes.mapIdx fun index note => ofNote (last + index + 1) note

@[simp] theorem numbered_nil (last : Nat) : numbered last [] = [] := rfl

@[simp] theorem numbered_cons (last : Nat) (note : Note) (others : List Note) :
    numbered last (note :: others) = ofNote (last + 1) note :: numbered (last + 1) others := by
  simp [numbered, List.mapIdx_cons, Nat.add_assoc, Nat.add_comm 1]

theorem numbered_append (last : Nat) (notes others : List Note) :
    numbered last (notes ++ others) =
      numbered last notes ++ numbered (last + notes.length) others := by
  simp [numbered, List.mapIdx_append, Nat.add_assoc, Nat.add_comm, Nat.add_left_comm]

@[simp] theorem length_numbered (last : Nat) (notes : List Note) :
    (numbered last notes).length = notes.length := by
  simp [numbered]

@[simp] theorem map_content_numbered (last : Nat) (notes : List Note) :
    (numbered last notes).map content = notes.map fun note => (note.kind, note.data) := by
  induction notes generalizing last with
  | nil => rfl
  | cons note others ih => simp [ih, content, ofNote]

@[simp] theorem map_kind_numbered (last : Nat) (notes : List Note) :
    (numbered last notes).map kind = notes.map Note.kind := by
  induction notes generalizing last with
  | nil => rfl
  | cons note others ih => simp [ih, ofNote]

theorem map_id_numbered (last : Nat) (notes : List Note) :
    (numbered last notes).map id = (List.range' (last + 1) notes.length).map idOf := by
  induction notes generalizing last with
  | nil => rfl
  | cons note others ih => simp [ih, ofNote, List.range'_succ]

end Event

/-! ### Recording -/

namespace Trace

/-- The trace with the notes behind what it holds. -/
def extended (trace : Trace) (notes : List Note) : Trace :=
  ⟨trace.issued + notes.length, trace.events ++ Event.numbered trace.issued notes⟩

@[simp] theorem extended_nil (trace : Trace) : trace.extended [] = trace := by
  simp [extended]

theorem extended_append (trace : Trace) (notes others : List Note) :
    trace.extended (notes ++ others) = (trace.extended notes).extended others := by
  simp [extended, Event.numbered_append, Nat.add_assoc]

theorem record_note (trace : Trace) (writable : note.IsWritable) :
    trace.record (.text note.kind) (.mapping note.data) =
      (.ok (Event.idOf (trace.issued + 1)), trace.extended [note]) := by
  have named : (Value.text note.kind).isEmpty = false :=
    List.isEmpty_eq_false_iff.mpr note.kind_ne_nil
  have recordable : Value.entriesWritable note.data = true := writable
  simp [record, store, named, recordable, Value.text?, extended, Event.ofNote]

theorem record_unwritable (trace : Trace) (unwritable : ¬ note.IsWritable) :
    (trace.record (.text note.kind) (.mapping note.data)).1 = .error .oversized := by
  have named : (Value.text note.kind).isEmpty = false :=
    List.isEmpty_eq_false_iff.mpr note.kind_ne_nil
  have long : Value.entriesWritable note.data = false := Bool.eq_false_iff.mpr unwritable
  simp [record, store, named, long, Value.text?]

end Trace

namespace Run

variable {α β : Type} {run : Run α} {next : α → Run β}

theorem recordNotes_eq (trace : Trace) (writable : ∀ note ∈ notes, note.IsWritable) :
    recordNotes trace notes = (.ok (), trace.extended notes) := by
  induction notes generalizing trace with
  | nil => simp [recordNotes]
  | cons note others ih =>
    have later := ih (trace.extended [note]) fun other member => writable other (.tail note member)
    rw [← Trace.extended_append, List.singleton_append] at later
    simpa only [recordNotes, trace.record_note (writable note (.head others))] using later

/-- A trace takes notes up to the first with a number that is too long. -/
theorem writable_of_recordNotes (recorded : (recordNotes trace notes).1 = .ok ()) :
    ∀ note ∈ notes, note.IsWritable := by
  induction notes generalizing trace with
  | nil => simp
  | cons note others ih =>
    by_cases writable : note.IsWritable
    · simp only [recordNotes, trace.record_note writable] at recorded
      exact List.forall_mem_cons.mpr ⟨writable, ih recorded⟩
    · have failed := trace.record_unwritable writable
      cases stored : trace.record (.text note.kind) (.mapping note.data) with
      | mk result after =>
        rw [stored] at failed
        obtain rfl : result = .error .oversized := failed
        simp [recordNotes, stored] at recorded

/-- All notes of the run can be recorded. -/
def Writable (run : Run α) : Prop := ∀ note ∈ run.notes, note.IsWritable

theorem writable_pure (result : α) : (pure result : Run α).Writable := nofun

theorem writable_require (outcome : Except Stop α) : (require outcome).Writable := nofun

theorem writable_fail (fault : Fault) : (fail fault : Run α).Writable := nofun

theorem writable_note (writable : note.IsWritable) : (Run.note note).Writable := by
  intro other member
  obtain rfl := List.mem_singleton.mp member
  exact writable

theorem writable_bind (first : run.Writable)
    (later : ∀ result, run.outcome = .ok result → (next result).Writable) :
    (run >>= next).Writable := by
  intro note member
  cases ended : run.outcome with
  | error stop =>
    simp only [bind, andThen, ended] at member
    exact first note member
  | ok result =>
    simp only [bind, andThen, ended] at member
    rcases List.mem_append.mp member with before | after
    · exact first note before
    · exact later result ended note after

theorem recorded_eq_extended (writable : run.Writable) (trace : Trace) :
    run.recorded trace = (run.outcome, trace.extended run.notes) := by
  simp only [recorded, recordNotes_eq trace writable]

theorem recorded_eq (writable : run.Writable) (trace : Trace) :
    (run.recorded trace).1 = run.outcome := by
  rw [recorded_eq_extended writable]

theorem recorded_snd (run : Run α) (trace : Trace) :
    (run.recorded trace).2 = (recordNotes trace run.notes).2 := by
  unfold recorded
  split <;> simp [*]

/-- A run that is not cut short by its trace has all its notes in it. -/
theorem writable_of_answered (answered : Answered (run.recorded trace).1) : run.Writable := by
  refine writable_of_recordNotes (?_ : (recordNotes trace run.notes).1 = .ok ())
  cases recording : recordNotes trace run.notes with
  | mk result after =>
    cases result with
    | ok _ => rfl
    | error error =>
      simp only [recorded, recording] at answered
      exact absurd rfl (answered .oversized)

end Run

end SpinWait
