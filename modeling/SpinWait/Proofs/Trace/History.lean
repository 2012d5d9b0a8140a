import Mathlib.Data.List.ReduceOption
import SpinWait.Proofs.Trace.Recording

namespace SpinWait

/-! What became of the identifiers that a trace gave out. Each of them stands for an event, or was
spent on one that has no digest, and this decides whether the events are numbered without a gap. -/

/-- The event under a number. -/
def Event.made (number : Nat) (kind : Text) (data : List (Text × Value)) : Event :=
  ⟨idOf number, kind, data, digestOf (idOf number) kind data⟩

namespace Trace

variable {trace : Trace} {slots : List (Option Event)} {kind data : Value} {notes : List Note}
  {note : Note} {characters : Text} {entries : List (Text × Value)}

/-- The next identifier is spent on no event. -/
def spent (trace : Trace) : Trace := ⟨trace.issued + 1, trace.events⟩

/-- The next identifier is that of one more event. -/
def stored (trace : Trace) (kind : Text) (data : List (Text × Value)) : Trace :=
  ⟨trace.issued + 1, trace.events ++ [Event.made (trace.issued + 1) kind data]⟩

/-! ### Recording -/

/-- What is to be recorded passes the checks, and yet its kind is no text or a number in it is too
long. -/
def SpendsId (kind data : Value) : Prop :=
  kind.isEmpty = false ∧ ∃ entries, data = .mapping entries ∧
    (kind.text? = none ∨ Value.entriesWritable entries = false)

/-- What recording answers, and the trace that it leaves. Only an error of the trace's own comes with
a message. -/
inductive Recorded (trace : Trace) (kind data : Value) : Except TraceError Text × Trace → Prop
  | refused {error : TraceError} (worded : error.message?.isSome = true)
      (kept : ¬ SpendsId kind data) : Recorded trace kind data (.error error, trace)
  | lost {error : TraceError} (wordless : error.message? = none) (spends : SpendsId kind data) :
      Recorded trace kind data (.error error, trace.spent)
  | stored {characters : Text} {entries : List (Text × Value)} (named : kind.text? = some characters)
      (mapping : data = .mapping entries) (kept : ¬ SpendsId kind data) :
      Recorded trace kind data (.ok (Event.idOf (trace.issued + 1)), trace.stored characters entries)

theorem spendsId_mapping_iff (named : kind.isEmpty = false) :
    SpendsId kind (.mapping entries) ↔ kind.text? = none ∨ Value.entriesWritable entries = false := by
  constructor
  · rintro ⟨_, others, same, either⟩
    injection same with same
    exact same ▸ either
  · exact fun either => ⟨named, entries, rfl, either⟩

theorem recorded (trace : Trace) (kind data : Value) :
    Recorded trace kind data (trace.record kind data) := by
  unfold record
  split
  · next empty =>
    exact .refused rfl fun spends => absurd (empty.symm.trans spends.1) (by decide)
  · next named =>
    have named : kind.isEmpty = false := Bool.eq_false_iff.mpr named
    split
    · next entries =>
      unfold store
      cases text : kind.text? with
      | none => exact .lost rfl ((spendsId_mapping_iff named).mpr (.inl text))
      | some characters =>
        cases writable : Value.entriesWritable entries with
        | false => exact .lost rfl ((spendsId_mapping_iff named).mpr (.inr writable))
        | true =>
          refine .stored text rfl fun spends => ?_
          simp [spendsId_mapping_iff named, text, writable] at spends
    · next other =>
      exact .refused rfl fun spends => by
        obtain ⟨_, entries, same, _⟩ := spends
        exact other entries same

/-! ### Histories -/

/-- The identifiers given out, in order: each with its event, or with nothing. -/
structure History (trace : Trace) (slots : List (Option Event)) : Prop where
  issued : trace.issued = slots.length
  events : trace.events = slots.reduceOption
  placed : ∀ index event, slots[index]? = some (some event) →
    ∃ kind data, event = Event.made (index + 1) kind data

theorem history_empty : History empty [] := ⟨rfl, rfl, nofun⟩

theorem History.spend (history : History trace slots) : History trace.spent (slots ++ [none]) where
  issued := by
    rw [spent, history.issued, List.length_append, List.length_singleton]
  events := by
    rw [spent, history.events, List.reduceOption_append, List.reduceOption_cons_of_none,
      List.reduceOption_nil, List.append_nil]
  placed := by
    intro index event there
    by_cases earlier : index < slots.length
    · rw [List.getElem?_append_left earlier] at there
      exact history.placed index event there
    · rw [List.getElem?_append_right (Nat.le_of_not_lt earlier), List.getElem?_singleton] at there
      split at there <;> cases there

theorem History.store (history : History trace slots) (characters : Text)
    (entries : List (Text × Value)) : History (trace.stored characters entries)
      (slots ++ [some (Event.made (trace.issued + 1) characters entries)]) where
  issued := by
    rw [stored, history.issued, List.length_append, List.length_singleton]
  events := by
    rw [stored, history.events, List.reduceOption_append, List.reduceOption_cons_of_some,
      List.reduceOption_nil]
  placed := by
    intro index event there
    by_cases earlier : index < slots.length
    · rw [List.getElem?_append_left earlier] at there
      exact history.placed index event there
    · rw [List.getElem?_append_right (Nat.le_of_not_lt earlier), List.getElem?_singleton] at there
      split at there
      · next here =>
        obtain rfl : index = slots.length := by omega
        cases there
        exact ⟨characters, entries, by rw [history.issued]⟩
      · cases there

/-- One more record is one more identifier or none. -/
theorem History.record (history : History trace slots) (kind data : Value) :
    ∃ added, History (trace.record kind data).2 (slots ++ added) ∧
      (none ∈ added ↔ SpendsId kind data) := by
  generalize outcome : trace.record kind data = result
  have recorded := outcome ▸ trace.recorded kind data
  cases recorded with
  | refused worded kept => exact ⟨[], by rwa [List.append_nil], by simpa using kept⟩
  | lost wordless spends => exact ⟨[none], history.spend, by simpa using spends⟩
  | stored named mapping kept =>
    exact ⟨_, history.store _ _, by simpa using kept⟩

theorem spendsId_note_iff :
    SpendsId (.text note.kind) (.mapping note.data) ↔ ¬ note.IsWritable := by
  have named : (Value.text note.kind).isEmpty = false :=
    List.isEmpty_eq_false_iff.mpr note.kind_ne_nil
  rw [spendsId_mapping_iff named, Note.IsWritable, Bool.not_eq_true]
  simp [Value.text?]

theorem record_of_spends (spends : SpendsId kind data) (trace : Trace) :
    ∃ error, error.message? = none ∧ trace.record kind data = (.error error, trace.spent) := by
  generalize outcome : trace.record kind data = result
  have recorded := outcome ▸ trace.recorded kind data
  cases recorded with
  | refused worded kept => exact absurd spends kept
  | lost wordless => exact ⟨_, wordless, rfl⟩
  | stored named mapping kept => exact absurd spends kept

/-- Notes take identifiers up to the first that cannot be recorded, and it spends one. -/
theorem History.recordNotes (history : History trace slots) (notes : List Note) :
    ∃ added, History (Run.recordNotes trace notes).2 (slots ++ added) ∧
      (none ∈ added ↔ ∃ note ∈ notes, ¬ note.IsWritable) := by
  induction notes generalizing trace slots with
  | nil => exact ⟨[], by simpa [Run.recordNotes] using history, by simp⟩
  | cons note others ih =>
    by_cases writable : note.IsWritable
    · obtain ⟨first, began, spends⟩ := history.record (.text note.kind) (.mapping note.data)
      have full : none ∉ first := fun member => spendsId_note_iff.mp (spends.mp member) writable
      rw [trace.record_note writable] at began
      obtain ⟨more, ended, later⟩ := ih began
      refine ⟨first ++ more, ?_, ?_⟩
      · rw [List.append_assoc] at ended
        simpa only [Run.recordNotes, trace.record_note writable] using ended
      · simp [full, later, writable]
    · obtain ⟨error, _, recorded⟩ := record_of_spends (spendsId_note_iff.mpr writable) trace
      refine ⟨[none], ?_, by simp [writable]⟩
      simpa only [Run.recordNotes, recorded] using history.spend

/-! ### Numbering -/

/-- The first event has the first identifier, the second the second, and so on. -/
def IsSequential (trace : Trace) : Prop :=
  trace.events.map Event.id = (List.range' 1 trace.events.length).map Event.idOf

theorem History.length_events_eq_iff (history : History trace slots) :
    trace.events.length = trace.issued ↔ none ∉ slots := by
  rw [history.events, history.issued, List.reduceOption_length_eq_iff]
  constructor
  · exact fun all member => absurd (all none member) (by decide)
  · intro full slot member
    cases slot with
    | none => exact absurd member full
    | some event => rfl

theorem map_some_reduceOption {α : Type} {slots : List (Option α)} (full : none ∉ slots) :
    slots.reduceOption.map some = slots := by
  induction slots with
  | nil => rfl
  | cons slot slots ih =>
    cases slot with
    | none => exact absurd (.head _) full
    | some item =>
      rw [List.reduceOption_cons_of_some, List.map_cons, ih fun member => full (.tail _ member)]

/-- With an event under every identifier there is no gap. -/
theorem History.isSequential (history : History trace slots) (full : none ∉ slots) :
    IsSequential trace := by
  have whole := map_some_reduceOption full
  rw [← history.events] at whole
  refine List.ext_getElem (by simp) fun index inside _ => ?_
  rw [List.length_map] at inside
  have there : slots[index]? = some (some trace.events[index]) := by
    rw [← whole, List.getElem?_map, List.getElem?_eq_getElem inside]
    rfl
  obtain ⟨kind, data, made⟩ := history.placed index _ there
  simp [made, Event.made, Nat.add_comm]

/-- The next event carries on the numbering just if no identifier was spent. -/
theorem History.isSequential_stored_iff (history : History trace slots) (characters : Text)
    (entries : List (Text × Value)) :
    IsSequential (trace.stored characters entries) ↔ none ∉ slots := by
  constructor
  · intro sequential
    have last := congrArg (fun ids : List Text => ids[trace.events.length]?) sequential
    have numbers : Event.idOf (trace.issued + 1) = Event.idOf (1 + trace.events.length) := by
      simpa [stored, Event.made] using last
    have same := Event.idOf_injective numbers
    exact history.length_events_eq_iff.mp (by omega)
  · intro full
    exact (history.store characters entries).isSequential (by simpa using full)

end Trace

end SpinWait
