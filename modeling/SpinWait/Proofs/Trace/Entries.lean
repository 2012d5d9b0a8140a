import Mathlib.Data.List.Forall2
import SpinWait.Proofs.Trace.Store

namespace SpinWait

/-! What a note leaves behind: the kind and the data of its event, and the line in which the event is
shown. -/

/-! ### The event of a note -/

inductive Log.Layout.Named : Log.Layout → Text → Prop
  | hex : Named .hex "HEX".toList
  | mnemonic : Named .mnemonic "MNEMONIC".toList

theorem Log.Layout.named_name (layout : Log.Layout) : layout.Named layout.name := by
  cases layout with
  | hex => exact .hex
  | mnemonic => exact .mnemonic

/-- The kind of the event that a note becomes, and its data, each value under its key. -/
inductive Note.Stores : Note → Text → List (Text × Value) → Prop
  | markerFound {marker : Text} {index : Nat} :
      Stores (.markerFound marker index) "MARKER_FOUND".toList
        [("marker".toList, .text marker), ("index".toList, .number index)]
  | formatDetected {layout : Log.Layout} {name : Text} {regionLines : Nat}
      (named : layout.Named name) :
      Stores (.formatDetected layout regionLines) "FORMAT_DETECTED".toList
        [("format".toList, .text name), ("region_lines".toList, .number regionLines)]
  | tokensCollected {count : Nat} :
      Stores (.tokensCollected count none) "TOKENS_COLLECTED".toList
        [("count".toList, .number count)]
  | tokensCollectedFor {count : Nat} {target : Text} :
      Stores (.tokensCollected count (some target)) "TOKENS_COLLECTED".toList
        [("count".toList, .number count), ("target".toList, .text target)]
  | runCounted {target : Text} {found expected : Nat} :
      Stores (.runCounted target found expected) "RUN_COUNTED".toList
        [("target".toList, .text target), ("found".toList, .number found),
          ("expected".toList, .number expected)]
  | slotMatched {slot : Nat} {token : Text} :
      Stores (.slotMatched slot token) "IDIOM_SLOT_MATCHED".toList
        [("slot".toList, .number slot), ("token".toList, .text token)]
  | verdict {layout : Log.Layout} {name detail : Text} (named : layout.Named name) :
      Stores (.verdict layout detail) "VERDICT".toList
        [("passed".toList, .flag true), ("format".toList, .text name),
          ("detail".toList, .text detail)]

theorem Note.stores (note : Note) : note.Stores note.kind note.data := by
  cases note with
  | markerFound => exact .markerFound
  | formatDetected layout => exact .formatDetected layout.named_name
  | tokensCollected count target =>
    cases target with
    | none => exact .tokensCollected
    | some target => exact .tokensCollectedFor
  | runCounted => exact .runCounted
  | slotMatched => exact .slotMatched
  | verdict layout => exact .verdict layout.named_name

/-- The event holds what a note leaves. -/
def Note.StoredIn (note : Note) (event : Event) : Prop := note.Stores event.kind event.data

theorem Event.storedIn_numbered (last : Nat) (notes : List Note) :
    List.Forall₂ Note.StoredIn notes (Event.numbered last notes) := by
  induction notes generalizing last with
  | nil => exact .nil
  | cons note others ih =>
    rw [Event.numbered_cons]
    exact .cons note.stores (ih (last + 1))

/-! ### The line of an event -/

/-- How the data of a check stand in a line: text as it is, numbers by their decimal digits. -/
inductive Value.Shows : Value → Text → Prop
  | text {text : Text} : Shows (.text text) text
  | number {n : Nat} : Shows (.number n) (Nat.toDigits 10 n)
  | holds : Shows (.flag true) "True".toList

/-- A key with its value behind an equals sign. -/
inductive Event.ShowsEntry : Text × Value → Text → Prop
  | intro {key shown : Text} {value : Value} (shows : value.Shows shown) :
      ShowsEntry (key, value) (key ++ '=' :: shown)

/-- The identifier, the kind filled up to eighteen characters, and the data, with blanks between
them. -/
inductive Event.Shows (event : Event) : Text → Prop
  | intro {fields : List Text} (each : List.Forall₂ ShowsEntry event.data fields) :
      Shows event (event.id ++ "  ".toList ++ event.kind ++
        List.replicate (18 - event.kind.length) ' ' ++ ' ' :: " ".toList.intercalate fields)

theorem Note.Stores.shows {note : Note} {kind : Text} {data : List (Text × Value)}
    (stored : note.Stores kind data) : ∀ entry ∈ data, entry.2.Shows entry.2.shown := by
  cases stored with
  | markerFound => exact List.forall_mem_cons.mpr ⟨.text, List.forall_mem_singleton.mpr .number⟩
  | formatDetected => exact List.forall_mem_cons.mpr ⟨.text, List.forall_mem_singleton.mpr .number⟩
  | tokensCollected => exact List.forall_mem_singleton.mpr .number
  | tokensCollectedFor =>
    exact List.forall_mem_cons.mpr ⟨.number, List.forall_mem_singleton.mpr .text⟩
  | runCounted =>
    exact List.forall_mem_cons.mpr
      ⟨.text, List.forall_mem_cons.mpr ⟨.number, List.forall_mem_singleton.mpr .number⟩⟩
  | slotMatched => exact List.forall_mem_cons.mpr ⟨.number, List.forall_mem_singleton.mpr .text⟩
  | verdict =>
    exact List.forall_mem_cons.mpr
      ⟨.holds, List.forall_mem_cons.mpr ⟨.text, List.forall_mem_singleton.mpr .text⟩⟩

theorem Event.shows_line {event : Event} (each : ∀ entry ∈ event.data, entry.2.Shows entry.2.shown) :
    event.Shows event.line := by
  have fields : List.Forall₂ ShowsEntry event.data
      (event.data.map fun entry => entry.1 ++ '=' :: entry.2.shown) := by
    rw [List.forall₂_map_right_iff, List.forall₂_same]
    exact fun entry member => .intro (each entry member)
  have line := Shows.intro fields
  rwa [List.append_assoc (event.id ++ "  ".toList)] at line

/-- Events that a run has recorded are shown by their lines, also if the run was stopped. -/
theorem Run.shows_lines_of_recorded {α : Type} {run : Run α} {events : List Event}
    (recorded : events ⊆ (run.recorded Trace.empty).2.events) :
    List.Forall₂ Event.Shows events (events.map Event.line) := by
  rw [Run.recorded_snd, Trace.recordNotes_events] at recorded
  rw [List.forall₂_map_right_iff, List.forall₂_same]
  intro event member
  obtain ⟨index, inside, rfl⟩ := List.mem_mapIdx.mp (recorded member)
  exact Event.shows_line (Note.stores _).shows

end SpinWait
