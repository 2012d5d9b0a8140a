import Mathlib.Data.List.Infix
import Mathlib.Data.List.Nodup
import SpinWait.Proofs.Text.Order
import SpinWait.Proofs.Trace.History

namespace SpinWait

/-! What a trace holds, whatever was recorded in it, and what a query finds there. Events are only put
behind the ones before, under identifiers in the order in which these were given out. -/

namespace Event

variable {m n : Nat}

/-- Identifiers stand in the order of their numbers as long as sixteen digits are enough. -/
theorem below_idOf (less : m < n) (fits : n < 10 ^ 16) : Text.Below (idOf m) (idOf n) :=
  (Numeral.below_padZeros_decimal less fits).append_left _

end Event

namespace Trace

variable {trace : Trace} {kind data : Value} {entries : List (Value × Value)} {notes : List Note}

/-! ### Recording -/

/-- Records in order, up to the first record that fails, and answers the identifiers of the others. -/
def recordAll : Trace → List (Value × Value) → List Text × Trace
  | trace, [] => ([], trace)
  | trace, (kind, data) :: others =>
    match trace.record kind data with
    | (.ok id, after) => (id :: (recordAll after others).1, (recordAll after others).2)
    | (.error _, after) => ([], after)

/-- Every record that returns is one event behind those before, under the identifier it returns. -/
theorem recordAll_events (trace : Trace) (entries : List (Value × Value)) :
    ∃ added, (trace.recordAll entries).2.events = trace.events ++ added ∧
      added.map Event.id = (trace.recordAll entries).1 := by
  induction entries generalizing trace with
  | nil => exact ⟨[], (List.append_nil _).symm, rfl⟩
  | cons entry others ih =>
    obtain ⟨kind, data⟩ := entry
    simp only [recordAll]
    generalize outcome : trace.record kind data = result
    have recorded := outcome ▸ trace.recorded kind data
    cases recorded with
    | refused => exact ⟨[], (List.append_nil _).symm, rfl⟩
    | lost => exact ⟨[], (List.append_nil _).symm, rfl⟩
    | @stored characters entries =>
      obtain ⟨added, events, ids⟩ := ih (trace.stored characters entries)
      refine ⟨Event.made (trace.issued + 1) characters entries :: added, ?_, ?_⟩
      · rw [events, stored, List.append_assoc, List.singleton_append]
      · rw [List.map_cons, ids, Event.made]

theorem recordNotes_eq_recordAll (trace : Trace) (notes : List Note) :
    (Run.recordNotes trace notes).2 =
      (trace.recordAll (notes.map fun note => (.text note.kind, .mapping note.data))).2 := by
  induction notes generalizing trace with
  | nil => rfl
  | cons note others ih =>
    rw [Run.recordNotes, List.map_cons, recordAll]
    generalize trace.record (.text note.kind) (.mapping note.data) = result
    obtain ⟨outcome, after⟩ := result
    cases outcome with
    | ok id => exact ih after
    | error error => rfl

/-- Of the notes of a check those before the first with a number that is too long are kept. -/
theorem recordNotes_events (trace : Trace) (notes : List Note) :
    (Run.recordNotes trace notes).2.events = trace.events ++ Event.numbered trace.issued
      (notes.takeWhile fun note => Value.entriesWritable note.data) := by
  induction notes generalizing trace with
  | nil => exact (List.append_nil _).symm
  | cons note others ih =>
    by_cases writable : note.IsWritable
    · have kept : Value.entriesWritable note.data = true := writable
      simp only [Run.recordNotes, trace.record_note writable, List.takeWhile_cons, kept, if_true]
      rw [ih, extended, List.append_assoc, ← Event.numbered_append, List.singleton_append]
    · have dropped : Value.entriesWritable note.data = false := Bool.eq_false_iff.mpr writable
      obtain ⟨error, _, recorded⟩ := record_of_spends (spendsId_note_iff.mpr writable) trace
      simp [Run.recordNotes, recorded, dropped, spent]

/-! ### What the trace holds -/

/-- The identifiers of the events are among those given out, in the same order, and every digest is
that of the event itself. -/
structure Sound (trace : Trace) : Prop where
  ids : (trace.events.map Event.id).Sublist ((List.range' 1 trace.issued).map Event.idOf)
  digests : ∀ event ∈ trace.events,
    event.digest = Event.digestOf event.id event.kind event.data

theorem sound_empty : Sound empty := ⟨List.Sublist.refl _, nofun⟩

theorem issued_succ (n : Nat) : (List.range' 1 (n + 1)).map Event.idOf =
    (List.range' 1 n).map Event.idOf ++ [Event.idOf (n + 1)] := by
  rw [List.range'_1_concat, List.map_append, List.map_singleton, Nat.add_comm 1 n]

theorem Sound.spent (sound : Sound trace) : Sound trace.spent where
  ids := by
    rw [Trace.spent, issued_succ]
    exact sound.ids.trans (List.sublist_append_left _ _)
  digests := sound.digests

theorem Sound.stored (sound : Sound trace) (characters : Text) (entries : List (Text × Value)) :
    Sound (trace.stored characters entries) where
  ids := by
    rw [Trace.stored, issued_succ, List.map_append]
    exact sound.ids.append (List.Sublist.refl _)
  digests := by
    intro event member
    rcases List.mem_append.mp member with earlier | last
    · exact sound.digests event earlier
    · obtain rfl := List.mem_singleton.mp last
      rfl

theorem Sound.record (sound : Sound trace) (kind data : Value) :
    Sound (trace.record kind data).2 := by
  generalize outcome : trace.record kind data = result
  have recorded := outcome ▸ trace.recorded kind data
  cases recorded with
  | refused => exact sound
  | lost => exact sound.spent
  | stored => exact sound.stored _ _

theorem Sound.recordAll (sound : Sound trace) (entries : List (Value × Value)) :
    Sound (trace.recordAll entries).2 := by
  induction entries generalizing trace with
  | nil => exact sound
  | cons entry others ih =>
    obtain ⟨kind, data⟩ := entry
    have next := sound.record kind data
    rw [Trace.recordAll]
    generalize trace.record kind data = result at next
    obtain ⟨outcome, after⟩ := result
    cases outcome with
    | ok id => exact ih next
    | error error => exact next

/-- The numbers of the events ascend strictly. -/
theorem Sound.exists_numbers (sound : Sound trace) : ∃ numbers : List Nat,
    trace.events.map Event.id = numbers.map Event.idOf ∧ numbers.Pairwise (· < ·) ∧
      ∀ number ∈ numbers, 0 < number ∧ number ≤ trace.issued := by
  obtain ⟨numbers, among, ids⟩ := List.sublist_map_iff.mp sound.ids
  refine ⟨numbers, ids, List.Pairwise.sublist among List.pairwise_lt_range', fun number member => ?_⟩
  have bounds := List.mem_range'_1.mp (among.subset member)
  omega

theorem Sound.nodup (sound : Sound trace) : (trace.events.map Event.id).Nodup :=
  sound.ids.nodup (List.Nodup.map Event.idOf_injective List.nodup_range')

theorem Sound.ascending (sound : Sound trace) (few : trace.issued < 10 ^ 16) :
    (trace.events.map Event.id).Pairwise Text.Below := by
  obtain ⟨numbers, ids, ascending, bounded⟩ := sound.exists_numbers
  rw [ids, List.pairwise_map]
  refine ascending.imp_of_mem fun _ later less => ?_
  exact Event.below_idOf less (Nat.lt_of_le_of_lt (bounded _ later).2 few)

/-! ### Queries -/

theorem takeLimit_begins {events later : List Event} (begins : events <+: later) (limit : Int) :
    takeLimit limit events <+: takeLimit limit later := by
  have cut {few many : Nat} (le : few ≤ many) : events.take few <+: later.take many :=
    (begins.take few).trans (List.take_prefix_take_left le)
  cases limit with
  | ofNat count => exact cut (Nat.le_refl count)
  | negSucc short => exact cut (Nat.sub_le_sub_right begins.length_le _)

/-- What a query finds stays the beginning of what it finds later. -/
theorem query_begins {later : Trace} (begins : trace.events <+: later.events)
    (kind : Option Value) (limit : Option Int) :
    trace.query kind limit <+: later.query kind limit := by
  have chosen : trace.query kind none <+: later.query kind none := by
    cases kind with
    | none => exact begins
    | some kind => exact begins.filter _
  cases limit with
  | none => exact chosen
  | some limit => exact takeLimit_begins chosen limit

end Trace

end SpinWait
