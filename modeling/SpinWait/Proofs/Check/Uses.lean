import SpinWait.Proofs.Check.Steps
import SpinWait.Proofs.Trace.Store

namespace SpinWait.Check

open Trace

/-! A trace under any sequence of uses, with what each of them answers. Whatever fails on the way, the
events that are stored stay as they are, and what is found among them once is found later too. -/

/-- Which events are asked for: of one kind or of all, and how many of them at most. -/
structure Filter where
  kind : Option Text
  limit : Option Int

/-- What may be asked of a trace. -/
inductive Use
  | record (kind data : Value)
  | emit (kind data : Value)
  | query (filter : Option Filter)
  | stream
  | check (call : Call)

inductive Reply
  | id (id : Text)
  | done
  | events (events : List Event)
  | passed (passed : Passed)

inductive Failure
  | trace (error : TraceError)
  | check (stop : Stop)

variable {trace : Trace} {uses later : List Use} {use : Use} {call : Call} {failure : Failure}

namespace Use

/-- What the use answers, and the trace that it leaves. -/
def answer (trace : Trace) : Use → Except Failure Reply × Trace
  | record kind data =>
    let result := trace.record kind data
    ((result.1.map .id).mapError .trace, result.2)
  | emit kind data =>
    let result := Trace.emit (some trace) kind data
    ((result.1.map fun _ => .done).mapError .trace, result.2.getD trace)
  | query none => (.error (.trace .missingFilter), trace)
  | query (some filter) =>
    (.ok (.events (trace.query (filter.kind.map .text) filter.limit)), trace)
  | stream => (.ok (.events trace.events), trace)
  | check call =>
    let result := call.run.recorded trace
    ((result.1.map .passed).mapError .check, result.2)

/-- What the use hands over to be recorded, in order. -/
def entries : Use → List (Value × Value)
  | record kind data => [(kind, data)]
  | emit kind (.mapping fields) =>
    if fields.any fun field => reservedKeys.contains field.1 then [] else [(kind, .mapping fields)]
  | emit _ _ => []
  | query _ => []
  | stream => []
  | check call => call.run.notes.map fun note => (.text note.kind, .mapping note.data)

/-- The uses one after the other. -/
def after (trace : Trace) (uses : List Use) : Trace :=
  uses.foldl (fun trace use => (use.answer trace).2) trace

/-- The trace that is reached from an empty one. -/
def reached (uses : List Use) : Trace := after Trace.empty uses

/-- The identifiers that the records made by these uses return. -/
def returned : Trace → List Use → List Text
  | _, [] => []
  | trace, use :: later => (trace.recordAll use.entries).1 ++ returned (use.answer trace).2 later

theorem after_append (trace : Trace) (uses later : List Use) :
    after trace (uses ++ later) = after (after trace uses) later :=
  List.foldl_append

/-! ### One use -/

theorem recordAll_singleton_snd (trace : Trace) (kind data : Value) :
    (trace.recordAll [(kind, data)]).2 = (trace.record kind data).2 := by
  rw [recordAll]
  split <;> simp [recordAll, *]

theorem emit_snd (trace : Trace) (kind : Value) (fields : List (Text × Value)) :
    (Trace.emit (some trace) kind (.mapping fields)).2.getD trace =
      (trace.recordAll (emit kind (.mapping fields)).entries).2 := by
  simp only [Trace.emit, entries]
  cases fields.any fun field => reservedKeys.contains field.1 with
  | true => rfl
  | false =>
    simp only [Bool.false_eq_true, if_false, recordAll_singleton_snd]
    generalize trace.record kind (.mapping fields) = result
    obtain ⟨outcome, after⟩ := result
    cases outcome <;> rfl

/-- A use changes the trace by what it records, and by nothing else. -/
theorem answer_snd (trace : Trace) (use : Use) :
    (use.answer trace).2 = (trace.recordAll use.entries).2 := by
  cases use with
  | record kind data => exact (recordAll_singleton_snd trace kind data).symm
  | emit kind data =>
    cases data with
    | mapping fields => exact emit_snd trace kind fields
    | _ => rfl
  | query filter => cases filter <;> rfl
  | stream => rfl
  | check call => rw [answer, Run.recorded_snd, recordNotes_eq_recordAll, entries]

theorem answer_events (trace : Trace) (use : Use) :
    ∃ added, (use.answer trace).2.events = trace.events ++ added ∧
      added.map Event.id = (trace.recordAll use.entries).1 := by
  rw [answer_snd]
  exact trace.recordAll_events use.entries

theorem sound_answer (sound : Sound trace) (use : Use) : Sound (use.answer trace).2 := by
  rw [answer_snd]
  exact sound.recordAll use.entries

theorem exists_of_mapError {α β ε : Type} {outcome : Except ε α} {reply : α → β}
    {wrap : ε → Failure} (failed : (outcome.map reply).mapError wrap = .error failure) :
    ∃ error, outcome = .error error := by
  cases outcome with
  | error error => exact ⟨error, rfl⟩
  | ok result => cases failed

/-- Only a check records more than one event, so no other use fails behind an event that it stored. -/
theorem answer_failed (failed : (use.answer trace).1 = .error failure)
    (single : ∀ call, use ≠ .check call) : (use.answer trace).2.events = trace.events := by
  cases use with
  | record kind data =>
    obtain ⟨error, refused⟩ := exists_of_mapError failed
    exact (record_failed refused).1
  | emit kind data =>
    obtain ⟨error, refused⟩ := exists_of_mapError failed
    cases data with
    | mapping fields =>
      simp only [answer, Trace.emit] at refused ⊢
      cases reserved : fields.any fun field => reservedKeys.contains field.1 with
      | true => rfl
      | false =>
        simp only [reserved, Bool.false_eq_true, if_false] at refused ⊢
        generalize outcome : trace.record kind (.mapping fields) = result at refused ⊢
        obtain ⟨answered, after⟩ := result
        cases answered with
        | ok id => cases refused
        | error other =>
          have kept := (record_failed (congrArg Prod.fst outcome)).1
          rwa [outcome] at kept
    | _ => rfl
  | query filter => cases filter <;> rfl
  | stream => rfl
  | check call => exact absurd rfl (single call)

/-- A check stores its notes up to the first that is too long, whether or not it fails. -/
theorem answer_check_events (trace : Trace) (call : Call) :
    ((check call).answer trace).2.events = trace.events ++ Event.numbered trace.issued
      (call.run.notes.takeWhile fun note => Value.entriesWritable note.data) := by
  rw [answer, Run.recorded_snd, recordNotes_events]

/-! ### Any number of uses -/

theorem after_events (trace : Trace) (uses : List Use) :
    ∃ added, (after trace uses).events = trace.events ++ added ∧
      added.map Event.id = returned trace uses := by
  induction uses generalizing trace with
  | nil => exact ⟨[], (List.append_nil _).symm, rfl⟩
  | cons use later ih =>
    obtain ⟨first, events, ids⟩ := answer_events trace use
    obtain ⟨others, laterEvents, laterIds⟩ := ih (use.answer trace).2
    refine ⟨first ++ others, ?_, ?_⟩
    · rw [after, List.foldl_cons, ← after, laterEvents, events, List.append_assoc]
    · rw [List.map_append, ids, laterIds, returned]

theorem sound_after (sound : Sound trace) (uses : List Use) : Sound (after trace uses) := by
  induction uses generalizing trace with
  | nil => exact sound
  | cons use later ih => exact ih (sound_answer sound use)

theorem sound_reached (uses : List Use) : Sound (reached uses) := sound_after sound_empty uses

theorem reached_begins (uses later : List Use) :
    (reached uses).events <+: (reached (uses ++ later)).events := by
  obtain ⟨added, events, _⟩ := after_events (reached uses) later
  have whole : reached (uses ++ later) = after (reached uses) later := after_append _ uses later
  exact ⟨added, by rw [whole, events]⟩

theorem reached_ids (uses : List Use) :
    (reached uses).events.map Event.id = returned Trace.empty uses := by
  obtain ⟨added, events, ids⟩ := after_events Trace.empty uses
  rw [reached, events, ← ids]
  rfl

/-- The events of a kind, or all of them. -/
def ofKind (kind : Option Text) (events : List Event) : List Event :=
  events.filter fun event => kind.all (· = event.kind)

theorem query_eq_ofKind (trace : Trace) (kind : Option Text) :
    trace.query (kind.map .text) none = ofKind kind trace.events := by
  cases kind with
  | none => simp [Trace.query, ofKind]
  | some kind => simp [Trace.query, ofKind, Value.text?]

/-- What holds after any uses. -/
structure StoreKept (uses : List Use) : Prop where
  grows : ∀ later, (reached uses).events <+: (reached (uses ++ later)).events
  returned : (reached uses).events.map Event.id = returned Trace.empty uses
  counted : (reached uses).events.length = (Use.returned Trace.empty uses).length
  numbered : ∃ numbers : List Nat, (reached uses).events.map Event.id = numbers.map Event.idOf ∧
    numbers.Pairwise (· < ·) ∧ ∀ number ∈ numbers, 0 < number ∧ number ≤ (reached uses).issued
  distinct : ((reached uses).events.map Event.id).Nodup
  ascending : (reached uses).issued < 10 ^ 16 →
    ((reached uses).events.map Event.id).Pairwise Text.Below
  digests : ∀ event ∈ (reached uses).events,
    event.digest = Event.digestOf event.id event.kind event.data
  unchanged : ∀ (use : Use) (failure : Failure), (use.answer (reached uses)).1 = .error failure →
    (∀ call, use ≠ .check call) → (use.answer (reached uses)).2.events = (reached uses).events
  checked : ∀ call, ((check call).answer (reached uses)).2.events =
    (reached uses).events ++ Event.numbered (reached uses).issued
      (call.run.notes.takeWhile fun note => Value.entriesWritable note.data)
  found : ∀ kind, ((query (some ⟨kind, none⟩)).answer (reached uses)).1 =
    .ok (.events (ofKind kind (reached uses).events))
  foundFirst : ∀ kind (count : Nat),
    ((query (some ⟨kind, some count⟩)).answer (reached uses)).1 =
      .ok (.events ((ofKind kind (reached uses).events).take count))
  foundLater : ∀ filter events later events',
    ((query (some filter)).answer (reached uses)).1 = .ok (.events events) →
    ((query (some filter)).answer (reached (uses ++ later))).1 = .ok (.events events') →
    events <+: events'

/-- Every event is put behind those before, under the identifier that its record returns. Identifiers
ascend, and no use but a check stores events and then fails. What a query finds is the beginning of
what it finds later. -/
theorem storeKept (uses : List Use) : StoreKept uses where
  grows := reached_begins uses
  returned := reached_ids uses
  counted := by rw [← reached_ids, List.length_map]
  numbered := (sound_reached uses).exists_numbers
  distinct := (sound_reached uses).nodup
  ascending := (sound_reached uses).ascending
  digests := (sound_reached uses).digests
  unchanged := fun _ _ => answer_failed
  checked := answer_check_events (reached uses)
  found kind := by rw [answer, query_eq_ofKind]
  foundFirst kind count := by
    rw [← query_eq_ofKind]
    rfl
  foundLater := by
    intro filter events later events' now then'
    cases now
    cases then'
    exact query_begins (reached_begins uses later) _ _

/-! ### A check that fails, and many events -/

/-- The method is announced, and its call site is missing. -/
def strandedCall : Call :=
  ⟨[Markers.default.header], Markers.default, .expectation (.repeated .nop 1)⟩

def sampleUse : Use := record (.text "VERDICT".toList) (.mapping [])

theorem reached_samples (count : Nat) :
    (reached (List.replicate count sampleUse)).issued = count ∧
      (reached (List.replicate count sampleUse)).events.map Event.id =
        (List.range' 1 count).map Event.idOf := by
  induction count with
  | zero => exact ⟨rfl, rfl⟩
  | succ count ih =>
    obtain ⟨issued, ids⟩ := ih
    have next : reached (List.replicate (count + 1) sampleUse) =
        (reached (List.replicate count sampleUse)).stored "VERDICT".toList [] := by
      rw [List.replicate_succ', reached, after_append]
      rfl
    rw [next, stored, issued]
    exact ⟨rfl, by rw [List.map_append, ids, issued_succ]; rfl⟩

theorem below_of_ascending_samples {n : Nat}
    (ascending : ((reached (List.replicate (n + 2) sampleUse)).events.map Event.id).Pairwise
      Text.Below) : Text.Below (Event.idOf (n + 1)) (Event.idOf (n + 2)) := by
  rw [(reached_samples _).2, issued_succ, issued_succ, List.append_assoc] at ascending
  exact List.rel_of_pairwise_cons (List.pairwise_append.mp ascending).2.1 (.head _)

/-- A check that fails behind its first note has stored it. With the seventeenth digit the
identifiers as texts begin again. -/
theorem failed_check_stores :
    (¬ ∀ (uses : List Use) (use : Use) (failure : Failure),
      (use.answer (reached uses)).1 = .error failure →
        (use.answer (reached uses)).2.events = (reached uses).events) ∧
    ¬ ∀ uses, ((reached uses).events.map Event.id).Pairwise Text.Below := by
  constructor
  · intro unchanged
    have failed : ((check strandedCall).answer (reached [])).1.isOk = false := by decide +kernel
    have stored : ((check strandedCall).answer (reached [])).2.events.length = 1 := by
      decide +kernel
    cases answered : ((check strandedCall).answer (reached [])).1 with
    | ok reply =>
      rw [answered] at failed
      cases failed
    | error failure =>
      rw [unchanged [] _ _ answered] at stored
      cases stored
  · intro ascending
    have last : ¬ Text.Below (Event.idOf 9999999999999999) (Event.idOf 10000000000000000) := by
      decide +kernel
    exact last (below_of_ascending_samples (n := 9999999999999998) (ascending _))

end Use

end SpinWait.Check
