import SpinWait.Proofs.Check.SharedTrace
import SpinWait.Proofs.Trace.History

namespace SpinWait.Check

open Trace

/-! A trace under any sequence of uses. An event that cannot be recorded leaves the events as they are,
but not always the identifiers, and this shows in the events that follow. -/

/-- What may be done with a trace. -/
inductive Step
  | record (kind data : Value)
  | emit (kind data : Value)
  | check (call : Call)
  | query (kind : Option Value) (limit : Option Int)

variable {trace : Trace} {slots : List (Option Event)} {kind data : Value} {steps : List Step}

namespace Step

def apply (trace : Trace) : Step → Trace
  | record kind data => (trace.record kind data).2
  | emit kind data => (Trace.emit (some trace) kind data).2.getD trace
  | check call => (call.run.recorded trace).2
  | query _ _ => trace

/-- The step takes an identifier and stores no event under it. -/
inductive Spends : Step → Prop
  | record {kind data : Value} (spends : SpendsId kind data) : Spends (.record kind data)
  | emit {kind : Value} {entries : List (Text × Value)}
      (unreserved : ∀ entry ∈ entries, entry.1 ∉ reservedKeys)
      (spends : SpendsId kind (.mapping entries)) : Spends (.emit kind (.mapping entries))
  | check {call : Call} (unwritable : ¬ call.run.Writable) : Spends (.check call)

theorem spends_record_iff : (record kind data).Spends ↔ SpendsId kind data := by
  constructor
  · intro step
    cases step with
    | record spends => exact spends
  · exact .record

theorem spends_emit_iff {entries : List (Text × Value)}
    (unreserved : ∀ entry ∈ entries, entry.1 ∉ reservedKeys) :
    (emit kind (.mapping entries)).Spends ↔ SpendsId kind (.mapping entries) := by
  constructor
  · intro step
    cases step with
    | emit _ spends => exact spends
  · exact .emit unreserved

theorem spends_check_iff {call : Call} : (check call).Spends ↔ ¬ call.run.Writable := by
  constructor
  · intro spends
    cases spends with
    | check unwritable => exact unwritable
  · exact .check

/-- An event that is handed over field by field is recorded unless a field has a reserved name. -/
theorem apply_emit (trace : Trace) (kind : Value) {entries : List (Text × Value)}
    (unreserved : ∀ entry ∈ entries, entry.1 ∉ reservedKeys) :
    (emit kind (.mapping entries)).apply trace = (record kind (.mapping entries)).apply trace := by
  have free : (entries.any fun entry => reservedKeys.contains entry.1) = false := by
    simpa using unreserved
  simp only [apply, Trace.emit, free, Bool.false_eq_true, if_false]
  split <;> simp [*]

theorem exists_history_emit (history : History trace slots) (kind data : Value) :
    ∃ added, History ((emit kind data).apply trace) (slots ++ added) ∧
      (none ∈ added ↔ (emit kind data).Spends) := by
  have untouched (kept : (emit kind data).apply trace = trace) (free : ¬ (emit kind data).Spends) :
      ∃ added, History ((emit kind data).apply trace) (slots ++ added) ∧
        (none ∈ added ↔ (emit kind data).Spends) :=
    ⟨[], by rwa [kept, List.append_nil], by simpa using free⟩
  cases data with
  | mapping entries =>
    by_cases unreserved : ∀ entry ∈ entries, entry.1 ∉ reservedKeys
    · rw [apply_emit trace kind unreserved, spends_emit_iff unreserved]
      exact history.record kind (.mapping entries)
    · have taken : (entries.any fun entry => reservedKeys.contains entry.1) = true := by
        simpa using unreserved
      refine untouched (by simp only [apply, Trace.emit, taken, if_true, Option.getD_some]) ?_
      intro step
      cases step with
      | emit free => exact unreserved free
  | _ => exact untouched rfl nofun

/-- Every step gives out identifiers behind those before. -/
theorem exists_history (history : History trace slots) (step : Step) :
    ∃ added, History (step.apply trace) (slots ++ added) ∧ (none ∈ added ↔ step.Spends) := by
  cases step with
  | record kind data =>
    rw [spends_record_iff]
    exact history.record kind data
  | emit kind data => exact exists_history_emit history kind data
  | check call =>
    obtain ⟨added, longer, spends⟩ := history.recordNotes call.run.notes
    refine ⟨added, by rwa [apply, Run.recorded_snd], ?_⟩
    rw [spends, spends_check_iff, Run.Writable]
    simp
  | query => exact ⟨[], by rwa [List.append_nil], by simpa using nofun⟩

end Step

/-- The trace after these steps. -/
def after (trace : Trace) (steps : List Step) : Trace := steps.foldl Step.apply trace

theorem after_append (trace : Trace) (steps later : List Step) :
    after trace (steps ++ later) = after (after trace steps) later :=
  List.foldl_append

/-- The trace that is reached from an empty one. -/
def reached (steps : List Step) : Trace := after Trace.empty steps

theorem exists_history_after (history : History trace slots) (steps : List Step) :
    ∃ added, History (after trace steps) (slots ++ added) ∧
      (none ∈ added ↔ ∃ step ∈ steps, step.Spends) := by
  induction steps generalizing trace slots with
  | nil => exact ⟨[], by rwa [List.append_nil], by simp⟩
  | cons step steps ih =>
    obtain ⟨first, began, here⟩ := step.exists_history history
    obtain ⟨more, ended, later⟩ := ih began
    refine ⟨first ++ more, by rwa [List.append_assoc] at ended, ?_⟩
    rw [List.mem_append, here, later, List.exists_mem_cons_iff]

theorem exists_history_reached (steps : List Step) :
    ∃ slots, History (reached steps) slots ∧ (none ∉ slots ↔ ∀ step ∈ steps, ¬ step.Spends) := by
  obtain ⟨added, history, spends⟩ := exists_history_after history_empty steps
  refine ⟨added, history, ?_⟩
  rw [spends]
  simp

/-! ### What a failure leaves -/

/-- Any text but the empty one, and no fields. -/
def sampleStep : Step := .record (.text "VERDICT".toList) (.mapping [])

theorem not_spends_sampleStep : ¬ sampleStep.Spends := by
  rw [sampleStep, Step.spends_record_iff, spendsId_mapping_iff (by decide)]
  exact fun either => either.elim nofun nofun

/-- After an identifier was spent the next event has another one. -/
theorem spent_shows (trace : Trace) :
    (after trace.spent [sampleStep]).events ≠ (after trace [sampleStep]).events := by
  intro same
  have last := List.append_cancel_left (same : trace.events ++ _ = trace.events ++ _)
  have ids := congrArg Event.id (List.singleton_injective last)
  have numbers := Event.idOf_injective ids
  simp [spent] at numbers

/-- Whatever is done with both traces later, they hold the same events. -/
def SameLater (left right : Trace) : Prop :=
  ∀ later, (after left later).events = (after right later).events

/-- Only an error of the trace's own leaves the trace as it was. -/
theorem record_failed {error : TraceError} (failed : (trace.record kind data).1 = .error error) :
    (trace.record kind data).2.events = trace.events ∧
      (error.message?.isSome → (trace.record kind data).2 = trace) ∧
      (SameLater (trace.record kind data).2 trace ↔ error.message?.isSome) := by
  generalize outcome : trace.record kind data = result at failed
  have recorded := outcome ▸ trace.recorded kind data
  cases recorded with
  | refused worded kept =>
    cases failed
    exact ⟨rfl, fun _ => rfl, fun _ => worded, fun _ _ => rfl⟩
  | lost wordless spends =>
    cases failed
    have unworded : ¬ error.message?.isSome := by simp [wordless]
    refine ⟨rfl, fun worded => absurd worded unworded, fun same => ?_, fun worded => ?_⟩
    · exact absurd (same [sampleStep]) (spent_shows trace)
    · exact absurd worded unworded
  | stored => cases failed

/-- The events are numbered without a gap from then on just if no step spent an identifier. -/
theorem isSequential_later_iff (steps : List Step) :
    (∀ later, (∀ step ∈ later, ¬ step.Spends) → IsSequential (reached (steps ++ later))) ↔
      ∀ step ∈ steps, ¬ step.Spends := by
  constructor
  · intro sequential
    obtain ⟨slots, history, full⟩ := exists_history_reached steps
    have next := sequential [sampleStep] (List.forall_mem_singleton.mpr not_spends_sampleStep)
    rw [reached, after_append] at next
    exact full.mp ((history.isSequential_stored_iff _ _).mp next)
  · intro kept later keptLater
    obtain ⟨slots, history, full⟩ := exists_history_reached (steps ++ later)
    exact history.isSequential (full.mpr (List.forall_mem_append.mpr ⟨kept, keptLater⟩))

/-- A failed record leaves the events as they are. With an error of the trace's own it leaves the whole
trace as it was, and with no other error does it go unnoticed later. The events are numbered without a
gap just if no step spent an identifier on an event that it did not store. -/
theorem failed_record_exact (steps : List Step) :
    (∀ kind data error, ((reached steps).record kind data).1 = .error error →
      ((reached steps).record kind data).2.events = (reached steps).events ∧
        (error.message?.isSome → ((reached steps).record kind data).2 = reached steps) ∧
        (SameLater ((reached steps).record kind data).2 (reached steps) ↔ error.message?.isSome)) ∧
      ((∀ later, (∀ step ∈ later, ¬ step.Spends) → IsSequential (reached (steps ++ later))) ↔
        ∀ step ∈ steps, ¬ step.Spends) :=
  ⟨fun _ _ _ => record_failed, isSequential_later_iff steps⟩

/-- A number that is too long to be written. -/
def overlongData : Value := .mapping [("n".toList, .number (10 ^ Numeral.maxDigits : Nat))]

theorem record_overlongData (trace : Trace) :
    trace.record (.text "VERDICT".toList) overlongData = (.error .oversized, trace.spent) := by
  have long : Numeral.isWritable (10 ^ Numeral.maxDigits : Nat) = false :=
    Bool.eq_false_iff.mpr fun short => Nat.lt_irrefl _ (Numeral.isWritable_natCast.mp short)
  have unwritable : Value.entriesWritable [("n".toList, .number (10 ^ Numeral.maxDigits : Nat))] =
      false := by
    rw [Value.entriesWritable, Value.isWritable, long, Bool.false_and]
  have named : (Value.text "VERDICT".toList).isEmpty = false := by decide
  simp only [overlongData, record, named, store, Value.text?, unwritable]
  rfl

theorem overlongData_shows_later :
    ((reached []).record (.text "VERDICT".toList) overlongData).1 = .error .oversized ∧
      ¬ SameLater ((reached []).record (.text "VERDICT".toList) overlongData).2 (reached []) ∧
      IsSequential (reached [sampleStep, sampleStep]) := by
  have failed : ((reached []).record (.text "VERDICT".toList) overlongData).1 = .error .oversized :=
    congrArg Prod.fst (record_overlongData _)
  have once : ∀ step ∈ [sampleStep], ¬ step.Spends :=
    List.forall_mem_singleton.mpr not_spends_sampleStep
  obtain ⟨_, _, shows⟩ := (failed_record_exact []).1 _ _ _ failed
  have unworded : ¬ TraceError.oversized.message?.isSome := by decide
  exact ⟨failed, fun same => unworded (shows.mp same),
    (failed_record_exact [sampleStep]).2.mpr once [sampleStep] once⟩

/-- With a kind that is no text the next event has the second identifier. -/
theorem wrongKind_not_atomic :
    ¬ ∀ steps kind data error, ((reached steps).record kind data).1 = .error error →
      SameLater ((reached steps).record kind data).2 (reached steps) := by
  intro atomic
  have lost : (reached []).record (.number 7) (.mapping []) =
      (.error .wrongKind, (reached []).spent) := rfl
  have same := atomic [] _ _ _ (congrArg Prod.fst lost) [sampleStep]
  rw [lost] at same
  exact spent_shows _ same

end SpinWait.Check
