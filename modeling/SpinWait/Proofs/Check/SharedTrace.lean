import Mathlib.Data.List.Nodup
import SpinWait.Proofs.Check.CommentedLines
import SpinWait.Proofs.Check.Answer

namespace SpinWait.Check

open Log

/-! Several checks that record in one trace. None of them notices what the trace already holds, and
the trace takes down what each of them would have recorded alone. -/

structure Call where
  lines : List Text
  markers : Markers
  request : Request

variable {call : Call} {calls : List Call}

def Call.run (call : Call) : Run Passed := verify call.lines call.markers call.request

/-- What the call leaves in a trace of its own. -/
def Call.alone (call : Call) : Except Stop Passed × Trace := call.run.recorded Trace.empty

/-- The call is answered when it records alone, or every number it meets can be written. -/
inductive Call.Recordable (call : Call) : Prop
  | answered (answered : Answered call.alone.1)
  | short {expectation : Expectation} (asked : call.request = .expectation expectation)
      (small : IsSmall call.lines) (short : expectation.HasShortCount)

/-- The checks one after the other, each recording behind the ones before it. -/
def verifyAll : Trace → List Call → List (Except Stop Passed) × Trace
  | trace, [] => ([], trace)
  | trace, call :: others =>
    let (outcome, after) := call.run.recorded trace
    let (outcomes, last) := verifyAll after others
    (outcome :: outcomes, last)

theorem Call.Recordable.writable (recordable : call.Recordable) : call.run.Writable := by
  cases recordable with
  | answered answered => exact Run.writable_of_answered answered
  | short asked small short =>
    unfold Call.run
    rw [asked]
    exact verify_writable small short call.markers

theorem Call.Recordable.alone_eq (recordable : call.Recordable) :
    call.alone = (call.run.outcome, Trace.empty.extended call.run.notes) :=
  Run.recorded_eq_extended recordable.writable Trace.empty

theorem Call.Recordable.map_content_alone (recordable : call.Recordable) :
    call.alone.2.events.map Event.content =
      call.run.notes.map fun note => (note.kind, note.data) := by
  rw [recordable.alone_eq]
  simp [Trace.extended, Trace.empty]

/-- One check answers for itself and extends the trace by its own notes. -/
theorem verifyAll_cons (recordable : call.Recordable) (trace : Trace) (others : List Call) :
    verifyAll trace (call :: others) =
      (call.run.outcome :: (verifyAll (trace.extended call.run.notes) others).1,
        (verifyAll (trace.extended call.run.notes) others).2) := by
  simp only [verifyAll, Run.recorded_eq_extended recordable.writable]

theorem verifyAll_eq (recordable : ∀ call ∈ calls, call.Recordable) (trace : Trace) :
    verifyAll trace calls =
      (calls.map fun call => call.run.outcome, trace.extended (calls.flatMap (·.run.notes))) := by
  induction calls generalizing trace with
  | nil => simp [verifyAll]
  | cons call others ih =>
    have later := ih (fun other member => recordable other (.tail call member))
      (trace.extended call.run.notes)
    rw [verifyAll_cons (recordable call (.head others)), later, List.map_cons, List.flatMap_cons,
      Trace.extended_append]

/-- Every call answers as it does without a trace. Afterwards the trace holds what the calls would
have recorded alone, one behind the other, and its identifiers count up from 1. -/
theorem verifyAll_agrees (recordable : ∀ call ∈ calls, call.Recordable) :
    (verifyAll Trace.empty calls).1 = calls.map (fun call => call.run.outcomeWith none) ∧
      (verifyAll Trace.empty calls).2.events.map Event.content =
        calls.flatMap (fun call => call.alone.2.events.map Event.content) ∧
      (verifyAll Trace.empty calls).2.events.map Event.id =
        (List.range' 1 (verifyAll Trace.empty calls).2.events.length).map Event.idOf ∧
      ((verifyAll Trace.empty calls).2.events.map Event.id).Nodup := by
  have events : (verifyAll Trace.empty calls).2.events =
      Event.numbered 0 (calls.flatMap (·.run.notes)) := by
    rw [verifyAll_eq recordable]
    rfl
  have ids : (Event.numbered 0 (calls.flatMap (·.run.notes))).map Event.id =
      (List.range' 1 (calls.flatMap (·.run.notes)).length).map Event.idOf :=
    Event.map_id_numbered 0 _
  refine ⟨?_, ?_, ?_, ?_⟩
  · rw [verifyAll_eq recordable]
    rfl
  · rw [events, Event.map_content_numbered, List.map_flatMap]
    refine List.flatMap_congr fun call member => ?_
    rw [(recordable call member).map_content_alone]
  · rw [events, ids, Event.length_numbered]
  · rw [events, ids]
    exact List.Nodup.map Event.idOf_injective List.nodup_range'

/-- A check that passes, one that miscounts, and one that finds no method. -/
def sampleCalls : List Call := [
  ⟨commentedLog.lines, Markers.default, .expectation (.repeated .nop 3)⟩,
  ⟨commentedLog.lines, Markers.default, .expectation (.repeated .nop 2)⟩,
  ⟨[], Markers.default, .expectation (.counter 14 .yield (by decide))⟩]

theorem sampleCalls_agree :
    (∀ call ∈ sampleCalls, call.Recordable) ∧
      (verifyAll Trace.empty sampleCalls).1 =
        sampleCalls.map (fun call => call.run.outcomeWith none) ∧
      (verifyAll Trace.empty sampleCalls).2.events.map Event.content =
        sampleCalls.flatMap (fun call => call.alone.2.events.map Event.content) ∧
      (verifyAll Trace.empty sampleCalls).2.events.map Event.id =
        (List.range' 1 11).map Event.idOf := by
  have small : IsSmall commentedLog.lines := isSmall_of_weight_lt (by decide +kernel)
  have recordable : ∀ call ∈ sampleCalls, call.Recordable := by
    simp only [sampleCalls, List.forall_mem_cons, List.not_mem_nil, false_implies, implies_true,
      and_true]
    refine ⟨?_, ?_, ?_⟩
    · exact .short rfl small (Numeral.isShort_of_digit (by decide : 3 < 10))
    · exact .short rfl small (Numeral.isShort_of_digit (by decide : 2 < 10))
    · exact .short rfl (isSmall_of_weight_lt (by decide)) trivial
  obtain ⟨outcomes, contents, ids, _⟩ := verifyAll_agrees recordable
  have length : (verifyAll Trace.empty sampleCalls).2.events.length = 11 := by decide +kernel
  rw [length] at ids
  exact ⟨recordable, outcomes, contents, ids⟩

end SpinWait.Check
