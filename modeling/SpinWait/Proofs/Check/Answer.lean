import SpinWait.Proofs.Check.Notes
import SpinWait.Proofs.Expectation

namespace SpinWait

/-! When a check answers with a result or a fault: always, but for one instruction. -/

open Numeral

namespace Run

variable {α : Type} {run : Run α}

/-- The outcome of a run whose notes go to a trace, if there is one. -/
def outcomeWith (run : Run α) : Option Trace → Except Stop α
  | none => run.outcome
  | some trace => (run.recorded trace).1

theorem outcomeWith_eq (writable : run.Writable) (trace : Option Trace) :
    run.outcomeWith trace = run.outcome := by
  cases trace with
  | none => rfl
  | some trace => exact recorded_eq writable trace

end Run

namespace Check

open Log

variable {lines tokens : List Text} {markers : Markers} {layout : Layout} {delay count : Nat}
  {spin hint : Hint} {position : Nat} {token : Text}

/-! ### The loop -/

/-- In a method shown by mnemonics, such an instruction follows the first reading of the cycle
counter. -/
def AddsOverlong (lines : List Text) (markers : Markers) : Prop :=
  ∃ tokens position token, MethodTokens lines markers .mnemonic tokens ∧
    FirstAt tokens anchorName position ∧ tokens[position + 1]? = some token ∧ IsOverlong token

/-- The addition is the first instruction after the one by which the loop is found. -/
theorem counter_outcome_of_add {next : Option Text} {stop : Stop}
    (method : MethodTokens lines markers layout tokens)
    (first : FirstAt tokens (anchor layout) position) (found : tokens[position + 1]? = next)
    (stops : Slot.add.Stops layout delay spin next stop) :
    (counter lines markers delay spin).outcome = .error stop := by
  subst found
  have earlier : ∀ other : Slot, other.number < Slot.add.number →
      ∃ token, tokens[position + other.number]? = some token ∧
        other.Holds layout delay spin token := by
    intro other lower
    have positive : 0 < other.number := by cases other <;> decide
    exact absurd (Nat.le_of_lt_succ lower) (Nat.not_le_of_lt positive)
  exact CounterVerdict.outcome_eq (.stops method first earlier stops)

theorem counter_answered_iff (lines : List Text) (markers : Markers) (delay : Nat) (spin : Hint) :
    Answered (counter lines markers delay spin).outcome ↔ ¬ AddsOverlong lines markers := by
  constructor
  · intro answered overlong
    obtain ⟨tokens, position, token, method, first, found, long⟩ := overlong
    exact answered _ (counter_outcome_of_add method first found
      (.oversized (unread_none_iff.mpr ⟨rfl, long⟩)))
  · intro absent refusal refused
    obtain ⟨verdict, decided⟩ := exists_counterVerdict lines markers delay spin
    rw [decided.outcome_eq] at refused
    subst refused
    cases decided with
    | @stops layout tokens position slot _ method first earlier stops =>
      obtain ⟨rfl, _, token, found, unread⟩ := stops.exists_unread
      obtain ⟨rfl, long⟩ := unread_none_iff.mp unread
      exact absent ⟨tokens, position, token, method, first, found, long⟩

/-- What follows the first reading of the counter and is no addition of the delay is reported as a
mismatch of slot 1, unless it is such an instruction. -/
theorem counter_mismatch_iff (method : MethodTokens lines markers layout tokens)
    (first : FirstAt tokens (anchor layout) position) (found : tokens[position + 1]? = some token)
    (differs : ¬ Adds layout token delay) :
    (∃ cause, (counter lines markers delay spin).outcome =
        .error (.fault (Slot.add.mismatch delay spin token) cause)) ↔
      ¬ (layout = .mnemonic ∧ IsOverlong token) := by
  rw [← unread_none_iff]
  constructor
  · intro reported unread
    obtain ⟨cause, outcome⟩ := reported
    rw [counter_outcome_of_add method first found (.oversized unread)] at outcome
    cases outcome
  · intro read
    by_cases malformed : ∃ cause, Unread layout token (some cause)
    · obtain ⟨cause, unread⟩ := malformed
      exact ⟨_, counter_outcome_of_add method first found (.malformed unread)⟩
    · have stops : Slot.add.Stops layout delay spin (some token)
          (.fault (Slot.add.mismatch delay spin token) none) := by
        refine .differs differs fun _ cause => ?_
        cases cause with
        | none => exact read
        | some cause => exact fun unread => malformed ⟨cause, unread⟩
      exact ⟨none, counter_outcome_of_add method first found stops⟩

/-! ### Both checks -/

variable {expectation : Expectation}

/-- The instruction stands where the check of the expectation reads it. -/
def MeetsOverlong (lines : List Text) (markers : Markers) : Expectation → Prop
  | .repeated .. => False
  | .counter .. => AddsOverlong lines markers

theorem verify_writable (small : IsSmall lines) (short : expectation.HasShortCount)
    (markers : Markers) : (verify lines markers (.expectation expectation)).Writable := by
  have layoutWritable : (layoutOf lines markers expectation).Writable := by
    cases expectation with
    | repeated hint count => exact repeated_writable small short markers hint
    | counter delay spin fits => exact counter_writable small markers delay spin
  refine Run.writable_bind layoutWritable fun layout _ => ?_
  refine Run.writable_bind (Run.writable_note (Note.isWritable_verdict layout _)) fun _ _ => ?_
  exact Run.writable_pure _

theorem verify_outcome_eq_error_iff {stop : Stop} :
    (verify lines markers (.expectation expectation)).outcome = .error stop ↔
      (layoutOf lines markers expectation).outcome = .error stop := by
  simp only [verify, meets, Run.outcome_bind, Run.outcome_note, Run.outcome_pure]
  cases (layoutOf lines markers expectation).outcome <;> simp

/-- The row of its table that a fault of the check stands in. -/
inductive FaultRow (lines : List Text) (markers : Markers) : Expectation → Fault → Prop
  | repeated {hint : Hint} {count : Nat} {fault : Fault}
      (row : RepeatedVerdict lines markers hint count (.error fault)) :
      FaultRow lines markers (.repeated hint count) fault
  | counter {delay : Nat} {spin : Hint} {fits : delay ≤ AddImmediate.maxDelay} {fault : Fault}
      {cause : Option Fault}
      (row : CounterVerdict lines markers delay spin (.error (.fault fault cause))) :
      FaultRow lines markers (.counter delay spin fits) fault

theorem faultRow_of_verify {fault : Fault} {cause : Option Fault}
    (failed : (verify lines markers (.expectation expectation)).outcome =
      .error (.fault fault cause)) : FaultRow lines markers expectation fault := by
  rw [verify_outcome_eq_error_iff] at failed
  cases expectation with
  | repeated hint count =>
    obtain ⟨verdict, decided⟩ := exists_repeatedVerdict lines markers hint count
    change (repeated lines markers hint count).outcome = _ at failed
    rw [decided.outcome_eq] at failed
    cases verdict with
    | ok layout => cases failed
    | error raised =>
      have raises : (raised.raise : Except Stop Layout) = .error (.fault fault cause) := failed
      obtain rfl := Fault.eq_of_raise raises
      exact .repeated decided
  | counter delay spin fits =>
    obtain ⟨verdict, decided⟩ := exists_counterVerdict lines markers delay spin
    change (counter lines markers delay spin).outcome = _ at failed
    rw [decided.outcome_eq] at failed
    subst failed
    exact .counter decided

/-- A fault with which the check ends is one of the log. -/
theorem verify_ofLog {fault : Fault} {cause : Option Fault}
    (failed : (verify lines markers (.expectation expectation)).outcome =
      .error (.fault fault cause)) : fault.OfLog := by
  cases faultRow_of_verify failed with
  | repeated row => exact row.ofLog
  | counter row => exact row.ofLog

theorem verify_answered_iff (small : IsSmall lines) (short : expectation.HasShortCount)
    (markers : Markers) (trace : Option Trace) :
    Answered ((verify lines markers (.expectation expectation)).outcomeWith trace) ↔
      ¬ MeetsOverlong lines markers expectation := by
  rw [Run.outcomeWith_eq (verify_writable small short markers)]
  simp only [Answered, ne_eq, verify_outcome_eq_error_iff]
  cases expectation with
  | repeated hint count =>
    exact iff_of_true (repeated_answered small short markers hint) not_false
  | counter delay spin fits => exact counter_answered_iff lines markers delay spin

end Check

end SpinWait
