import Mathlib.Data.List.Basic
import SpinWait.Fault.Acceptance
import SpinWait.Proofs.Text.Numeral

namespace SpinWait

/-! When a fault can be put into words: its message writes out the numbers among its attributes, and
numbers of more than `Numeral.maxDigits` digits are not written. -/

namespace Fault

/-- Every number among the attributes is short enough to be written. -/
def isWritable (fault : Fault) : Bool := fault.attributes.all fun entry => entry.2.isWritable

/-- The faults with which the check of a log ends. Their names are not empty. -/
inductive OfLog : Fault → Prop
  | markerNotFound {name marker : Text} {start : Nat} (named : name ≠ []) :
      OfLog (.markerNotFound (.text name) (.text marker) (.number start))
  | duplicateMarker {name marker : Text} {occurrences : Nat} (named : name ≠ []) :
      OfLog (.duplicateMarker (.text name) (.text marker) (.number occurrences))
  | countMismatch {target : Text} {found expected : Nat} :
      OfLog (.countMismatch (.text target) (.number found) (.number expected))
  | idiomMismatch {slot : Nat} {expected actual : Text} (named : expected ≠ []) :
      OfLog (.idiomMismatch (.number slot) (.text expected) (.text actual))

variable {fault : Fault}

/-- Nothing but a long number keeps such a fault from being made. -/
theorem OfLog.check_eq (ofLog : fault.OfLog) :
    fault.check = if fault.isWritable then .ok () else .error .oversized := by
  cases ofLog with
  | markerNotFound named =>
    simp [check, checkName, checkWritable, isWritable, attributes, Value.isEmpty, Value.text?,
      Value.areWritable, Value.isWritable, named, bind, Except.bind]
  | duplicateMarker named =>
    simp [check, checkName, checkWritable, isWritable, attributes, Value.isEmpty, Value.text?,
      Value.areWritable, Value.isWritable, named, bind, Except.bind]
  | countMismatch =>
    simp only [check, checkWritable, checkSubject, isWritable, attributes, Value.text?,
      Value.areWritable, Value.isWritable, bind, Except.bind, List.all_cons, List.all_nil,
      Bool.true_and]
    split <;> simp_all
  | idiomMismatch named =>
    simp [check, checkNonEmpty, isNonEmptyText, checkWritable, isWritable, attributes,
      Value.isEmpty, Value.text?, Value.areWritable, Value.isWritable, named, bind, Except.bind]

theorem OfLog.stop_eq (ofLog : fault.OfLog) (cause : Option Fault) :
    fault.stop cause = if fault.isWritable then .fault fault cause else .refused .oversized := by
  simp only [stop, accepted, ofLog.check_eq]
  cases fault.isWritable <;> rfl

theorem stop_markerNotFound {name marker : Text} {start : Nat} (digit : start < 10)
    (named : name ≠ []) :
    (markerNotFound (.text name) (.text marker) (.number start)).stop none =
      .fault (.markerNotFound (.text name) (.text marker) (.number start)) none := by
  rw [(OfLog.markerNotFound named).stop_eq]
  simp [isWritable, attributes, Value.isWritable, (Numeral.isShort_of_digit digit).isWritable]

theorem stop_idiomMismatch {slot : Nat} {expected actual : Text} (digit : slot < 10)
    (named : expected ≠ []) (cause : Option Fault) :
    (idiomMismatch (.number slot) (.text expected) (.text actual)).stop cause =
      .fault (.idiomMismatch (.number slot) (.text expected) (.text actual)) cause := by
  rw [(OfLog.idiomMismatch named).stop_eq]
  simp [isWritable, attributes, Value.isWritable, (Numeral.isShort_of_digit digit).isWritable]

theorem stop_malformedHex {token reason : Text} (explained : reason ≠ []) (cause : Option Fault) :
    (malformedHex (.text token) (.text reason)).stop cause =
      .fault (.malformedHex (.text token) (.text reason)) cause := by
  simp [stop, accepted, check, checkNonEmpty, isNonEmptyText, checkWritable, Value.isEmpty,
    Value.text?, Value.areWritable, Value.isWritable, explained, bind, Except.bind]

theorem stop_unknownHint {name : Value} (writable : name.isWritable = true) :
    (unknownHint name).stop none = .fault (.unknownHint name) none := by
  simp [stop, accepted, check, checkWritable, Value.areWritable, writable]

theorem stop_invalidCount {count : Value} (writable : count.isWritable = true) :
    (invalidCount count).stop none = .fault (.invalidCount count) none := by
  simp [stop, accepted, check, checkWritable, Value.areWritable, writable]

theorem stop_invalidDelay {delay upper : Value} (delayWritable : delay.isWritable = true)
    (upperWritable : upper.isWritable = true) :
    (invalidDelay delay upper).stop none = .fault (.invalidDelay delay upper) none := by
  simp [stop, accepted, check, checkWritable, Value.areWritable, delayWritable, upperWritable]

/-- A fault about a marker needs a name for it and a number that is short enough to be written. -/
theorem checkMarker_eq_ok_iff (kind : FaultKind) (name marker : Text) (number : Int) :
    (do checkName kind (.text name); checkWritable [.text marker, .number number]) = .ok () ↔
      name ≠ [] ∧ Numeral.IsShort number.natAbs := by
  have written : Value.areWritable [.text marker, .number number] = Numeral.isWritable number := by
    simp [Value.areWritable, Value.isWritable]
  rw [← Numeral.isWritable_iff, checkWritable, written]
  cases name with
  | nil => simp [checkName, Value.isEmpty, bind, Except.bind]
  | cons c rest =>
    cases Numeral.isWritable number <;>
      simp [checkName, Value.isEmpty, Value.text?, bind, Except.bind]

theorem isWritable_countMismatch {target : Text} {found expected : Nat} :
    (countMismatch (.text target) (.number found) (.number expected)).isWritable = true ↔
      Numeral.IsShort found ∧ Numeral.IsShort expected := by
  simp [isWritable, attributes, Value.isWritable, Numeral.isWritable_natCast]

/-- A fault that is raised and can be put into words is the one that is met. -/
theorem raise_eq_fault {α : Type} {other : Fault} {cause : Option Fault}
    (raised : (fault.raise : Except Stop α) = .error (.fault other cause)) :
    fault.check = .ok () ∧ other = fault ∧ cause = none := by
  unfold raise stop accepted at raised
  cases checked : fault.check with
  | error refusal =>
    rw [checked] at raised
    cases raised
  | ok _ =>
    rw [checked] at raised
    cases raised
    exact ⟨rfl, rfl, rfl⟩

theorem raise_eq_fault_iff {α : Type} {other : Fault} {cause : Option Fault} :
    (fault.raise : Except Stop α) = .error (.fault other cause) ↔
      fault.check = .ok () ∧ other = fault ∧ cause = none := by
  refine ⟨raise_eq_fault, ?_⟩
  rintro ⟨checked, rfl, rfl⟩
  rw [raise, stop, accepted, checked]

theorem eq_of_raise {α : Type} {other : Fault} {cause : Option Fault}
    (raised : (fault.raise : Except Stop α) = .error (.fault other cause)) : other = fault :=
  (raise_eq_fault raised).2.1

theorem OfLog.isWritable_of_check (ofLog : fault.OfLog) (checked : fault.check = .ok ()) :
    fault.isWritable = true := by
  rw [ofLog.check_eq] at checked
  cases writable : fault.isWritable with
  | true => rfl
  | false =>
    rw [writable] at checked
    cases checked

end Fault

theorem exists_of_bind_eq_ok {α β : Type} {outcome : Except Stop α} {next : α → Except Stop β}
    {result : β} (done : outcome >>= next = .ok result) :
    ∃ first, outcome = .ok first ∧ next first = .ok result := by
  cases outcome with
  | error stop => cases done
  | ok first => exact ⟨first, rfl, done⟩

/-- There is a result or a fault. -/
def Answered {α : Type} (outcome : Except Stop α) : Prop :=
  ∀ refusal, outcome ≠ .error (.refused refusal)

namespace Answered

variable {α β : Type}

theorem ok (result : α) : Answered (.ok result) := nofun

theorem fault (fault : Fault) (cause : Option Fault) :
    Answered (.error (.fault fault cause) : Except Stop α) := nofun

theorem bind {outcome : Except Stop α} {next : α → Except Stop β} (first : Answered outcome)
    (later : ∀ result, outcome = .ok result → Answered (next result)) :
    Answered (outcome >>= next) := by
  cases ended : outcome with
  | error stop =>
    intro refusal refused
    obtain rfl := Except.error.inj refused
    exact first refusal ended
  | ok result => exact later result ended

end Answered

end SpinWait
