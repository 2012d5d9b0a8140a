import SpinWait.Proofs.Fault.Wording
import SpinWait.Proofs.Text.Quoted

namespace SpinWait

/-! Faults that agree are made of the same arguments. Subject and value do not hold all of them: what
they leave out is told by the message. -/

theorem Text.quoted_injective : Function.Injective Text.quoted := by
  intro text other same
  have ends : text.quoted ++ [] = other.quoted ++ [] := by rw [same]
  exact (Text.selfDelimiting_quoted trivial trivial ends).1

namespace Value

variable {a b value : Value}

/-- A text, or a number that is short enough to be written. -/
inductive IsArgument : Value → Prop
  | text (value : Text) : IsArgument (text value)
  | number {value : Int} (short : Numeral.isWritable value = true) : IsArgument (number value)

theorem IsArgument.isWritable (argument : value.IsArgument) : value.isWritable = true := by
  cases argument with
  | text value => rfl
  | number short => rwa [Value.isWritable]

theorem IsArgument.agrees_iff (here : a.IsArgument) (there : b.IsArgument) :
    a.agrees b = true ↔ a = b := by
  cases here <;> cases there <;> simp [agrees]

end Value

namespace Fault

open Value (IsArgument)

variable {kind other : FaultKind} {complete otherComplete : List Value} {fault left right : Fault}

/-- A kind of fault, the arguments that it is declared to take, and the fault that they make. The name
of a marker, a reason and an expected instruction are not empty; numbers are short enough to be
written. -/
inductive Stated : FaultKind → List Value → Fault → Prop
  | markerNotFound {name text : Text} {start : Int} (named : name ≠ [])
      (short : Numeral.isWritable start = true) :
      Stated .markerNotFound [.text name, .text text, .number start]
        (.markerNotFound (.text name) (.text text) (.number start))
  | duplicateMarker {name text : Text} {occurrences : Int} (named : name ≠ [])
      (short : Numeral.isWritable occurrences = true) :
      Stated .duplicateMarker [.text name, .text text, .number occurrences]
        (.duplicateMarker (.text name) (.text text) (.number occurrences))
  | malformedHex {token reason : Text} (explained : reason ≠ []) :
      Stated .malformedHex [.text token, .text reason] (.malformedHex (.text token) (.text reason))
  | invalidDelay {delay : Value} {upper : Int} (given : delay.IsArgument)
      (short : Numeral.isWritable upper = true) :
      Stated .invalidDelay [delay, .number upper] (.invalidDelay delay (.number upper))
  | invalidCount {count : Value} (given : count.IsArgument) :
      Stated .invalidCount [count] (.invalidCount count)
  | unknownHint {name : Value} (given : name.IsArgument) :
      Stated .unknownHint [name] (.unknownHint name)
  | countMismatch {instruction : Text} {found expected : Int}
      (foundShort : Numeral.isWritable found = true)
      (expectedShort : Numeral.isWritable expected = true) :
      Stated .countMismatch [.text instruction, .number found, .number expected]
        (.countMismatch (.text instruction) (.number found) (.number expected))
  | idiomMismatch {slot : Int} {expected actual : Text} (named : expected ≠ [])
      (short : Numeral.isWritable slot = true) :
      Stated .idiomMismatch [.number slot, .text expected, .text actual]
        (.idiomMismatch (.number slot) (.text expected) (.text actual))

/-- The arguments with those that were left out. -/
def completed : FaultKind → List Value → List Value
  | .markerNotFound, [name, text] => [name, text, .number 0]
  | .invalidDelay, [delay] => [delay, .number 4096]
  | _, arguments => arguments

/-! ### Making a fault -/

theorem ofArguments_completed (kind : FaultKind) (arguments : List Value) :
    ofArguments kind (completed kind arguments) = ofArguments kind arguments := by
  unfold completed
  split <;> rfl

theorem Stated.check_eq (stated : Stated kind complete fault) : fault.check = .ok () := by
  cases stated with
  | markerNotFound named short =>
    exact (checkMarker_eq_ok_iff .markerNotFound _ _ _).mpr ⟨named, Numeral.isWritable_iff.mp short⟩
  | duplicateMarker named short =>
    exact (checkMarker_eq_ok_iff .duplicateMarker _ _ _).mpr ⟨named, Numeral.isWritable_iff.mp short⟩
  | malformedHex explained =>
    simp [check, checkNonEmpty, isNonEmptyText, checkWritable, Value.isEmpty, Value.text?,
      Value.areWritable, Value.isWritable, explained, bind, Except.bind]
  | invalidDelay given short =>
    simp [check, checkWritable, Value.areWritable, Value.isWritable, given.isWritable, short]
  | invalidCount given => simp [check, checkWritable, Value.areWritable, given.isWritable]
  | unknownHint given => simp [check, checkWritable, Value.areWritable, given.isWritable]
  | countMismatch foundShort expectedShort =>
    simp [check, checkWritable, checkSubject, Value.text?, Value.areWritable, Value.isWritable,
      foundShort, expectedShort, bind, Except.bind]
  | idiomMismatch named short =>
    simp [check, checkNonEmpty, isNonEmptyText, checkWritable, Value.isEmpty, Value.text?,
      Value.areWritable, Value.isWritable, named, short, bind, Except.bind]

theorem Stated.ofArguments_eq (stated : Stated kind complete fault) :
    ofArguments kind complete = .ok fault := by
  have made : ofArguments kind complete = fault.accepted := by
    cases stated <;> rfl
  rw [made, accepted, stated.check_eq]

theorem Stated.kind_eq (stated : Stated kind complete fault) : fault.kind = kind := by
  cases stated <;> rfl

theorem Stated.unique (here : Stated kind complete left) (there : Stated kind complete right) :
    left = right :=
  Except.ok.inj (here.ofArguments_eq.symm.trans there.ofArguments_eq)

/-! ### Comparing faults -/

theorem Stated.subject_isArgument (stated : Stated kind complete fault) :
    fault.subject.IsArgument := by
  cases stated <;> exact .text _

theorem Stated.value_isArgument (stated : Stated kind complete fault) :
    fault.value.IsArgument := by
  cases stated with
  | markerNotFound => exact .text _
  | duplicateMarker _ short => exact .number short
  | malformedHex => exact .text _
  | invalidDelay given => exact given
  | invalidCount given => exact given
  | unknownHint given => exact given
  | countMismatch foundShort => exact .number foundShort
  | idiomMismatch => exact .text _

theorem Stated.message_eq (stated : Stated kind complete fault) :
    fault.message = .text (kind.name ++ ": ".toList ++ fault.details) := by
  cases stated <;> rfl

theorem Stated.agrees_iff (here : Stated kind complete left)
    (there : Stated other otherComplete right) : left.agrees right = true ↔
      kind = other ∧ left.subject = right.subject ∧ left.value = right.value ∧
        left.message = right.message := by
  have messages : left.message.agrees right.message = true ↔ left.message = right.message := by
    rw [here.message_eq, there.message_eq]
    exact (IsArgument.text _).agrees_iff (.text _)
  rw [agrees, Bool.and_eq_true, Bool.and_eq_true, Bool.and_eq_true, beq_iff_eq, here.kind_eq,
    there.kind_eq, here.subject_isArgument.agrees_iff there.subject_isArgument,
    here.value_isArgument.agrees_iff there.value_isArgument, messages, and_assoc, and_assoc]

/-- In each layout of a message, the parts around what subject and value leave out are those of subject
and value, so that it can be cut out. -/
theorem Stated.arguments_eq (here : Stated kind complete left)
    (there : Stated kind otherComplete right) (subject : left.subject = right.subject)
    (value : left.value = right.value) (details : left.details = right.details) :
    complete = otherComplete := by
  cases here with
  | markerNotFound =>
    cases there with
    | markerNotFound =>
      obtain rfl := Value.text.inj subject
      obtain rfl := Value.text.inj value
      have starts := List.append_cancel_left (List.append_cancel_right details)
      rw [Numeral.signed_injective starts]
  | duplicateMarker =>
    cases there with
    | duplicateMarker =>
      obtain rfl := Value.text.inj subject
      obtain rfl := Value.number.inj value
      have behind := List.append_cancel_right (List.append_cancel_right details)
      have markers := List.append_cancel_left (List.append_cancel_right behind)
      rw [Text.quoted_injective markers]
  | @malformedHex _ reason =>
    cases there with
    | @malformedHex _ otherReason =>
      obtain rfl := Value.text.inj value
      obtain rfl : reason = otherReason :=
        List.append_cancel_left (List.append_cancel_right details)
      rfl
  | @invalidDelay delay =>
    cases there with
    | @invalidDelay otherDelay =>
      obtain rfl : delay = otherDelay := value
      have behind := List.append_cancel_right (List.append_cancel_right details)
      have uppers := List.append_cancel_left (List.append_cancel_right behind)
      rw [Numeral.signed_injective uppers]
  | invalidCount =>
    cases there with
    | invalidCount => exact congrArg ([·]) value
  | unknownHint =>
    cases there with
    | unknownHint => exact congrArg ([·]) value
  | countMismatch =>
    cases there with
    | countMismatch =>
      obtain rfl := Value.text.inj subject
      obtain rfl := Value.number.inj value
      have counts := List.append_cancel_left (List.append_cancel_right details)
      rw [Numeral.signed_injective counts]
  | idiomMismatch =>
    cases there with
    | idiomMismatch =>
      obtain rfl := Value.text.inj subject
      obtain rfl := Value.text.inj value
      have behind := List.append_cancel_right (List.append_cancel_right details)
      have front := List.append_cancel_right (List.append_cancel_right behind)
      have slots := List.append_cancel_left (List.append_cancel_right front)
      rw [Numeral.signed_injective slots]

/-- From such arguments the fault is made, and two faults agree exactly if they are of one kind and made
of the same arguments, a start or an upper bound that is left out being the default one. -/
theorem agrees_iff_same_arguments {arguments others : List Value}
    (here : Stated kind (completed kind arguments) left)
    (there : Stated other (completed other others) right) :
    ofArguments kind arguments = .ok left ∧ ofArguments other others = .ok right ∧
      (left.agrees right = true ↔
        kind = other ∧ completed kind arguments = completed other others) := by
  refine ⟨?_, ?_, ?_⟩
  · rw [← ofArguments_completed, here.ofArguments_eq]
  · rw [← ofArguments_completed, there.ofArguments_eq]
  · rw [here.agrees_iff there]
    constructor
    · rintro ⟨rfl, subject, value, message⟩
      rw [here.message_eq, there.message_eq] at message
      have details := List.append_cancel_left (Value.text.inj message)
      exact ⟨rfl, here.arguments_eq there subject value details⟩
    · rintro ⟨rfl, same⟩
      rw [← same] at there
      obtain rfl := here.unique there
      exact ⟨rfl, rfl, rfl, rfl⟩

/-- A start that is left out is the first line. Of two duplicates, neither subject nor value tell which
text was met twice. -/
theorem duplicates_told_apart :
    (∃ left right, ofArguments .markerNotFound [.text ['m'], .text ['a']] = .ok left ∧
      ofArguments .markerNotFound [.text ['m'], .text ['a'], .number 0] = .ok right ∧
      left.agrees right = true) ∧
    ∃ left right, ofArguments .duplicateMarker [.text ['m'], .text ['a'], .number 2] = .ok left ∧
      ofArguments .duplicateMarker [.text ['m'], .text ['b'], .number 2] = .ok right ∧
      left.subject = right.subject ∧ left.value = right.value ∧ left.agrees right = false := by
  have named : ['m'] ≠ [] := List.cons_ne_nil _ _
  have unplaced : Stated .markerNotFound
      (completed .markerNotFound [.text ['m'], .text ['a']]) _ := .markerNotFound named (by decide)
  have placed : Stated .markerNotFound
      (completed .markerNotFound [.text ['m'], .text ['a'], .number 0]) _ :=
    .markerNotFound named (by decide)
  have here : Stated .duplicateMarker
      (completed .duplicateMarker [.text ['m'], .text ['a'], .number 2]) _ :=
    .duplicateMarker named (by decide)
  have there : Stated .duplicateMarker
      (completed .duplicateMarker [.text ['m'], .text ['b'], .number 2]) _ :=
    .duplicateMarker named (by decide)
  obtain ⟨byDefault, given, same⟩ := agrees_iff_same_arguments unplaced placed
  obtain ⟨first, second, apart⟩ := agrees_iff_same_arguments here there
  refine ⟨⟨_, _, byDefault, given, same.mpr ⟨rfl, rfl⟩⟩, _, _, first, second, rfl, rfl, ?_⟩
  rw [Bool.eq_false_iff, ne_eq, apart]
  simp [completed]

end Fault

end SpinWait
