import SpinWait.Proofs.Check.CommentedLines
import SpinWait.Proofs.Check.Course
import SpinWait.Proofs.Trace.Entries

namespace SpinWait.Check

open Log

/-! The trace of a check tells how the check ended: its events are a beginning of one fixed sequence,
and their number decides between a result and the faults. -/

variable {lines : List Text} {markers : Markers} {hint spin : Hint} {count delay : Nat}
  {notes : List Note} {expectation : Expectation}

/-! ### Milestones -/

/-- The kinds of notes that a check takes before its verdict. -/
def milestones : Expectation → List Text
  | .repeated .. => ["MARKER_FOUND".toList, "MARKER_FOUND".toList, "FORMAT_DETECTED".toList,
      "TOKENS_COLLECTED".toList, "RUN_COUNTED".toList]
  | .counter .. => ["MARKER_FOUND".toList, "FORMAT_DETECTED".toList, "TOKENS_COLLECTED".toList] ++
      List.replicate 6 "IDIOM_SLOT_MATCHED".toList

def verdictKind : Text := "VERDICT".toList

/-- How a check ends that has left this many notes. -/
inductive EndsAfter : Expectation → Nat → Except Stop Passed → Prop
  | header {hint : Hint} {count : Nat} {fault : Fault} (about : Concerns "method header" fault) :
      EndsAfter (.repeated hint count) 0 (.error (.fault fault none))
  | callSite {hint : Hint} {count : Nat} {fault : Fault} (about : Concerns "call site" fault) :
      EndsAfter (.repeated hint count) 1 (.error (.fault fault none))
  | behindCall {hint : Hint} {count start : Nat} {name : String} {marker : Text}
      (about : name = "call-site frame" ∨ name = "instructions after call site") :
      EndsAfter (.repeated hint count) 3 (.error (.fault (markerMissing name marker start) none))
  | miscounted {hint : Hint} {count found : Nat} {target : Text} (differs : found ≠ count) :
      EndsAfter (.repeated hint count) 5 (.error (.fault
        (.countMismatch (.text target) (.number found) (.number count)) none))
  | counted {hint : Hint} {count : Nat} {passed : Passed} :
      EndsAfter (.repeated hint count) 6 (.ok passed)
  | method {delay : Nat} {spin : Hint} {fits : delay ≤ AddImmediate.maxDelay} {marker : Text} :
      EndsAfter (.counter delay spin fits) 0
        (.error (.fault (markerMissing "method" marker 0) none))
  | slot {delay number : Nat} {spin : Hint} {fits : delay ≤ AddImmediate.maxDelay}
      {expected actual : Text} {cause : Option Fault} (bounded : number ≤ 5) :
      EndsAfter (.counter delay spin fits) (3 + number) (.error (.fault
        (.idiomMismatch (.number number) (.text expected) (.text actual)) cause))
  | looped {delay : Nat} {spin : Hint} {fits : delay ≤ AddImmediate.maxDelay} {passed : Passed} :
      EndsAfter (.counter delay spin fits) 10 (.ok passed)

/-! ### Both courses -/

/-- The course of the check up to its layout. -/
def LayoutCourse (lines : List Text) (markers : Markers) :
    Expectation → List Note → Except Stop Layout → Prop
  | .repeated hint count => RepeatedCourse lines markers hint count
  | .counter delay spin _ => CounterCourse lines markers delay spin

/-- The verdict is noted with the result. -/
inductive Course (lines : List Text) (markers : Markers) (expectation : Expectation) :
    List Note → Except Stop Passed → Prop
  | stopped {notes : List Note} {stop : Stop}
      (course : LayoutCourse lines markers expectation notes (.error stop)) :
      Course lines markers expectation notes (.error stop)
  | passed {notes : List Note} {layout : Layout}
      (course : LayoutCourse lines markers expectation notes (.ok layout)) :
      Course lines markers expectation (notes ++ [.verdict layout (detail expectation)])
        (.ok ⟨expectation, layout, detail expectation⟩)

theorem layoutOf_course (lines : List Text) (markers : Markers) (expectation : Expectation) :
    LayoutCourse lines markers expectation (layoutOf lines markers expectation).notes
      (layoutOf lines markers expectation).outcome := by
  cases expectation with
  | repeated hint count => exact repeated_course lines markers hint count
  | counter delay spin fits => exact counter_course lines markers delay spin

theorem verify_course (lines : List Text) (markers : Markers) (expectation : Expectation) :
    Course lines markers expectation (verify lines markers (.expectation expectation)).notes
      (verify lines markers (.expectation expectation)).outcome := by
  have course := layoutOf_course lines markers expectation
  cases ended : (layoutOf lines markers expectation).outcome with
  | error stop =>
    rw [ended] at course
    simpa [verify, meets, ended] using Course.stopped course
  | ok layout =>
    rw [ended] at course
    simpa [verify, meets, ended] using Course.passed course

/-! ### Milestones on the way -/

theorem ApproachCourse.kinds {verdict : Except Fault Approach}
    (course : ApproachCourse lines markers notes verdict) :
    notes.map Note.kind <+: milestones (.repeated hint count) := by
  cases course with
  | header => exact List.nil_prefix
  | callSite => exact ⟨_, rfl⟩
  | behindCall => exact ⟨_, rfl⟩
  | read => exact ⟨_, rfl⟩

@[simp] theorem length_slotNotes (tokens : List Text) :
    (slotNotes tokens).length = tokens.length := by
  simp [slotNotes]

theorem map_kind_slotNotes (tokens : List Text) :
    (slotNotes tokens).map Note.kind =
      List.replicate tokens.length "IDIOM_SLOT_MATCHED".toList := by
  rw [List.eq_replicate_iff]
  refine ⟨by rw [List.length_map, length_slotNotes], fun kind member => ?_⟩
  obtain ⟨note, among, rfl⟩ := List.mem_map.mp member
  obtain ⟨index, inside, rfl⟩ := List.mem_mapIdx.mp among
  rfl

/-- With so many instructions behind the position, this many of them are noted. -/
theorem length_take_drop {tokens : List Text} {position width : Nat}
    (reached : position + width ≤ tokens.length) :
    ((tokens.drop position).take width).length = width := by
  rw [List.length_take, List.length_drop]
  omega

theorem map_kind_methodNotes {start position width : Nat} {body tokens : List Text}
    (reached : position + width ≤ tokens.length) :
    (methodNotes start body ++ slotNotes ((tokens.drop position).take width)).map Note.kind =
      ["MARKER_FOUND".toList, "FORMAT_DETECTED".toList, "TOKENS_COLLECTED".toList] ++
        List.replicate width "IDIOM_SLOT_MATCHED".toList := by
  rw [List.map_append, map_kind_slotNotes, length_take_drop reached]
  rfl

theorem LayoutCourse.kinds {outcome : Except Stop Layout}
    (course : LayoutCourse lines markers expectation notes outcome) :
    notes.map Note.kind <+: milestones expectation := by
  cases expectation with
  | repeated hint count =>
    cases course with
    | unread course => exact course.kinds
    | miscounted course =>
      cases course with
      | read => exact ⟨_, rfl⟩
    | counted course =>
      cases course with
      | read => exact ⟨_, rfl⟩
  | counter delay spin fits =>
    cases course with
    | methodMissing => exact List.nil_prefix
    | anchorMissing => exact ⟨_, rfl⟩
    | @stops start position body slot stop method first reached stops =>
      have few : slot.number ≤ 6 := by cases slot <;> decide
      rw [map_kind_methodNotes reached]
      refine (List.prefix_append_right_inj _).mpr (List.prefix_iff_eq_take.mpr ?_)
      rw [List.take_replicate, List.length_replicate, Nat.min_eq_left few]
    | passes method first reached =>
      rw [map_kind_methodNotes reached]
      exact List.prefix_rfl

/-- A layout comes last. -/
theorem LayoutCourse.kinds_eq {layout : Layout}
    (course : LayoutCourse lines markers expectation notes (.ok layout)) :
    notes.map Note.kind = milestones expectation := by
  cases expectation with
  | repeated hint count =>
    cases course with
    | counted course =>
      cases course with
      | read => rfl
  | counter delay spin fits =>
    cases course with
    | passes method first reached => exact map_kind_methodNotes reached

theorem verdictKind_not_mem_milestones (expectation : Expectation) :
    verdictKind ∉ milestones expectation := by
  cases expectation with
  | repeated hint count => exact (by decide : verdictKind ∉ milestones (.repeated .nop 0))
  | counter delay spin fits =>
    exact (by decide : verdictKind ∉ milestones (.counter 0 .nop (Nat.zero_le _)))

theorem Course.kinds {outcome : Except Stop Passed}
    (course : Course lines markers expectation notes outcome) :
    notes.map Note.kind <+: milestones expectation ++ [verdictKind] := by
  cases course with
  | stopped course => exact course.kinds.trans (List.prefix_append _ _)
  | passed course =>
    rw [List.map_append, course.kinds_eq]
    exact List.prefix_rfl

theorem Course.verdictKind_mem_iff {outcome : Except Stop Passed}
    (course : Course lines markers expectation notes outcome) :
    verdictKind ∈ notes.map Note.kind ↔ ∃ passed, outcome = .ok passed := by
  cases course with
  | stopped course =>
    refine iff_of_false (fun member => ?_) (by simp)
    exact verdictKind_not_mem_milestones expectation (course.kinds.subset member)
  | @passed notes layout course =>
    refine iff_of_true ?_ ⟨_, rfl⟩
    have last : Note.verdict layout (detail expectation) ∈
        notes ++ [.verdict layout (detail expectation)] := List.mem_append_right _ (.head _)
    exact List.mem_map_of_mem (f := Note.kind) last

/-! ### How far the check came -/

/-- A fault that is met is put into words. -/
theorem eq_fault_of_answered {α : Type} {fault : Fault} (ofLog : fault.OfLog)
    (answered : Answered (.error (fault.stop none) : Except Stop α)) :
    fault.stop none = .fault fault none := by
  rw [ofLog.stop_eq] at answered ⊢
  cases writable : fault.isWritable with
  | true => rfl
  | false =>
    rw [writable] at answered
    exact absurd rfl (answered .oversized)

theorem Course.endsAfter {outcome : Except Stop Passed}
    (course : Course lines markers expectation notes outcome) (answered : Answered outcome) :
    EndsAfter expectation notes.length outcome := by
  cases course with
  | @passed notes layout course =>
    have length := congrArg List.length course.kinds_eq
    rw [List.length_map] at length
    rw [List.length_append, length]
    cases expectation with
    | repeated hint count => exact .counted
    | counter delay spin fits => exact .looped
  | stopped course =>
    cases expectation with
    | repeated hint count =>
      cases course with
      | unread course =>
        cases course with
        | header unread about =>
          rw [eq_fault_of_answered unread.ofLog answered]
          exact .header about
        | callSite headed unread about =>
          rw [eq_fault_of_answered unread.ofLog answered]
          exact .callSite about
        | behindCall headed called unread about =>
          rw [eq_fault_of_answered unread.ofLog answered]
          exact .behindCall about
      | miscounted course run differs =>
        rw [eq_fault_of_answered .countMismatch answered]
        cases course with
        | read => exact .miscounted differs
    | counter delay spin fits =>
      cases course with
      | methodMissing => exact .method
      | anchorMissing =>
        change EndsAfter _ (3 + 0) _
        exact .slot (Nat.zero_le 5)
      | @stops start position body slot stop method first reached stops =>
        have length : (methodNotes start body ++
            slotNotes (((shownTokens body).drop position).take slot.number)).length =
            3 + slot.number := by
          rw [List.length_append, length_slotNotes, length_take_drop reached]
          rfl
        have few : slot.number ≤ 5 := by cases slot <;> decide
        rw [length]
        generalize (shownTokens body)[position + slot.number]? = found at stops
        cases stops with
        | ended => exact .slot few
        | differs => exact .slot few
        | malformed => exact .slot few
        | oversized => exact absurd rfl (answered .oversized)

/-! ### The trace -/

/-- A check that answers leaves the events of its course in the trace, each with the kind and the data
of its note. Their kinds are a beginning of the milestones and the verdict, their number tells how the
check ended, and the verdict is among them just if it passed. -/
theorem recorded_agrees (lines : List Text) (markers : Markers) (expectation : Expectation)
    (answered : Answered
      ((verify lines markers (.expectation expectation)).recorded Trace.empty).1) :
    ∃ outcome trace notes,
      (verify lines markers (.expectation expectation)).recorded Trace.empty = (outcome, trace) ∧
      trace.events = Event.numbered 0 notes ∧
      List.Forall₂ Note.StoredIn notes trace.events ∧
      Course lines markers expectation notes outcome ∧
      trace.events.map Event.kind <+: milestones expectation ++ [verdictKind] ∧
      EndsAfter expectation trace.events.length outcome ∧
      (verdictKind ∈ trace.events.map Event.kind ↔ ∃ passed, outcome = .ok passed) := by
  have recorded := Run.recorded_eq_extended (Run.writable_of_answered answered) Trace.empty
  have course := verify_course lines markers expectation
  rw [recorded] at answered
  have events : (Trace.empty.extended (verify lines markers (.expectation expectation)).notes).events =
      Event.numbered 0 (verify lines markers (.expectation expectation)).notes := rfl
  refine ⟨_, _, _, recorded, events, ?_, course, ?_, ?_, ?_⟩
  · rw [events]
    exact Event.storedIn_numbered 0 _
  · rw [events, Event.map_kind_numbered]
    exact course.kinds
  · rw [events, Event.length_numbered]
    exact course.endsAfter answered
  · rw [events, Event.map_kind_numbered]
    exact course.verdictKind_mem_iff

/-- Three hints where two are expected: everything up to the count is noted. -/
theorem commentedLog_recorded :
    Answered ((verify commentedLog.lines Markers.default
        (.expectation (.repeated .nop 2))).recorded Trace.empty).1 ∧
      ∃ outcome trace notes,
        (verify commentedLog.lines Markers.default
          (.expectation (.repeated .nop 2))).recorded Trace.empty = (outcome, trace) ∧
        List.Forall₂ Note.StoredIn notes trace.events ∧
        Course commentedLog.lines Markers.default (.repeated .nop 2) notes outcome ∧
        trace.events.map Event.kind = milestones (.repeated .nop 2) ∧
        EndsAfter (.repeated .nop 2) trace.events.length outcome := by
  have small : IsSmall commentedLog.lines := isSmall_of_weight_lt (by decide +kernel)
  have short : Expectation.HasShortCount (.repeated .nop 2) :=
    Numeral.isShort_of_digit (by decide : 2 < 10)
  have answered : Answered ((verify commentedLog.lines Markers.default
      (.expectation (.repeated .nop 2))).recorded Trace.empty).1 :=
    (verify_answered_iff small short Markers.default (some Trace.empty)).mpr not_false
  obtain ⟨outcome, trace, notes, recorded, _, stored, course, _, ended, _⟩ :=
    recorded_agrees commentedLog.lines Markers.default (.repeated .nop 2) answered
  refine ⟨answered, outcome, trace, notes, recorded, stored, course, ?_, ended⟩
  have kinds : ((verify commentedLog.lines Markers.default
      (.expectation (.repeated .nop 2))).recorded Trace.empty).2.events.map Event.kind =
      milestones (.repeated .nop 2) := by
    decide +kernel
  rwa [recorded] at kinds

end SpinWait.Check
