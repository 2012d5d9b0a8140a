import SpinWait.Proofs.Check.TraceAgreement
import SpinWait.Proofs.Log.OneLine
import SpinWait.Proofs.Trace.OneLine

namespace SpinWait

open Text

/-! What a check notes, and what it says of a fault, stands on one line if the lines of the log are
lines. Instructions of the log are noted as they stand there. -/

theorem Hint.isOneLine_name (hint : Hint) : hint.name.IsOneLine := by
  cases hint <;> decide

namespace Check

/-! ### The faults of a check -/

open Log

variable {lines tokens : List Text} {markers : Markers} {layout : Layout} {hint spin : Hint}
  {count delay : Nat} {notes : List Note} {expectation : Expectation} {fault : Fault}

theorem isOneLine_hintToken (hint : Hint) (layout : Layout) : (hintToken hint layout).IsOneLine := by
  cases hint <;> cases layout <;> decide

theorem Slot.isOneLine_expected (slot : Slot) : (slot.expected delay spin).IsOneLine := by
  have start : Text.IsOneLine AddImmediate.mnemonicStart := by decide
  cases slot with
  | add => exact isOneLine_append.mpr ⟨start, Numeral.isOneLine_decimal delay⟩
  | hint => exact spin.isOneLine_name
  | read => exact (by decide : Text.IsOneLine readName)
  | compare => exact (by decide : Text.IsOneLine compareName)
  | branch => exact (by decide : Text.IsOneLine branchName)

theorem ApproachVerdict.isOneLine (decided : ApproachVerdict lines markers (.error fault)) :
    fault.IsOneLine := by
  cases decided with
  | headerMissing => exact Fault.isOneLine_markerNotFound (by decide)
  | headerRepeated => exact Fault.isOneLine_duplicateMarker (by decide)
  | callMissing => exact Fault.isOneLine_markerNotFound (by decide)
  | callRepeated => exact Fault.isOneLine_duplicateMarker (by decide)
  | frameMissing => exact Fault.isOneLine_markerNotFound (by decide)
  | instructionsMissing => exact Fault.isOneLine_markerNotFound (by decide)

theorem RepeatedVerdict.isOneLine
    (decided : RepeatedVerdict lines markers hint count (.error fault)) : fault.IsOneLine := by
  cases decided with
  | unread unread => exact unread.isOneLine
  | miscounted => exact Fault.isOneLine_countMismatch (isOneLine_hintToken _ _)

theorem CounterVerdict.isOneLine {cause : Option Fault}
    (decided : CounterVerdict lines markers delay spin (.error (.fault fault cause))) :
    fault.IsOneLine := by
  cases decided with
  | methodMissing => exact Fault.isOneLine_markerNotFound (by decide)
  | anchorMissing => exact Fault.isOneLine_idiomMismatch (by decide)
  | @stops layout tokens position slot _ method first earlier stops =>
    generalize tokens[position + slot.number]? = found at stops
    cases stops with
    | ended => exact Fault.isOneLine_idiomMismatch slot.isOneLine_expected
    | differs => exact Fault.isOneLine_idiomMismatch slot.isOneLine_expected
    | malformed => exact Fault.isOneLine_idiomMismatch (Slot.isOneLine_expected .add)

theorem isOneLine_of_verify {cause : Option Fault}
    (failed : (verify lines markers (.expectation expectation)).outcome =
      .error (.fault fault cause)) : fault.IsOneLine := by
  cases faultRow_of_verify failed with
  | repeated row => exact row.isOneLine
  | counter row => exact row.isOneLine

/-! ### The notes of a check -/

/-- All that is taken from the log, or looked for in it, is on one line. -/
def TakesOneLine (notes : List Note) : Prop :=
  ∀ note ∈ notes, ∀ text ∈ note.texts, text.IsOneLine

namespace TakesOneLine

theorem nil : TakesOneLine [] := nofun

theorem cons {note : Note} (here : ∀ text ∈ note.texts, text.IsOneLine)
    (later : TakesOneLine notes) : TakesOneLine (note :: notes) :=
  List.forall_mem_cons.mpr ⟨here, later⟩

theorem append {others : List Note} (first : TakesOneLine notes) (later : TakesOneLine others) :
    TakesOneLine (notes ++ others) :=
  List.forall_mem_append.mpr ⟨first, later⟩

end TakesOneLine

theorem takesOneLine_callNotes (header call : Nat) (layout : Layout) :
    TakesOneLine (callNotes header call layout) := by
  have names : Text.IsOneLine "method header".toList ∧ Text.IsOneLine "call site".toList := by
    decide
  exact .cons (List.forall_mem_singleton.mpr names.1)
    (.cons (List.forall_mem_singleton.mpr names.2) (.cons nofun .nil))

theorem ApproachCourse.takesOneLine {verdict : Except Fault Approach}
    (course : ApproachCourse lines markers notes verdict) : TakesOneLine notes := by
  cases course with
  | header => exact .nil
  | callSite =>
    have name : Text.IsOneLine "method header".toList := by decide
    exact .cons (List.forall_mem_singleton.mpr name) .nil
  | behindCall => exact takesOneLine_callNotes _ _ _
  | read => exact takesOneLine_callNotes _ _ _

theorem takesOneLine_countNotes {target : Text} (named : target.IsOneLine) (total found : Nat) :
    TakesOneLine [.tokensCollected total (some target), .runCounted target found count] :=
  .cons (List.forall_mem_singleton.mpr named)
    (.cons (List.forall_mem_singleton.mpr named) .nil)

theorem RepeatedCourse.takesOneLine {outcome : Except Stop Layout}
    (course : RepeatedCourse lines markers hint count notes outcome) : TakesOneLine notes := by
  cases course with
  | unread course => exact course.takesOneLine
  | miscounted course =>
    exact course.takesOneLine.append (takesOneLine_countNotes (isOneLine_hintToken _ _) _ _)
  | counted course =>
    exact course.takesOneLine.append (takesOneLine_countNotes (isOneLine_hintToken _ _) _ _)

theorem takesOneLine_methodNotes (start : Nat) (body : List Text) :
    TakesOneLine (methodNotes start body) := by
  have name : Text.IsOneLine "method".toList := by decide
  exact .cons (List.forall_mem_singleton.mpr name) (.cons nofun (.cons nofun .nil))

theorem takesOneLine_slotNotes (shown : ∀ token ∈ tokens, token.IsOneLine) :
    TakesOneLine (slotNotes tokens) := by
  intro note member text among
  obtain ⟨index, bounded, rfl⟩ := List.mem_mapIdx.mp member
  obtain rfl := List.mem_singleton.mp among
  exact shown _ (List.getElem_mem bounded)

/-- The instructions that are noted are some of those that the lines of the method show. -/
theorem takesOneLine_loopNotes {start position width : Nat} {body : List Text}
    (unbroken : ∀ line ∈ lines, line.IsOneLine) (method : MethodBody lines markers start body) :
    TakesOneLine (methodNotes start body ++
      slotNotes (((shownTokens body).drop position).take width)) := by
  refine (takesOneLine_methodNotes start body).append (takesOneLine_slotNotes fun token member => ?_)
  have shown := List.mem_of_mem_drop (List.mem_of_mem_take member)
  exact isOneLine_of_mem_tokenizeAll (fun line inside => unbroken line (method.mem_lines inside))
    shown

theorem CounterCourse.takesOneLine {outcome : Except Stop Layout}
    (course : CounterCourse lines markers delay spin notes outcome)
    (unbroken : ∀ line ∈ lines, line.IsOneLine) : TakesOneLine notes := by
  cases course with
  | methodMissing => exact .nil
  | anchorMissing method => exact takesOneLine_methodNotes _ _
  | stops method => exact takesOneLine_loopNotes unbroken method
  | passes method => exact takesOneLine_loopNotes unbroken method

theorem LayoutCourse.takesOneLine {outcome : Except Stop Layout}
    (course : LayoutCourse lines markers expectation notes outcome)
    (unbroken : ∀ line ∈ lines, line.IsOneLine) : TakesOneLine notes := by
  cases expectation with
  | repeated hint count => exact RepeatedCourse.takesOneLine course
  | counter delay spin fits => exact CounterCourse.takesOneLine course unbroken

theorem isOneLine_detail (expectation : Expectation) : (detail expectation).IsOneLine := by
  have words : Text.IsOneLine "found ".toList ∧ Text.IsOneLine " x ".toList ∧
      Text.IsOneLine "counter idiom with delay ".toList := by decide
  cases expectation with
  | repeated hint count =>
    unfold detail
    simp only [isOneLine_append, words, Numeral.isOneLine_decimal, Hint.isOneLine_name, and_self]
  | counter delay =>
    unfold detail
    simp only [isOneLine_append, words, Numeral.isOneLine_decimal, and_self]

theorem Course.takesOneLine {outcome : Except Stop Passed}
    (course : Course lines markers expectation notes outcome)
    (unbroken : ∀ line ∈ lines, line.IsOneLine) : TakesOneLine notes := by
  cases course with
  | stopped course => exact course.takesOneLine unbroken
  | passed course =>
    have detailed := List.forall_mem_singleton.mpr (isOneLine_detail expectation)
    exact (course.takesOneLine unbroken).append (.cons detailed .nil)

/-- No note of a check of a text is spread over lines. -/
theorem areOneLine_data_of_mem_verify {note : Note} {text : Text}
    (member : note ∈ (verify text.lines markers (.expectation expectation)).notes) :
    AreOneLine note.data :=
  Note.areOneLine_data ((verify_course text.lines markers expectation).takesOneLine
    isOneLine_of_mem_lines note member)

/-! ### The result -/

theorem isOneLine_detail_of_verify {passed : Passed}
    (succeeded : (verify lines markers (.expectation expectation)).outcome = .ok passed) :
    passed.detail.IsOneLine := by
  have course := verify_course lines markers expectation
  rw [succeeded] at course
  generalize (verify lines markers (.expectation expectation)).notes = notes at course
  cases course with
  | passed => exact isOneLine_detail expectation

end Check

end SpinWait
