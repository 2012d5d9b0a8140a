import SpinWait.Proofs.Check.CallLog
import SpinWait.Proofs.Check.Loop

namespace SpinWait

/-! What stands outside the lines of the method has no part in how a check ends. Only the positions
that a fault quotes move with them. -/

/-- The fault with its position moved. Of the faults of a log only a missing marker has one. -/
def Fault.shifted (offset : Int) : Fault → Fault
  | .markerNotFound name text (.number start) => .markerNotFound name text (.number (start + offset))
  | fault => fault

theorem Fault.shifted_shifted (first second : Int) (fault : Fault) :
    (fault.shifted first).shifted second = fault.shifted (first + second) := by
  cases fault with
  | markerNotFound name text start => cases start <;> simp [shifted, Int.add_assoc]
  | _ => rfl

namespace Check

open Log

variable {inside front rest lines : List Text} {markers : Markers} {hint : Hint}
  {header call count : Nat}

/-! ### Hints before a call -/

theorem shifted_markerMissing (name : String) (marker : Text) (offset start : Nat) :
    (markerMissing name marker start).shifted offset =
      markerMissing name marker (offset + start) := by
  simp [markerMissing, Fault.shifted, Int.add_comm]

/-- The only header, and behind it the only call site, with two more lines behind that. -/
structure CallRegion (lines : List Text) (markers : Markers) (header call : Nat) : Prop where
  headed : OnlyAt lines markers.header header
  called : OnlyAt lines markers.callSite call
  later : header < call
  reached : call + 2 < lines.length

/-- The line mentions neither of the two markers. -/
def Unmarked (markers : Markers) (line : Text) : Prop :=
  ¬ markers.header <:+: line ∧ ¬ markers.callSite <:+: line

theorem CallRegion.surrounded (region : CallRegion inside markers header call)
    (unmarked : ∀ line ∈ front ++ rest, Unmarked markers line) :
    CallRegion (front ++ inside ++ rest) markers (front.length + header) (front.length + call) where
  headed := region.headed.surrounded fun line member => (unmarked line member).1
  called := region.called.surrounded fun line member => (unmarked line member).2
  later := Nat.add_lt_add_left region.later _
  reached := by
    have := region.reached
    simp only [List.length_append]
    omega

/-- Between other lines the table answers the same, in the position of the lines. -/
theorem ApproachVerdict.surrounded {verdict : Except Fault Approach}
    (decided : ApproachVerdict inside markers verdict)
    (region : CallRegion inside markers header call)
    (unmarked : ∀ line ∈ front ++ rest, Unmarked markers line) :
    ApproachVerdict (front ++ inside ++ rest) markers
      (verdict.mapError (Fault.shifted front.length)) := by
  obtain ⟨headed, called, later, _⟩ := region.surrounded unmarked
  have reached := region.reached
  have frame : MentionedAt (front ++ inside ++ rest) markers.callSiteFrame
      (front.length + call + 1) ↔ MentionedAt inside markers.callSiteFrame (call + 1) := by
    rw [Nat.add_assoc, mentionedAt_surrounded (by omega)]
  have behind : (front ++ inside ++ rest)[front.length + call + 2]? = inside[call + 2]? := by
    rw [Nat.add_assoc, getElem?_surrounded (by omega)]
  have bars : ShowsBar (front ++ inside ++ rest) (front.length + header) (front.length + call) ↔
      ShowsBar inside header call := by
    rw [ShowsBar, Nat.add_assoc, Nat.add_assoc, between_surrounded (by omega), ShowsBar]
  have tokens (layout : Layout) : bodyTokens layout (front ++ inside ++ rest)
      (front.length + header) (front.length + call) = bodyTokens layout inside header call := by
    rw [bodyTokens, Nat.add_assoc, between_surrounded (by omega), bodyTokens]
  -- Both markers are where the region has them, so the rows that miss one do not apply.
  cases decided with
  | headerMissing absent => exact absurd region.headed.mentionedAt (absent header)
  | headerRepeated several => exact absurd region.headed.countMentions_eq_one (by omega)
  | callMissing other absent =>
    obtain rfl := (region.headed _).mp other.mentionedAt
    exact absurd region.called.mentionedAt (absent call region.later)
  | callRepeated _ _ _ several => exact absurd region.called.countMentions_eq_one (by omega)
  | frameMissing otherHeaded _ otherCalled absent =>
    obtain rfl := (region.headed _).mp otherHeaded.mentionedAt
    obtain rfl := (region.called _).mp otherCalled.mentionedAt
    rw [Except.mapError, shifted_markerMissing, ← Nat.add_assoc]
    exact .frameMissing headed later called (frame.not.mpr absent)
  | instructionsMissing otherHeaded _ otherCalled framed bar absent =>
    obtain rfl := (region.headed _).mp otherHeaded.mentionedAt
    obtain rfl := (region.called _).mp otherCalled.mentionedAt
    rw [Except.mapError, shifted_markerMissing, ← Nat.add_assoc]
    exact .instructionsMissing headed later called (frame.mpr framed) (bars.mpr bar)
      (behind ▸ absent)
  | amongWords otherHeaded _ otherCalled framed bar next instructions =>
    obtain rfl := (region.headed _).mp otherHeaded.mentionedAt
    obtain rfl := (region.called _).mp otherCalled.mentionedAt
    rw [Except.mapError, ← tokens]
    exact .amongWords headed later called (frame.mpr framed) (bars.mpr bar) (behind.trans next)
      instructions
  | amongMnemonics otherHeaded _ otherCalled framed plain here =>
    obtain rfl := (region.headed _).mp otherHeaded.mentionedAt
    obtain rfl := (region.called _).mp otherCalled.mentionedAt
    rw [Except.mapError, ← tokens]
    refine .amongMnemonics headed later called (frame.mpr framed) (bars.not.mpr plain) ?_
    rwa [getElem?_surrounded (by omega)]

theorem RepeatedVerdict.surrounded {verdict : Except Fault Layout}
    (decided : RepeatedVerdict inside markers hint count verdict)
    (region : CallRegion inside markers header call)
    (unmarked : ∀ line ∈ front ++ rest, Unmarked markers line) :
    RepeatedVerdict (front ++ inside ++ rest) markers hint count
      (verdict.mapError (Fault.shifted front.length)) := by
  cases decided with
  | unread unread => exact .unread (unread.surrounded region unmarked)
  | miscounted read run differs => exact .miscounted (read.surrounded region unmarked) run differs
  | counted read run => exact .counted (read.surrounded region unmarked) run

/-- The lines from the header to the second one behind the call site are such a region themselves. -/
theorem CallRegion.between (region : CallRegion lines markers header call) :
    CallRegion (between lines header (call + 3)) markers 0 (call - header) where
  headed := by
    have here := region.headed.between (Nat.le_refl header) (show header < call + 3 by
      have := region.later
      omega)
    rwa [Nat.sub_self] at here
  called := region.called.between (Nat.le_of_lt region.later) (by omega)
  later := Nat.sub_pos_of_lt region.later
  reached := by
    have := region.reached
    have := region.later
    rw [length_between (by omega)]
    omega

theorem CallRegion.unmarked (region : CallRegion lines markers header call) :
    ∀ line ∈ lines.take header ++ lines.drop (call + 3), Unmarked markers line := by
  have later := region.later
  intro line member
  exact ⟨region.headed.unmentioned (Nat.le_refl header) (by omega) line member,
    region.called.unmentioned (Nat.le_of_lt later) (by omega) line member⟩

/-- With other lines before the header and behind the second line after the call site, the table
answers as before, but for the position. -/
theorem CallRegion.exists_verdict (region : CallRegion lines markers header call)
    (unmarked : ∀ line ∈ front ++ rest, Unmarked markers line) (hint : Hint) (count : Nat) :
    ∃ verdict, RepeatedVerdict lines markers hint count verdict ∧
      RepeatedVerdict (front ++ Log.between lines header (call + 3) ++ rest) markers hint count
        (verdict.mapError (Fault.shifted (front.length - header))) := by
  have later := region.later
  have reached := region.reached
  obtain ⟨inner, decided⟩ :=
    exists_repeatedVerdict (Log.between lines header (call + 3)) markers hint count
  have here := decided.surrounded region.between region.unmarked
  rw [take_between_drop lines (by omega), List.length_take_of_le (by omega)] at here
  have moved : (inner.mapError (Fault.shifted header)).mapError
      (Fault.shifted (front.length - header)) = inner.mapError (Fault.shifted front.length) := by
    cases inner with
    | ok layout => rfl
    | error fault => simp [Except.mapError, Fault.shifted_shifted]
  exact ⟨_, here, moved ▸ decided.surrounded region.between unmarked⟩

/-! ### Both checks -/

/-- The lines around a call, and those around a method, can be exchanged for others. Then the hints
before the call are counted as before, and the loop in the method is recognised as before. A fault
of the count may quote a position, which moves with the header. -/
theorem outcome_of_exchanged (markers : Markers) :
    (∀ lines header call before behind, CallRegion lines markers header call →
      (∀ line ∈ before ++ behind, Unmarked markers line) → ∀ hint count,
      ∃ verdict, RepeatedVerdict lines markers hint count verdict ∧
        (repeated lines markers hint count).outcome = verdict.mapError (·.stop none) ∧
        (repeated (before ++ between lines header (call + 3) ++ behind) markers hint count).outcome =
          (verdict.mapError (Fault.shifted (before.length - header))).mapError (·.stop none)) ∧
      ∀ lines start stop before behind, MethodAt lines markers start stop →
        (∀ line ∈ before, ¬ markers.qualifiedName <:+: line) → ∀ delay spin,
        (counter (before ++ between lines start (stop + 1) ++ behind) markers delay spin).outcome =
          (counter lines markers delay spin).outcome := by
  constructor
  · intro lines header call before behind region unmarked hint count
    obtain ⟨verdict, here, there⟩ := region.exists_verdict unmarked hint count
    exact ⟨verdict, here, here.outcome_eq, there.outcome_eq⟩
  · intro lines start stop before behind method unnamed delay spin
    exact counter_outcome_congr (.of_body method.methodBody) (.of_body (method.surrounded unnamed))

/-- Two hints among mnemonics, and a line behind the frame. -/
def pairLog : CallLog :=
  .sample ["0x1: nop".toList] ("0x5: nop ;".toList ++ Markers.default.callSite) ["0x9: ret".toList]

/-- A method that ends before the log does. -/
def endedMethod : List Text :=
  [Markers.default.header, "0x1: nop".toList, "[/Disassembly]".toList, "0x5: isb".toList]

/-- Hints as words, before the method and behind it. -/
def strayWords : List Text := ["0xf0: 1f20 03d5 | 1f20 03d5".toList]

theorem pairLog_exchanged :
    CallRegion pairLog.lines Markers.default pairLog.headerIndex pairLog.callIndex ∧
      (∀ line ∈ strayWords ++ strayWords, Unmarked Markers.default line) ∧
      (∀ hint count, ∃ verdict, RepeatedVerdict pairLog.lines Markers.default hint count verdict ∧
        (repeated pairLog.lines Markers.default hint count).outcome =
          verdict.mapError (·.stop none) ∧
        (repeated (strayWords ++ between pairLog.lines pairLog.headerIndex (pairLog.callIndex + 3) ++
            strayWords) Markers.default hint count).outcome =
          (verdict.mapError (Fault.shifted (strayWords.length - pairLog.headerIndex))).mapError
            (·.stop none)) ∧
      MethodAt endedMethod Markers.default 0 2 ∧
      ∀ delay spin, (counter (strayWords ++ between endedMethod 0 3 ++ strayWords)
          Markers.default delay spin).outcome =
        (counter endedMethod Markers.default delay spin).outcome := by
  have marked : pairLog.Marked Markers.default :=
    CallLog.sample_marked (List.suffix_append _ _).isInfix (by decide +kernel) (by decide +kernel)
  have shown := marked.callAt
  have region : CallRegion pairLog.lines Markers.default pairLog.headerIndex pairLog.callIndex :=
    ⟨shown.headed, shown.called, shown.later, by decide⟩
  have unmarked : ∀ line ∈ strayWords ++ strayWords, Unmarked Markers.default line := by
    unfold Unmarked
    decide +kernel
  have method : MethodAt endedMethod Markers.default 0 2 :=
    ⟨⟨_, rfl, by decide +kernel⟩, nofun, by decide, by decide +kernel, _, rfl, by decide +kernel⟩
  have unnamed : ∀ line ∈ strayWords, ¬ Markers.default.qualifiedName <:+: line := by
    decide +kernel
  obtain ⟨counts, loops⟩ := outcome_of_exchanged Markers.default
  exact ⟨region, unmarked, counts _ _ _ _ _ region unmarked, method,
    loops _ _ _ _ _ method unnamed⟩

end Check

end SpinWait
