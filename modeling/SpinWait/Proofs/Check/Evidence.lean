import SpinWait.Proofs.Check.Answer
import SpinWait.Proofs.Log.Surroundings

namespace SpinWait.Check

open Log

/-! What stands in a log that passes: the line that names the method, and behind it the instructions
that were asked for. -/

variable {lines tokens : List Text} {markers : Markers} {layout : Layout} {header call start : Nat}
  {line : Text}

/-- Lines behind this position show these instructions. -/
def ShownBehind (lines : List Text) (index : Nat) (layout : Layout) (tokens : List Text) : Prop :=
  ∃ shown, List.Sublist shown (lines.drop (index + 1)) ∧ tokenizeAll layout shown = tokens

/-- The instructions before a call are those behind the only line with the text of the header. A loop
stands behind the first line that names the holder class, which need not be the header. -/
inductive Evidence (lines : List Text) (header holder : Text) : Expectation → Prop
  | counted {hint : Hint} {count index : Nat} {layout : Layout} {tokens : List Text}
      (headed : OnlyAt lines header index) (behind : ShownBehind lines index layout tokens)
      (run : LastRun tokens (hintToken hint layout) count) :
      Evidence lines header holder (.repeated hint count)
  | looped {delay start position : Nat} {spin : Hint} {fits : delay ≤ AddImmediate.maxDelay}
      {layout : Layout} {tokens : List Text}
      (named : MentionedAt lines holder start)
      (first : ∀ earlier < start, ¬ MentionedAt lines holder earlier)
      (behind : ShownBehind lines start layout tokens)
      (opens : FirstAt tokens (anchor layout) position)
      (all : ∀ slot : Slot, ∃ token, tokens[position + slot.number]? = some token ∧
        slot.Holds layout delay spin token) :
      Evidence lines header holder (.counter delay spin fits)

theorem mem_drop_of_getElem? {offset : Nat} (found : lines[call + offset]? = some line) :
    line ∈ lines.drop call := by
  rw [← List.getElem?_drop] at found
  exact List.mem_of_getElem? found

/-- Instruction lines between header and call, and one more line from the call on. -/
theorem shownBehind_bodyTokens (layout : Layout) (later : header < call)
    (member : line ∈ lines.drop call) :
    ShownBehind lines header layout
      (bodyTokens layout lines header call ++ tokenize layout line) := by
  refine ⟨(between lines (header + 1) call).filter isInstructionLine ++ [line], ?_, ?_⟩
  · rw [← between_append_drop lines later]
    exact List.filter_sublist.append (List.singleton_sublist.mpr member)
  · rw [bodyTokens, tokenizeAll, List.flatMap_append, List.flatMap_singleton, tokenizeAll]

theorem ApproachVerdict.shownBehind {approach : Approach}
    (read : ApproachVerdict lines markers (.ok approach)) :
    ∃ header, OnlyAt lines markers.header header ∧
      ShownBehind lines header approach.layout approach.tokens := by
  cases read with
  | @amongWords header call line headed later called framed bar next instructions =>
    have member : line ∈ lines.drop call := mem_drop_of_getElem? next
    exact ⟨header, headed, shownBehind_bodyTokens .hex later member⟩
  | @amongMnemonics header call line headed later called framed plain here =>
    have member : line ∈ lines.drop call := mem_drop_of_getElem? (show lines[call + 0]? = _ from here)
    exact ⟨header, headed, shownBehind_bodyTokens .mnemonic later member⟩

theorem MethodTokens.shownBehind (method : MethodTokens lines markers layout tokens) :
    ∃ start, MentionedAt lines markers.qualifiedName start ∧
      (∀ earlier < start, ¬ MentionedAt lines markers.qualifiedName earlier) ∧
      ShownBehind lines start layout tokens := by
  cases method with
  | @of_body start body method =>
    obtain ⟨rest, split, _⟩ := method.split
    refine ⟨start, method.opened, method.first, body, ?_, rfl⟩
    rw [split]
    exact List.sublist_append_left body rest

theorem evidence_of_repeated {hint : Hint} {count : Nat}
    (passes : (repeated lines markers hint count).outcome = .ok layout) :
    Evidence lines markers.header markers.qualifiedName (.repeated hint count) := by
  obtain ⟨verdict, decided⟩ := exists_repeatedVerdict lines markers hint count
  rw [decided.outcome_eq] at passes
  cases decided with
  | unread => cases passes
  | miscounted => cases passes
  | counted read run =>
    obtain ⟨header, headed, behind⟩ := read.shownBehind
    exact .counted headed behind run

theorem evidence_of_counter {delay : Nat} {spin : Hint} (fits : delay ≤ AddImmediate.maxDelay)
    (passes : (counter lines markers delay spin).outcome = .ok layout) :
    Evidence lines markers.header markers.qualifiedName (.counter delay spin fits) := by
  obtain ⟨verdict, decided⟩ := exists_counterVerdict lines markers delay spin
  rw [decided.outcome_eq] at passes
  subst passes
  cases decided with
  | passes method opens all =>
    obtain ⟨start, named, first, behind⟩ := method.shownBehind
    exact .looped named first behind opens all

/-- No log passes without what was asked for. -/
theorem evidence_of_verify {expectation : Expectation} {passed : Passed}
    (passes : (verify lines markers (.expectation expectation)).outcome = .ok passed) :
    Evidence lines markers.header markers.qualifiedName expectation := by
  cases ended : (layoutOf lines markers expectation).outcome with
  | error stop =>
    rw [verify_outcome_eq_error_iff.mpr ended] at passes
    cases passes
  | ok layout =>
    cases expectation with
    | repeated hint count => exact evidence_of_repeated ended
    | counter delay spin fits => exact evidence_of_counter fits ended

end SpinWait.Check
