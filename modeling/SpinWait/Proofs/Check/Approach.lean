import SpinWait.Check.Repeated
import SpinWait.Proofs.Check.Outcome
import SpinWait.Proofs.Fault.Wording
import SpinWait.Proofs.Log.LastRun
import SpinWait.Proofs.Log.Size

namespace SpinWait.Check

open Log Numeral

/-! Counting the hints before the call site, as a table of cases. The table speaks of the positions
at which markers stand; nothing in it is searched for. -/

variable {lines : List Text} {markers : Markers}

/-- The fault of a marker that is missing from a line on. -/
def markerMissing (name : String) (marker : Text) (start : Nat) : Fault :=
  .markerNotFound (.text name.toList) (.text marker) (.number start)

/-- The fault of a marker that is not the only one of its kind. -/
def markerRepeated (name : String) (marker : Text) (occurrences : Nat) : Fault :=
  .duplicateMarker (.text name.toList) (.text marker) (.number occurrences)

/-- Some line from behind the header to the one behind the frame shows a bar. -/
def ShowsBar (lines : List Text) (header call : Nat) : Prop :=
  ∃ line ∈ between lines (header + 1) (call + 3), '|' ∈ line

/-- The instructions between header and call site. -/
def bodyTokens (layout : Layout) (lines : List Text) (header call : Nat) : List Text :=
  tokenizeAll layout ((between lines (header + 1) call).filter isInstructionLine)

/-- What the lines before a call show, or the fault that keeps them from being read. The cases
exclude one another, each supposes that the ones above it do not apply. -/
inductive ApproachVerdict (lines : List Text) (markers : Markers) : Except Fault Approach → Prop
  | headerMissing (absent : ∀ index, ¬ MentionedAt lines markers.header index) :
      ApproachVerdict lines markers (.error (markerMissing "method header" markers.header 0))
  | headerRepeated (several : 2 ≤ countMentions lines markers.header) :
      ApproachVerdict lines markers (.error (markerRepeated "method header" markers.header
        (countMentions lines markers.header)))
  | callMissing {header : Nat} (headed : OnlyAt lines markers.header header)
      (absent : ∀ index, header < index → ¬ MentionedAt lines markers.callSite index) :
      ApproachVerdict lines markers
        (.error (markerMissing "call site" markers.callSite (header + 1)))
  | callRepeated {header index : Nat} (headed : OnlyAt lines markers.header header)
      (later : header < index) (called : MentionedAt lines markers.callSite index)
      (several : 2 ≤ countMentions lines markers.callSite) :
      ApproachVerdict lines markers (.error (markerRepeated "call site" markers.callSite
        (countMentions lines markers.callSite)))
  | frameMissing {header call : Nat} (headed : OnlyAt lines markers.header header)
      (later : header < call) (called : OnlyAt lines markers.callSite call)
      (absent : ¬ MentionedAt lines markers.callSiteFrame (call + 1)) :
      ApproachVerdict lines markers
        (.error (markerMissing "call-site frame" markers.callSiteFrame (call + 1)))
  | instructionsMissing {header call : Nat} (headed : OnlyAt lines markers.header header)
      (later : header < call) (called : OnlyAt lines markers.callSite call)
      (framed : MentionedAt lines markers.callSiteFrame (call + 1))
      (bar : ShowsBar lines header call)
      (absent : ∀ line, lines[call + 2]? = some line → isInstructionLine line = false) :
      ApproachVerdict lines markers
        (.error (markerMissing "instructions after call site" "0x".toList (call + 2)))
  | amongWords {header call : Nat} {line : Text} (headed : OnlyAt lines markers.header header)
      (later : header < call) (called : OnlyAt lines markers.callSite call)
      (framed : MentionedAt lines markers.callSiteFrame (call + 1))
      (bar : ShowsBar lines header call)
      (next : lines[call + 2]? = some line) (instructions : isInstructionLine line = true) :
      ApproachVerdict lines markers
        (.ok ⟨.hex, bodyTokens .hex lines header call ++ tokenize .hex line⟩)
  | amongMnemonics {header call : Nat} {line : Text} (headed : OnlyAt lines markers.header header)
      (later : header < call) (called : OnlyAt lines markers.callSite call)
      (framed : MentionedAt lines markers.callSiteFrame (call + 1))
      (plain : ¬ ShowsBar lines header call) (here : lines[call]? = some line) :
      ApproachVerdict lines markers
        (.ok ⟨.mnemonic, bodyTokens .mnemonic lines header call ++ tokenize .mnemonic line⟩)

theorem exists_approachVerdict (lines : List Text) (markers : Markers) :
    ∃ verdict, ApproachVerdict lines markers verdict := by
  rcases mention_cases lines markers.header with absent | ⟨header, headed⟩ | several
  · exact ⟨_, .headerMissing absent⟩
  · by_cases reached : ∃ index, header < index ∧ MentionedAt lines markers.callSite index
    · obtain ⟨index, later, called⟩ := reached
      by_cases several : 2 ≤ countMentions lines markers.callSite
      · exact ⟨_, .callRepeated headed later called several⟩
      · have called := onlyAt_of_countMentions_le_one called (by omega)
        by_cases framed : MentionedAt lines markers.callSiteFrame (index + 1)
        · by_cases bar : ShowsBar lines header index
          · by_cases next : ∃ line, lines[index + 2]? = some line ∧ isInstructionLine line = true
            · obtain ⟨line, next, instructions⟩ := next
              exact ⟨_, .amongWords headed later called framed bar next instructions⟩
            · refine ⟨_, .instructionsMissing headed later called framed bar ?_⟩
              intro line found
              exact Bool.eq_false_iff.mpr fun instructions => next ⟨line, found, instructions⟩
          · obtain ⟨line, here⟩ := called.mentionedAt.getElem?
            exact ⟨_, .amongMnemonics headed later called framed bar here⟩
        · exact ⟨_, .frameMissing headed later called framed⟩
    · exact ⟨_, .callMissing headed fun index later called => reached ⟨index, later, called⟩⟩
  · exact ⟨_, .headerRepeated several⟩

/-- A fault of the table is one of a log. -/
theorem ApproachVerdict.ofLog {fault : Fault}
    (decided : ApproachVerdict lines markers (.error fault)) : fault.OfLog := by
  cases decided with
  | headerMissing => exact .markerNotFound (by decide)
  | headerRepeated => exact .duplicateMarker (by decide)
  | callMissing => exact .markerNotFound (by decide)
  | callRepeated => exact .duplicateMarker (by decide)
  | frameMissing => exact .markerNotFound (by decide)
  | instructionsMissing => exact .markerNotFound (by decide)

/-- What keeps the lines from being read has nothing to do with a count. -/
theorem ApproachVerdict.kind_ne {fault : Fault}
    (decided : ApproachVerdict lines markers (.error fault)) : fault.kind ≠ .countMismatch := by
  cases decided <;> simp [markerMissing, markerRepeated, Fault.kind]

theorem length_bodyTokens_le (layout : Layout) (lines : List Text) (header call : Nat) :
    (bodyTokens layout lines header call).length ≤ weight lines := by
  have shown := length_tokenizeAll_le layout
    ((between lines (header + 1) call).filter isInstructionLine)
  have kept : ((between lines (header + 1) call).filter isInstructionLine).Sublist lines :=
    List.filter_sublist.trans ((List.take_sublist _ _).trans (List.drop_sublist _ _))
  exact Nat.le_trans shown (weight_le_of_sublist kept)

theorem ApproachVerdict.length_tokens_le {approach : Approach}
    (decided : ApproachVerdict lines markers (.ok approach)) :
    approach.tokens.length ≤ 2 * weight lines := by
  cases decided with
  | @amongWords header call line headed later called framed bar next instructions =>
    have body := length_bodyTokens_le .hex lines header call
    have last := length_tokenize_le_weight .hex (List.mem_of_getElem? next)
    rw [List.length_append]
    omega
  | @amongMnemonics header call line headed later called framed plain here =>
    have body := length_bodyTokens_le .mnemonic lines header call
    have last := length_tokenize_le_weight .mnemonic (List.mem_of_getElem? here)
    rw [List.length_append]
    omega

theorem isWritable_markerMissing {name : String} {marker : Text} {start : Nat}
    (short : IsShort start) : (markerMissing name marker start).isWritable = true := by
  simp [markerMissing, Fault.isWritable, Fault.attributes, Value.isWritable, short.isWritable]

theorem isWritable_markerRepeated {name : String} {marker : Text} {occurrences : Nat}
    (short : IsShort occurrences) : (markerRepeated name marker occurrences).isWritable = true := by
  simp [markerRepeated, Fault.isWritable, Fault.attributes, Value.isWritable, short.isWritable]

theorem ApproachVerdict.isWritable {fault : Fault} (small : IsSmall lines)
    (decided : ApproachVerdict lines markers (.error fault)) : fault.isWritable = true := by
  have size := length_le_weight lines
  have counted (marker : Text) : countMentions lines marker ≤ weight lines :=
    Nat.le_trans countMentions_le_length size
  cases decided with
  | headerMissing => exact isWritable_markerMissing (isShort_of_digit (by decide))
  | headerRepeated =>
    have := counted markers.header
    exact isWritable_markerRepeated (small.isShort (by omega))
  | callMissing headed =>
    have := headed.mentionedAt.lt_length
    exact isWritable_markerMissing (small.isShort (by omega))
  | callRepeated =>
    have := counted markers.callSite
    exact isWritable_markerRepeated (small.isShort (by omega))
  | frameMissing headed inside called =>
    have := called.mentionedAt.lt_length
    exact isWritable_markerMissing (small.isShort (by omega))
  | instructionsMissing headed inside called =>
    have := called.mentionedAt.lt_length
    exact isWritable_markerMissing (small.isShort (by omega))

theorem requireFrame_eq_ok {index : Nat}
    (framed : MentionedAt lines markers.callSiteFrame index) :
    requireFrame lines markers index = .ok () := by
  obtain ⟨line, found, mentioned⟩ := framed
  simp [requireFrame, found, Text.mentions_iff.mpr mentioned]

theorem requireFrame_eq_raise {index : Nat}
    (absent : ¬ MentionedAt lines markers.callSiteFrame index) :
    requireFrame lines markers index =
      (markerMissing "call-site frame" markers.callSiteFrame index).raise := by
  cases found : lines[index]? with
  | none => simp [requireFrame, found, markerMissing]
  | some line =>
    have unnamed : ¬ line.mentions markers.callSiteFrame = true :=
      fun mentioned => absent ⟨line, found, Text.mentions_iff.mp mentioned⟩
    simp [requireFrame, found, unnamed, markerMissing]

theorem requireInstructions_eq_raise {index : Nat}
    (absent : ∀ line, lines[index]? = some line → isInstructionLine line = false) :
    requireInstructions lines index =
      (markerMissing "instructions after call site" "0x".toList index).raise := by
  cases found : lines[index]? with
  | none => simp [requireInstructions, found, markerMissing]
  | some line => simp [requireInstructions, found, absent line found, markerMissing]

/-- Once both markers are found, what is left is the frame and the last instructions. -/
theorem approach_outcome_of_called {header call : Nat} {layout : Layout}
    (headed : OnlyAt lines markers.header header) (later : header < call)
    (called : OnlyAt lines markers.callSite call)
    (shown : Layout.detect (between lines (header + 1) (call + 3)) = layout) :
    ∃ line, lines[call]? = some line ∧ (approach lines markers).outcome = (do
      requireFrame lines markers (call + 1)
      let last ← lastTokens lines ⟨call, line⟩ layout
      .ok ⟨layout, bodyTokens layout lines header call ++ last⟩) := by
  obtain ⟨headerLine, _, headerFound⟩ :=
    headed.requireUnique_eq_ok "method header".toList
  have reached : header + 1 ≤ call := later
  obtain ⟨line, here, callFound⟩ := called.requireFrom_eq_ok "call site".toList reached
  have single := checkUnique_eq_ok "call site".toList
    (Nat.le_of_eq called.countMentions_eq_one)
  refine ⟨line, here, ?_⟩
  rw [Int.natCast_add, Int.natCast_one] at callFound
  unfold between at shown
  simp only [approach, Run.outcome_bind, Run.outcome_require, Run.outcome_note, Run.outcome_pure,
    headerFound, callFound, single, shown]
  cases requireFrame lines markers (call + 1) with
  | error stop => rfl
  | ok _ => cases lastTokens lines ⟨call, line⟩ layout <;> rfl

theorem ApproachVerdict.outcome_eq {verdict : Except Fault Approach}
    (decided : ApproachVerdict lines markers verdict) :
    (approach lines markers).outcome = verdict.mapError (·.stop none) := by
  cases decided with
  | headerMissing absent => exact Run.outcome_bind_of_raise (requireUnique_eq_raise_notFound _ absent)
  | headerRepeated several =>
    exact Run.outcome_bind_of_raise (requireUnique_eq_raise_duplicate _ several)
  | callMissing headed absent =>
    obtain ⟨line, _, found⟩ := headed.requireUnique_eq_ok "method header".toList
    refine (Run.outcome_bind_of_ok found).trans ((Run.outcome_bind_of_ok rfl).trans ?_)
    exact Run.outcome_bind_of_raise (requireFrom_eq_raise _ absent)
  | callRepeated headed later called several =>
    obtain ⟨line, _, found⟩ := headed.requireUnique_eq_ok "method header".toList
    obtain ⟨first, lower, present, earliest⟩ := exists_first called (Nat.succ_le_of_lt later)
    obtain ⟨callLine, _, callFound⟩ :=
      requireFrom_eq_ok "call site".toList present lower earliest
    refine (Run.outcome_bind_of_ok found).trans ((Run.outcome_bind_of_ok rfl).trans ?_)
    refine (Run.outcome_bind_of_ok callFound).trans ?_
    exact Run.outcome_bind_of_raise (checkUnique_eq_raise _ several)
  | frameMissing headed later called absent =>
    obtain ⟨line, _, outcome⟩ := approach_outcome_of_called headed later called rfl
    rw [outcome, requireFrame_eq_raise absent]
    rfl
  | instructionsMissing headed later called framed bar absent =>
    obtain ⟨line, _, outcome⟩ := approach_outcome_of_called headed later called (Layout.detect_eq_hex bar)
    rw [outcome, requireFrame_eq_ok framed, lastTokens, requireInstructions_eq_raise absent]
    rfl
  | amongWords headed later called framed bar next instructions =>
    obtain ⟨line, _, outcome⟩ := approach_outcome_of_called headed later called (Layout.detect_eq_hex bar)
    simp only [outcome, requireFrame_eq_ok framed, lastTokens, requireInstructions, next,
      instructions, if_true]
    rfl
  | amongMnemonics headed later called framed plain here =>
    have unbarred := Layout.detect_eq_mnemonic fun line member shown => plain ⟨line, member, shown⟩
    obtain ⟨line, found, outcome⟩ := approach_outcome_of_called headed later called unbarred
    obtain rfl := Option.some.inj (found.symm.trans here)
    rw [outcome, requireFrame_eq_ok framed]
    rfl

/-! ### The count -/

/-- Whether the log shows the expected number of hints before the call site. -/
inductive RepeatedVerdict (lines : List Text) (markers : Markers) (hint : Hint) (count : Nat) :
    Except Fault Layout → Prop
  | unread {fault : Fault} (unread : ApproachVerdict lines markers (.error fault)) :
      RepeatedVerdict lines markers hint count (.error fault)
  | miscounted {approach : Approach} {found : Nat}
      (read : ApproachVerdict lines markers (.ok approach))
      (run : LastRun approach.tokens (hintToken hint approach.layout) found)
      (differs : found ≠ count) :
      RepeatedVerdict lines markers hint count (.error (.countMismatch
        (.text (hintToken hint approach.layout)) (.number found) (.number count)))
  | counted {approach : Approach} (read : ApproachVerdict lines markers (.ok approach))
      (run : LastRun approach.tokens (hintToken hint approach.layout) count) :
      RepeatedVerdict lines markers hint count (.ok approach.layout)

variable {hint : Hint} {count : Nat}

theorem exists_repeatedVerdict (lines : List Text) (markers : Markers) (hint : Hint) (count : Nat) :
    ∃ verdict, RepeatedVerdict lines markers hint count verdict := by
  obtain ⟨verdict, decided⟩ := exists_approachVerdict lines markers
  cases verdict with
  | error fault => exact ⟨_, .unread decided⟩
  | ok approach =>
    have run := lastRun_trailingRun approach.tokens (hintToken hint approach.layout)
    by_cases same : trailingRun approach.tokens (hintToken hint approach.layout) = count
    · exact ⟨_, .counted decided (same ▸ run)⟩
    · exact ⟨_, .miscounted decided run same⟩

theorem RepeatedVerdict.ofLog {fault : Fault}
    (decided : RepeatedVerdict lines markers hint count (.error fault)) : fault.OfLog := by
  cases decided with
  | unread unread => exact unread.ofLog
  | miscounted => exact .countMismatch

theorem RepeatedVerdict.outcome_eq {verdict : Except Fault Layout}
    (decided : RepeatedVerdict lines markers hint count verdict) :
    (repeated lines markers hint count).outcome = verdict.mapError (·.stop none) := by
  cases decided with
  | unread unread =>
    simp [repeated, unread.outcome_eq, Except.mapError]
  | miscounted read run differs =>
    simp [repeated, read.outcome_eq, Except.mapError, countHints, run.eq_trailingRun, differs,
      Fault.raise]
  | counted read run =>
    simp [repeated, read.outcome_eq, Except.mapError, countHints, run.eq_trailingRun]

theorem RepeatedVerdict.isWritable {fault : Fault} (small : IsSmall lines)
    (countShort : IsShort count)
    (decided : RepeatedVerdict lines markers hint count (.error fault)) :
    fault.isWritable = true := by
  cases decided with
  | unread unread => exact unread.isWritable small
  | @miscounted read found decided run =>
    have bound := decided.length_tokens_le
    have shorter := trailingRun_le read.tokens (hintToken hint read.layout)
    rw [run.eq_trailingRun] at shorter
    have foundShort : IsShort found := small.isShort (by omega)
    exact Fault.isWritable_countMismatch.mpr ⟨foundShort, countShort⟩

/-- With short numbers, raising a fault of the table gives that fault. -/
theorem RepeatedVerdict.outcome_eq_fault {verdict : Except Fault Layout} (small : IsSmall lines)
    (countShort : IsShort count) (decided : RepeatedVerdict lines markers hint count verdict) :
    (repeated lines markers hint count).outcome = verdict.mapError (Stop.fault · none) := by
  rw [decided.outcome_eq]
  cases verdict with
  | ok layout => rfl
  | error fault =>
    have writable := decided.isWritable small countShort
    rw [Except.mapError, decided.ofLog.stop_eq, writable]
    rfl

theorem mapError_fault_injective {left right : Except Fault Layout}
    (same : left.mapError (Stop.fault · none) = right.mapError (Stop.fault · none)) :
    left = right := by
  cases left <;> cases right <;> simp [Except.mapError] at same <;> rw [same]

theorem repeated_answered (small : IsSmall lines) (countShort : IsShort count)
    (markers : Markers) (hint : Hint) : Answered (repeated lines markers hint count).outcome := by
  obtain ⟨verdict, decided⟩ := exists_repeatedVerdict lines markers hint count
  rw [decided.outcome_eq_fault small countShort]
  cases verdict with
  | ok layout => exact .ok layout
  | error fault => exact .fault fault none

/-- The check ends as the table says, on every log and for every count. To raise a fault is to put
it into words, which fails for numbers of more than `Numeral.maxDigits` digits; this can only be
the expected count. -/
theorem repeated_outcome_iff (lines : List Text) (markers : Markers) (hint : Hint) (count : Nat) :
    (∀ outcome, (repeated lines markers hint count).outcome = outcome ↔
        ∃ verdict, RepeatedVerdict lines markers hint count verdict ∧
          outcome = verdict.mapError (·.stop none)) ∧
      (IsSmall lines → IsShort count → ∀ verdict,
        (repeated lines markers hint count).outcome = verdict.mapError (Stop.fault · none) ↔
          RepeatedVerdict lines markers hint count verdict) := by
  obtain ⟨found, decided⟩ := exists_repeatedVerdict lines markers hint count
  constructor
  · intro outcome
    constructor
    · intro ended
      exact ⟨found, decided, ended.symm.trans decided.outcome_eq⟩
    · intro stated
      obtain ⟨verdict, decided, rfl⟩ := stated
      exact decided.outcome_eq
  · intro small countShort verdict
    constructor
    · intro ended
      rw [decided.outcome_eq_fault small countShort] at ended
      exact mapError_fault_injective ended ▸ decided
    · intro decided
      exact decided.outcome_eq_fault small countShort

end SpinWait.Check
