import SpinWait.CommandLine.Session
import SpinWait.Proofs.Check.Answer
import SpinWait.Proofs.Log.Addition
import SpinWait.Proofs.Report
import SpinWait.Proofs.Text.Lines

namespace SpinWait.CommandLine

/-! How a run ends that has a log to read. -/

variable {arguments : List Text} {options : Options} {source : LogSource}
  {answer : LogSource → Except Text Text} {log runId : Text} {info : RunInfo}
  {expectation : Expectation} {markers : Markers}

/-- The lines that are printed last, by exit code. -/
inductive SummaryOf : Nat → List Text → Prop
  | failed (record : FailureRecord) (failed : record.exitCode ≠ 0) :
      SummaryOf record.exitCode record.block
  | passed (passed : Check.Passed) (info : RunInfo) (lineCount : Nat) :
      SummaryOf 0 (passed.block info lineCount)

/-- The run prints a summary last and leaves with an exit code of at most 4. -/
def EndsWithSummary (outcome : Outcome) : Prop :=
  ∃ exitCode trace summary, outcome = .ended exitCode (trace ++ summary.flatMap (· ++ ['\n'])) ∧
    SummaryOf exitCode summary ∧ exitCode ≤ 4

theorem fail_eq (record : FailureRecord) (trace : Text) :
    fail record trace = .ended record.exitCode (trace ++ record.block.flatMap (· ++ ['\n'])) := by
  rw [fail, FailureRecord.summary_eq]

theorem exitCodeOfName_range (name : Text) :
    FailureType.exitCodeOfName name ≠ 0 ∧ FailureType.exitCodeOfName name ≤ 4 := by
  have registered : ∀ type : FailureType, type.exitCode ≠ 0 ∧ type.exitCode ≤ 4 := by
    intro type
    cases type <;> decide
  unfold FailureType.exitCodeOfName
  split
  · exact registered _
  · exact registered _

theorem fail_endsWithSummary (info : RunInfo) (failureType detail subject trace : Text) :
    EndsWithSummary (fail (.build info failureType detail subject) trace) := by
  obtain ⟨positive, bounded⟩ := exitCodeOfName_range failureType
  exact ⟨_, trace, _, fail_eq _ trace, .failed _ positive, bounded⟩

theorem broken_not_endsWithSummary (refusal : Refusal) : ¬ EndsWithSummary (.broken refusal) := by
  intro ends
  obtain ⟨_, _, _, ended, _⟩ := ends
  cases ended

theorem failStop_endsWithSummary_iff {stop : Stop} {trace : Text} :
    EndsWithSummary (failStop info trace stop) ↔ ∀ refusal, stop ≠ .refused refusal := by
  cases stop with
  | fault fault cause => exact iff_of_true (fail_endsWithSummary _ _ _ _ _) nofun
  | refused refusal =>
    exact iff_of_false (broken_not_endsWithSummary refusal) fun none => none refusal rfl

theorem checkLog_endsWithSummary_iff (fits : log.FitsMemory) (short : expectation.HasShortCount) :
    EndsWithSummary (checkLog options info expectation markers log) ↔
      ¬ Check.MeetsOverlong log.lines markers expectation := by
  have small := fits.isSmall_lines
  have answered := Check.verify_answered_iff small short markers (some Trace.empty)
  rw [← answered]
  simp only [checkLog, Run.outcomeWith]
  cases (Check.verify log.lines markers (.expectation expectation)).recorded Trace.empty with
  | mk outcome trace =>
    cases outcome with
    | error stop =>
      simp only [failStop_endsWithSummary_iff, Answered, ne_eq, Except.error.injEq]
    | ok passed =>
      simp only [passed.summary_eq]
      exact iff_of_true ⟨0, _, _, rfl, .passed passed info _, Nat.zero_le 4⟩ (Answered.ok _)

/-- What keeps a run on a log from its summary: two dashes in place of the value or of the holder,
or an instruction whose immediate is too long to be read. -/
inductive Breaks (options : Options) (log : Text) : Prop
  | value (nothing : options.value = some .nothing)
  | holder {expectation : Expectation} (stated : expectationOf options = .ok expectation)
      (agrees : options.exitCode = options.expectedExitCode) (nothing : options.holder = .nothing)
  | immediate {expectation : Expectation} {markers : Markers}
      (stated : expectationOf options = .ok expectation)
      (agrees : options.exitCode = options.expectedExitCode)
      (named : markersOf options = .ok markers)
      (overlong : Check.MeetsOverlong log.lines markers expectation)

theorem expectationOf_answered (given : options.value ≠ some .nothing) :
    Answered (expectationOf options) := by
  have writable : (options.instruction.asValue .text).isWritable = true := by
    cases options.instruction <;> rfl
  unfold expectationOf
  split
  · exact Expectation.ofInstruction_answered writable none
  · exact Expectation.ofInstruction_answered writable _
  · next nothing => exact absurd nothing given

theorem expectationOf_hasShortCount (stated : expectationOf options = .ok expectation) :
    expectation.HasShortCount := by
  unfold expectationOf at stated
  split at stated
  · exact Expectation.ofInstruction_hasShortCount stated
  · exact Expectation.ofInstruction_hasShortCount stated
  · cases stated

theorem inspect_endsWithSummary_iff (stated : expectationOf options = .ok expectation)
    (fits : log.FitsMemory) :
    EndsWithSummary (inspect options info expectation (.ok log)) ↔ ¬ Breaks options log := by
  have given : options.value ≠ some .nothing := by
    intro nothing
    rw [expectationOf, nothing] at stated
    cases stated
  by_cases agrees : options.exitCode = options.expectedExitCode
  · simp only [inspect, agrees, ne_eq, not_true, if_false]
    cases held : options.holder with
    | nothing =>
      simp only [markersOf, held]
      exact iff_of_false (broken_not_endsWithSummary _)
        fun whole => whole (.holder stated agrees held)
    | value holder =>
      have named : markersOf options = .ok (.forMethod holder options.method.text
          options.signature.text Markers.defaultCallSite) := by
        rw [markersOf, held]
      simp only [named]
      rw [checkLog_endsWithSummary_iff fits (expectationOf_hasShortCount stated)]
      constructor
      · intro short breaks
        cases breaks with
        | value nothing => exact given nothing
        | holder _ _ nothing =>
          rw [held] at nothing
          cases nothing
        | immediate otherStated _ otherNamed overlong =>
          obtain rfl := Except.ok.inj (stated.symm.trans otherStated)
          obtain rfl := Except.ok.inj (named.symm.trans otherNamed)
          exact short overlong
      · intro whole overlong
        exact whole (.immediate stated agrees named overlong)
  · simp only [inspect, agrees, ne_eq, not_false_iff, if_true]
    refine iff_of_true (fail_endsWithSummary _ _ _ _ _) fun breaks => ?_
    cases breaks with
    | value nothing => exact given nothing
    | holder _ same => exact agrees same
    | immediate _ same => exact agrees same

theorem runOn_endsWithSummary_iff (parsed : parse arguments = .ok options)
    (located : LogSource.ofSetting options.logPath = .ok source)
    (read : answer source = .ok log) (fits : log.FitsMemory) :
    EndsWithSummary (runOn answer arguments runId) ↔ ¬ Breaks options log := by
  cases stated : expectationOf options with
  | error stop =>
    simp only [runOn, Session.ofArguments, parsed, Session.ofOptions, stated]
    rw [failStop_endsWithSummary_iff]
    constructor
    · intro answered breaks
      cases breaks with
      | value nothing =>
        rw [expectationOf, nothing] at stated
        obtain rfl := Except.error.inj stated
        exact answered _ rfl
      | holder otherStated =>
        rw [stated] at otherStated
        cases otherStated
      | immediate otherStated =>
        rw [stated] at otherStated
        cases otherStated
    · intro whole refusal refused
      exact expectationOf_answered (fun nothing => whole (.value nothing)) refusal
        (refused ▸ stated)
  | ok expectation =>
    simp only [runOn, Session.ofArguments, parsed, Session.ofOptions, stated, located, read]
    exact inspect_endsWithSummary_iff stated fits

/-- A check of a log, with or without a trace, ends with a result or a fault, unless the addition of
the counter loop has too many digits. A run whose log is read as this text ends with a summary, unless
this holds of its check, or two dashes stand for the value or the holder. Another addition than the
expected one is a mismatch of slot 1, unless it has too many digits. -/
theorem answered_iff_not_overlong (log : Text) (markers : Markers) (trace : Option Trace) :
    (∀ (instruction : Value) (value : Option Text) (expectation : Expectation), log.FitsMemory →
      Expectation.ofInstruction instruction value = .ok expectation →
      (Answered ((Check.verify log.lines markers (.expectation expectation)).outcomeWith trace) ↔
        ¬ Check.MeetsOverlong log.lines markers expectation)) ∧
    (∀ (arguments : List Text) (options : Options) (source : LogSource)
        (answer : LogSource → Except Text Text) (runId : Text), parse arguments = .ok options →
      LogSource.ofSetting options.logPath = .ok source → answer source = .ok log →
      log.FitsMemory →
      (EndsWithSummary (runOn answer arguments runId) ↔ ¬ Breaks options log)) ∧
    (∀ (delay : Nat) (spin : Hint) (fits : delay ≤ AddImmediate.maxDelay) (layout : Log.Layout)
        (tokens : List Text) (position : Nat) (token : Text), log.FitsMemory →
      Check.MethodTokens log.lines markers layout tokens →
      Check.FirstAt tokens (Check.anchor layout) position → tokens[position + 1]? = some token →
      ¬ Check.Adds layout token delay →
      ((∃ cause, (Check.verify log.lines markers
          (.expectation (.counter delay spin fits))).outcomeWith trace =
            .error (.fault (Check.Slot.add.mismatch delay spin token) cause)) ↔
        ¬ (layout = .mnemonic ∧ Check.IsOverlong token))) := by
  refine ⟨?_, ?_, ?_⟩
  · intro instruction value expectation held stated
    exact Check.verify_answered_iff held.isSmall_lines
      (Expectation.ofInstruction_hasShortCount stated) markers trace
  · intro arguments options source answer runId parsed located read held
    exact runOn_endsWithSummary_iff parsed located read held
  · intro delay spin fits layout tokens position token held method first found differs
    have writable := Check.verify_writable held.isSmall_lines
      (show (Expectation.counter delay spin fits).HasShortCount from trivial) markers
    simp only [Run.outcomeWith_eq writable, Check.verify_outcome_eq_error_iff, Check.layoutOf]
    exact Check.counter_mismatch_iff method first found differs

/-! ### A log that is not answered -/

/-- One digit more than is read. -/
def overlongImmediate : AddImmediate.Written :=
  ⟨10, List.replicate (Numeral.maxDigits + 1) 1, false⟩

def overlongBlock : List Text :=
  [Log.addressed [] "1".toList Check.anchorName,
    Log.addressed [] "2".toList (AddImmediate.mnemonic overlongImmediate)]

def overlongLines : List Text := Markers.default.qualifiedName :: overlongBlock

/-- The method with the first two instructions of the loop. -/
def overlongLog : Text := overlongLines.flatMap (· ++ ['\n'])

theorem overlongImmediate_wellFormed : overlongImmediate.WellFormed where
  nonempty := by simp [overlongImmediate]
  small digit member := by
    obtain rfl := List.eq_of_mem_replicate member
    decide
  known := by
    refine .inr ⟨rfl, fun zero => ?_⟩
    cases zero

def overlongChars : Text := "01x: mrs8,cntv_el2".toList ++ Log.additionChars

theorem mem_overlongChars {line : Text} {c : Char} (member : line ∈ overlongBlock)
    (among : c ∈ line) : c ∈ overlongChars := by
  have anchor : ∀ c ∈ Log.addressed [] "1".toList Check.anchorName, c ∈ overlongChars := by decide
  have address : ∀ c ∈ "0x2:".toList, c ∈ overlongChars := by decide
  rcases List.mem_pair.mp member with rfl | rfl
  · exact anchor c among
  · rw [Log.addressed, List.nil_append, List.mem_append, List.mem_cons] at among
    rcases among with first | rfl | last
    · exact address c first
    · decide
    · exact List.mem_append_right _ (Log.mem_additionChars overlongImmediate_wellFormed last)

theorem isPlain_anchorName : Log.IsPlain Check.anchorName :=
  Log.isPlain_of_ends (by decide) (by decide) (by decide) (by decide) (by decide)

theorem isPlain_overlongBlock {line : Text} (member : line ∈ overlongBlock) :
    Log.IsPlain line := by
  have first : Log.IsHexNumeral "1".toList := ⟨by decide, by decide⟩
  have second : Log.IsHexNumeral "2".toList := ⟨by decide, by decide⟩
  rcases List.mem_pair.mp member with rfl | rfl
  · have shown := Log.isAddressText_of_numeral first
    exact (Log.isPlain_of_isAddressText shown).append_blank isPlain_anchorName
  · have shown := Log.isAddressText_of_numeral second
    exact (Log.isPlain_of_isAddressText shown).append_blank
      (Log.isPlain_mnemonic overlongImmediate_wellFormed)

theorem lines_overlongLog : overlongLog.lines = overlongLines := by
  have opening : ∀ c ∈ Markers.default.qualifiedName, Text.isLineBreak c = false := by decide
  have block : ∀ c ∈ overlongChars, Text.isLineBreak c = false := by decide
  refine Text.lines_flatMap fun line member => ?_
  rcases List.mem_cons.mp member with rfl | inside
  · exact opening
  · exact fun c among => block c (mem_overlongChars inside among)

theorem methodTokens_overlongLines : Check.MethodTokens overlongLines Markers.default .mnemonic
    [Check.anchorName, AddImmediate.mnemonic overlongImmediate] := by
  have inside : ∀ line ∈ overlongBlock,
      Log.endsRegion Markers.default.regionEnd line = false := by
    have bracket : ∀ c ∈ overlongChars, c.toLower ≠ '[' := by decide
    have marked : ∀ marker ∈ Markers.default.regionEnd, '[' ∈ marker.lower := by decide
    intro line member
    refine Log.endsRegion_eq_false marked fun among => ?_
    rw [(isPlain_overlongBlock member).normalize_eq] at among
    obtain ⟨c, present, lowered⟩ := List.mem_map.mp among
    exact bracket c (mem_overlongChars member present) lowered
  obtain ⟨reads, unbarred⟩ : Log.ReadsAs Check.anchorName Check.anchorName ∧
      '|' ∉ Check.anchorName := Log.readsAs_of_isInstructionText (by decide)
  have shows : Log.Shows .mnemonic [Check.anchorName, AddImmediate.mnemonic overlongImmediate]
      overlongBlock :=
    .instruction nofun ⟨by decide, by decide⟩ reads unbarred
      (.instruction nofun ⟨by decide, by decide⟩
        (Log.readsAs_mnemonic overlongImmediate_wellFormed)
        (Log.bar_not_mem_mnemonic overlongImmediate_wellFormed) .nil)
  have body : Log.MethodBody ([] ++ Markers.default.qualifiedName :: (overlongBlock ++ []))
      Markers.default 0 overlongBlock := .of_split nofun List.infix_rfl inside nofun
  have method := Check.MethodTokens.of_body body
  rw [shows.detect_eq nofun, shows.tokenizeAll_eq, List.append_nil] at method
  exact method

theorem fourteen_fits : 14 ≤ AddImmediate.maxDelay := by decide

theorem fitsMemory_overlongLog : overlongLog.FitsMemory := by
  have opening : Markers.default.qualifiedName.length ≤ 60 := by decide
  have anchor : (Log.addressed [] "1".toList Check.anchorName).length ≤ 30 := by decide
  have address : ("0x".toList ++ "2".toList ++ [':']).length = 4 := by decide
  have addition := Log.length_mnemonic_le overlongImmediate
  have digits : overlongImmediate.digits.length = 4301 := List.length_replicate
  have length : overlongLog.length ≤ 5000 := by
    simp only [overlongLog, overlongLines, overlongBlock, List.flatMap_cons, List.flatMap_nil,
      List.length_append, List.length_singleton, List.length_nil]
    have last : (Log.addressed [] "2".toList (AddImmediate.mnemonic overlongImmediate)).length =
        5 + (AddImmediate.mnemonic overlongImmediate).length := by
      rw [Log.addressed, List.nil_append, List.length_append, address, List.length_cons]
      omega
    omega
  exact Nat.lt_of_le_of_lt length (by decide)

/-- The counter loop with delay 14 is asked for, and the check of this log has no answer. -/
theorem overlongLog_refused :
    Expectation.ofInstruction (.text Expectation.counterName) (some "14".toList) =
        .ok (.counter 14 .yield fourteen_fits) ∧
      ∀ trace, (Check.verify overlongLog.lines Markers.default
        (.expectation (.counter 14 .yield fourteen_fits))).outcomeWith trace =
          .error (.refused .oversized) := by
  refine ⟨rfl, fun trace => ?_⟩
  have writable := Check.verify_writable fitsMemory_overlongLog.isSmall_lines
    (show (Expectation.counter 14 .yield fourteen_fits).HasShortCount from trivial) Markers.default
  rw [Run.outcomeWith_eq writable, Check.verify_outcome_eq_error_iff, lines_overlongLog]
  have first : Check.FirstAt [Check.anchorName, AddImmediate.mnemonic overlongImmediate]
      (Check.anchor .mnemonic) 0 := ⟨rfl, fun earlier lower => absurd lower (Nat.not_lt_zero _)⟩
  have overlong : Check.IsOverlong (AddImmediate.mnemonic overlongImmediate) := by
    refine ⟨overlongImmediate, overlongImmediate_wellFormed, rfl, ?_, rfl⟩
    simp [overlongImmediate]
  exact Check.counter_outcome_of_add methodTokens_overlongLines first rfl
    (.oversized (Check.unread_none_iff.mpr ⟨rfl, overlong⟩))

end SpinWait.CommandLine
