import SpinWait.Proofs.CommandLine.Course

namespace SpinWait

open Text

/-! What a run prints: a line for each event that is shown, then its summary. No text of the log or
of the arguments makes a line of its own. -/

/-! ### Lines of events -/

/-- The line begins with the identifier of the event. -/
def Event.ShownBy (event : Event) (line : Text) : Prop :=
  Event.mark <+: event.id ∧ event.id <+: line

/-- The event has an identifier, and is printed on one line. -/
def Event.IsListed (event : Event) : Prop := Event.mark <+: event.id ∧ event.line.IsOneLine

/-- Behind one line for each event stand this many lines, the heading first. -/
def PrintsBlock (events : List Event) (heading : Text) (size : Nat) (output : Text) : Prop :=
  ∃ shown others, output.lines = shown ++ heading :: others ∧
    List.Forall₂ Event.ShownBy events shown ∧ others.length + 1 = size

theorem printsBlock_of_lines {events : List Event} {heading : Text} {others : List Text}
    (listed : ∀ event ∈ events, event.IsListed)
    (unbroken : ∀ line ∈ heading :: others, line.IsOneLine) :
    PrintsBlock events heading (others.length + 1)
      ((events.map Event.line ++ heading :: others).flatMap (· ++ ['\n'])) := by
  refine ⟨events.map Event.line, others, ?_, ?_, rfl⟩
  · -- Each line is whole and ends in a line feed, so the output is cut into just these.
    refine lines_flatMap fun line member => ?_
    rcases List.mem_append.mp member with traced | summed
    · obtain ⟨event, among, rfl⟩ := List.mem_map.mp traced
      exact (listed event among).2
    · exact unbroken line summed
  · rw [List.forall₂_map_right_iff, List.forall₂_same]
    exact fun event member => ⟨(listed event member).1, event.id_prefix_line⟩

namespace CommandLine

variable {arguments : List Text} {options : Options} {answer : LogSource → Except Text Text}
  {events : List Event} {outcome : Outcome} {info : RunInfo} {expectation : Expectation}
  {holder log : Text} {fault : Fault} {cause : Option Fault}

/-! ### Output -/

/-- The run ends with a summary behind the events: six lines and exit code 0 if it passed, seven lines
and another exit code if it failed. -/
inductive Printed (events : List Event) : Outcome → Prop
  | passed {output : Text} (block : PrintsBlock events Check.Passed.heading 6 output) :
      Printed events (.ended 0 output)
  | failed {exitCode : Nat} {output : Text} (nonzero : exitCode ≠ 0)
      (block : PrintsBlock events FailureRecord.heading 7 output) :
      Printed events (.ended exitCode output)

theorem shownEvents_nil (options : Options) : shownEvents options [] = [] := ite_self []

theorem printed_fail {failureType detail subject : Text} (listed : ∀ event ∈ events, event.IsListed)
    (oneLine : (FailureRecord.build info failureType detail subject).IsOneLine) :
    Printed events (fail (.build info failureType detail subject)
      ((events.map Event.line).flatMap (· ++ ['\n']))) := by
  rw [fail_eq, ← List.flatMap_append]
  exact .failed (exitCodeOfName_range failureType).1 (printsBlock_of_lines listed oneLine.block)

theorem printed_failStop (listed : ∀ event ∈ events, event.IsListed) (informed : info.IsOneLine)
    (worded : fault.IsOneLine) (cause : Option Fault) :
    Printed events (failStop info ((events.map Event.line).flatMap (· ++ ['\n']))
      (.fault fault cause)) :=
  printed_fail listed ⟨fault.kind.failureType.isOneLine_name, worded.1, informed, worded.2⟩

/-! ### What the caller gives -/

theorem Setting.isOneLine_number (setting : Setting Int) : setting.number.IsOneLine := by
  cases setting with
  | value n => exact Numeral.isOneLine_signed n
  | nothing => exact (by decide : Text.IsOneLine "[]".toList)

theorem isOneLine_written_of_given {value : Value} (given : Expectation.Given value) :
    value.written.IsOneLine := by
  cases given with
  | absent => exact (by decide : Text.IsOneLine "None".toList)
  | text => exact isOneLine_quoted _
  | number => exact Numeral.isOneLine_signed _

theorem isOneLine_written_instruction (setting : Setting Text) :
    (setting.asValue .text).written.IsOneLine := by
  cases setting with
  | value text => exact isOneLine_quoted text
  | nothing => exact (by decide : Text.IsOneLine "[]".toList)

theorem isOneLine_of_expectationOf
    (stated : expectationOf options = .error (.fault fault cause)) : fault.IsOneLine := by
  cases expectationOf_blamesCaller options fault cause stated with
  | unknownHint => exact Fault.isOneLine_unknownHint (isOneLine_written_instruction _)
  | invalidDelay given => exact Fault.isOneLine_invalidDelay (isOneLine_written_of_given given) _
  | invalidCount given => exact Fault.isOneLine_invalidCount (isOneLine_written_of_given given)

/-- What the system reports on an error: its number, its description, and the path if there is one.
The path is quoted and may hold any characters. -/
inductive SystemReport : Text → Prop
  | unnamed {number : Nat} {description : Text} (described : description.IsOneLine) :
      SystemReport ("[Errno ".toList ++ Nat.toDigits 10 number ++ "] ".toList ++ description)
  | named {number : Nat} {description path : Text} (described : description.IsOneLine) :
      SystemReport ("[Errno ".toList ++ Nat.toDigits 10 number ++ "] ".toList ++ description ++
        ": ".toList ++ path.quoted)

theorem SystemReport.isOneLine {report : Text} (reported : SystemReport report) :
    report.IsOneLine := by
  have words : Text.IsOneLine "[Errno ".toList ∧ Text.IsOneLine "] ".toList ∧
      Text.IsOneLine ": ".toList := by decide
  have digits (number : Nat) : Text.IsOneLine (Nat.toDigits 10 number) :=
    Numeral.isOneLine_decimal number
  cases reported with
  | unnamed described => simp only [isOneLine_append, words, digits, described, and_self]
  | named described =>
    simp only [isOneLine_append, words, digits, described, isOneLine_quoted, and_self]

theorem isOneLine_cannotRead {report : Text} (informed : info.IsOneLine)
    (reported : report.IsOneLine) : (cannotRead info report).IsOneLine := by
  have words : Text.IsOneLine "Cannot read log ".toList ∧ Text.IsOneLine ": ".toList := by decide
  refine ⟨FailureType.internalError.isOneLine_name, isOneLine_nil, informed, ?_⟩
  change Text.IsOneLine ("Cannot read log ".toList ++ info.logPath ++ ": ".toList ++ report)
  simp only [isOneLine_append, words, informed.logPath, reported, and_self]

theorem isOneLine_exitMismatch (options : Options) (informed : info.IsOneLine) :
    (exitMismatch options info).IsOneLine := by
  have subject : Text.IsOneLine "exit_code".toList := by decide
  have words : Text.IsOneLine "Process exited with ".toList ∧
      Text.IsOneLine "; expected ".toList ∧
      Text.IsOneLine ". Output not inspected.".toList := by decide
  refine ⟨FailureType.processExitMismatch.isOneLine_name, subject, informed, ?_⟩
  change Text.IsOneLine ("Process exited with ".toList ++ options.exitCode.number ++
    "; expected ".toList ++ options.expectedExitCode.number ++ ". Output not inspected.".toList)
  simp only [isOneLine_append, words, Setting.isOneLine_number, and_self]

/-! ### The events of a check -/

/-- A check that answers leaves all its notes in the trace, stopped or not. -/
theorem listed_of_checked {checked : Except Stop Check.Passed} {trace : Trace}
    (recorded : (checkOf options expectation holder log).recorded Trace.empty = (checked, trace))
    (answered :
      Answered ((checkOf options expectation holder log).recorded Trace.empty).1) :
    (checkOf options expectation holder log).outcome = checked ∧
      ∀ event ∈ shownEvents options trace.events, event.IsListed := by
  rw [Run.recorded_eq_extended (Run.writable_of_answered answered)] at recorded
  obtain ⟨outcome, rfl⟩ := Prod.mk.inj recorded
  refine ⟨outcome, fun event member => ?_⟩
  obtain ⟨index, bounded, rfl⟩ := List.mem_mapIdx.mp (shownEvents_subset _ _ member)
  refine ⟨Event.mark_prefix_idOf _, Event.isOneLine_line_ofNote _ ?_⟩
  exact Check.areOneLine_data_of_mem_verify (List.getElem_mem bounded)

/-! ### The run -/

/-- If the log is not read, the system reports why. -/
def ErrorReported (options : Options) (answer : LogSource → Except Text Text) : Prop :=
  ∀ source report, LogSource.ofSetting options.logPath = .ok source →
    answer source = .error report → SystemReport report

/-- If the check of the log is reached, it returns or ends with a fault. -/
def LogAnswered (options : Options) (answer : LogSource → Except Text Text) : Prop :=
  ∀ source log, LogSource.ofSetting options.logPath = .ok source →
    answer source = .ok log → ChecksAnswered options log

theorem RunCourse.printed (course : RunCourse options info answer events outcome)
    (informed : info.IsOneLine) (reported : ErrorReported options answer)
    (answered : LogAnswered options answer) (whole : ∀ refusal, outcome ≠ .broken refusal) :
    Printed (shownEvents options events) outcome := by
  cases course with
  | @unstated stop stated =>
    rw [shownEvents_nil]
    cases stop with
    | fault fault cause =>
      exact printed_failStop (List.forall_mem_nil _) informed (isOneLine_of_expectationOf stated) cause
    | refused refusal => exact absurd rfl (whole refusal)
  | @unlocated expectation refusal => exact absurd rfl (whole refusal)
  | unread stated located read =>
    rw [shownEvents_nil]
    exact printed_fail (List.forall_mem_nil _)
      (isOneLine_cannotRead informed (reported _ _ located read).isOneLine)
  | exitDiffers =>
    rw [shownEvents_nil]
    exact printed_fail (List.forall_mem_nil _) (isOneLine_exitMismatch options informed)
  | unheld => exact absurd rfl (whole .missingPart)
  | @stopped expectation source log holder stop trace stated located read agrees held checked =>
    have ended := answered source log located read expectation holder stated agrees held
    obtain ⟨outcome, listed⟩ := listed_of_checked checked ended
    rw [printTrace_eq]
    cases stop with
    | fault fault cause =>
      exact printed_failStop listed informed (Check.isOneLine_of_verify outcome) cause
    | refused refusal => exact absurd rfl (whole refusal)
  | @passed expectation source log holder passed trace stated located read agrees held checked =>
    have ended := answered source log located read expectation holder stated agrees held
    obtain ⟨outcome, listed⟩ := listed_of_checked checked ended
    have detailed := Check.isOneLine_detail_of_verify outcome
    rw [printTrace_eq, Check.Passed.summary_eq, ← List.flatMap_append]
    exact .passed (printsBlock_of_lines listed
      (Check.Passed.isOneLine_block detailed informed log.lines.length))

theorem LogSource.nothing_of_ofSetting {setting : Setting Text} {refusal : Refusal}
    (located : LogSource.ofSetting setting = .error refusal)
    (possible : ∀ path, setting = .value path → '\x00' ∉ path) : setting = .nothing := by
  cases setting with
  | nothing => rfl
  | value path =>
    have absent : path.contains '\x00' = false :=
      Bool.eq_false_iff.mpr fun holds => possible path rfl (List.contains_iff_mem.mp holds)
    simp only [LogSource.ofSetting, absent, Bool.false_eq_true, if_false] at located
    split at located <;> cases located

theorem RunCourse.lacks {refusal : Refusal}
    (course : RunCourse options info answer events (.broken refusal))
    (possible : ∀ path, options.logPath = .value path → '\x00' ∉ path)
    (answered : LogAnswered options answer) : Lacks options answer := by
  generalize ending : Outcome.broken refusal = outcome at course
  cases course with
  | @unstated stop stated =>
    cases stop with
    | fault => cases ending
    | refused other =>
      by_contra whole
      exact expectationOf_answered (fun nothing => whole (.value nothing)) other stated
  | unlocated stated located =>
    exact .logPath stated (LogSource.nothing_of_ofSetting located possible)
  | unread => cases ending
  | exitDiffers => cases ending
  | unheld stated located read agrees nothing => exact .holder stated located read agrees nothing
  | @stopped expectation source log holder stop trace stated located read agrees held checked =>
    have ended := answered source log located read expectation holder stated agrees held
    rw [checked] at ended
    cases stop with
    | fault => cases ending
    | refused other => exact absurd rfl (ended other)
  | passed => cases ending

theorem isOneLine_info {setting : Setting Text}
    (unbroken : ∀ path, setting = .value path → path.IsOneLine) (year : Int) (month day : Nat)
    (random : List UInt8) :
    RunInfo.IsOneLine ⟨runIdOf year month day random, setting.text⟩ := by
  refine ⟨isOneLine_runIdOf year month day random, ?_⟩
  cases setting with
  | value path => exact unbroken path rfl
  | nothing => exact (by decide : Text.IsOneLine "[]".toList)

/-- Whatever the log holds and the options name, the output is one line for each event, as far as
events are to be shown, and the lines of one summary, unless two dashes stand where the run needs a
text. -/
theorem run_printed_iff (parsed : parse arguments = .ok options)
    (possible : ∀ path, options.logPath = .value path → path.IsOneLine ∧ '\x00' ∉ path)
    (reported : ErrorReported options answer) (answered : LogAnswered options answer) (year : Int)
    (month day : Nat) (random : List UInt8) :
    ∃ events,
      RunCourse options ⟨runIdOf year month day random, options.logPath.text⟩ answer events
        (runOn answer arguments (runIdOf year month day random)) ∧
      (Printed (shownEvents options events)
          (runOn answer arguments (runIdOf year month day random)) ↔
        ¬ Lacks options answer) := by
  obtain ⟨events, course⟩ := exists_runCourse parsed answer (runIdOf year month day random)
  have informed := isOneLine_info (fun path given => (possible path given).1) year month day random
  refine ⟨events, course, fun printed lacks => ?_, fun whole => ?_⟩
  · obtain ⟨refusal, broken⟩ := runOn_of_lacks parsed (runIdOf year month day random) lacks
    rw [broken] at printed
    cases printed
  · refine course.printed informed reported answered fun refusal broken => whole ?_
    rw [broken] at course
    exact course.lacks (fun path given => (possible path given).2) answered

/-! ### A run that shows its events -/

def verboseArguments : List Text := nopArguments ++ ["--verbose".toList]

def verboseOptions : Options := { nopOptions with verbose := true }

theorem verboseOptions_logAnswered : LogAnswered verboseOptions readsNop := by
  intro source log located read expectation holder stated agrees held
  obtain rfl : LogSource.file nopPath = source := Except.ok.inj located
  obtain rfl := Except.ok.inj (readsNop_nopPath.symm.trans read)
  rw [checkOf, decodeLog_utf8, Text.lines_unifyNewlines]
  exact nopText_checksAnswered expectation holder stated agrees held

theorem verboseRun_printed :
    ∃ events,
      RunCourse verboseOptions ⟨runIdOf 2026 1 1 [171, 205, 239, 18], nopPath⟩ readsNop
        events (runOn readsNop verboseArguments (runIdOf 2026 1 1 [171, 205, 239, 18])) ∧
      Printed events
        (runOn readsNop verboseArguments (runIdOf 2026 1 1 [171, 205, 239, 18])) := by
  have parsed : parse verboseArguments = .ok verboseOptions := rfl
  have possible : ∀ path, verboseOptions.logPath = .value path →
      path.IsOneLine ∧ '\x00' ∉ path := by
    intro path given
    obtain rfl := Setting.value.inj given
    decide
  have reported : ErrorReported verboseOptions readsNop := by
    intro source report located read
    obtain rfl : LogSource.file nopPath = source := Except.ok.inj located
    exact absurd (readsNop_nopPath.symm.trans read) nofun
  obtain ⟨events, course, printed⟩ := run_printed_iff parsed possible reported
    verboseOptions_logAnswered 2026 1 1 [171, 205, 239, 18]
  have whole : ¬ Lacks verboseOptions readsNop := by
    intro lacks
    cases lacks with
    | value nothing => cases nothing
    | logPath stated nothing => cases nothing
    | holder stated located read agrees nothing => cases nothing
  exact ⟨events, course, printed.mpr whole⟩

/-! ### Two dashes in place of the value -/

def undelayedArguments : List Text :=
  ["--log-path".toList, "-".toList, "--inst".toList, "isb".toList, "--value=--".toList]

/-- The arguments are accepted and the path is a plain one, but the run prints no summary. -/
theorem undelayedRun_not_printed :
    parse undelayedArguments = .ok { nopOptions with
        logPath := .value "-".toList, instruction := .value "isb".toList, value := some .nothing } ∧
      ∀ answer runId, runOn answer undelayedArguments runId = .broken .wrongKind ∧
        ∀ events, ¬ Printed events (runOn answer undelayedArguments runId) :=
  ⟨rfl, fun _ _ => ⟨rfl, nofun⟩⟩

end CommandLine

end SpinWait
