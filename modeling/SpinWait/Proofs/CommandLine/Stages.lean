import SpinWait.Proofs.CommandLine.Ending
import SpinWait.Proofs.Text.Utf8

namespace SpinWait.CommandLine

/-! The stages of a run on a log, each of which may end it: the expectation is stated, the log is
read, the exit codes are compared, the log is checked. -/

variable {arguments : List Text} {options : Options} {source : LogSource}
  {answer : LogSource → Except Text Text} {log runId report : Text} {info : RunInfo}
  {expectation : Expectation} {holder : Text} {fault : Fault} {cause : Option Fault}
  {checked : Except Stop Check.Passed} {trace : Trace}

/-- A log that is kept in UTF-8 is read as its text, but for the way its line breaks are written. -/
theorem decodeLog_utf8 (log : Text) : decodeLog log.utf8 = log.unifyNewlines := by
  rw [decodeLog, Text.ofUtf8_utf8]

/-! ### The table of stages -/

/-- What a fault of a log is called in the summary, and its exit code: 1 if other instructions are
found than expected, 2 if a marker is missing or repeated. -/
inductive LogFault : FaultKind → Text → Nat → Prop
  | countMismatch : LogFault .countMismatch "INSTRUCTION_COUNT_MISMATCH".toList 1
  | idiomMismatch : LogFault .idiomMismatch "IDIOM_MISMATCH".toList 1
  | markerNotFound : LogFault .markerNotFound "MARKER_NOT_FOUND".toList 2
  | duplicateMarker : LogFault .duplicateMarker "DUPLICATE_MARKER".toList 2

theorem LogFault.ne_zero {kind : FaultKind} {name : Text} {code : Nat}
    (coded : LogFault kind name code) : code ≠ 0 := by
  cases coded <;> decide

/-- Message and subject of a fault. -/
structure Worded (fault : Fault) (message subject : Text) : Prop where
  message : fault.message = .text message
  subject : fault.subject = .text subject

/-- The check of a log for the method that the options name. -/
def checkOf (options : Options) (expectation : Expectation) (holder log : Text) :
    Run Check.Passed :=
  Check.verify log.lines
    (.forMethod holder options.method.text options.signature.text Markers.defaultCallSite)
    (.expectation expectation)

/-- The events of a trace as far as they are to be shown. -/
def shownEvents (options : Options) (events : List Event) : List Event :=
  if options.verbose then events else []

/-- The lines show what this check records, if it is to be shown. -/
def Traced (options : Options) (expectation : Expectation) (holder log : Text)
    (lines : List Text) : Prop :=
  List.Forall₂ Event.Shows (shownEvents options
    ((checkOf options expectation holder log).recorded Trace.empty).2.events) lines

/-- The end of a run is that of its first stage that fails, or of the check if none does. Its output
is a block of lines, behind the trace if the check was reached. -/
inductive Decided (options : Options) (info : RunInfo) (log : Text) : Outcome → Prop
  | unstated {fault : Fault} {cause : Option Fault} {message subject : Text}
      (stated : expectationOf options = .error (.fault fault cause))
      (worded : Worded fault message subject) :
      Decided options info log (.ended 3 ((FailureRecord.block
        ⟨"CONTRACT_VIOLATION".toList, 3, subject, info, version, message⟩).flatMap (· ++ ['\n'])))
  | exitDiffers {expectation : Expectation} (stated : expectationOf options = .ok expectation)
      (differs : options.exitCode ≠ options.expectedExitCode) :
      Decided options info log (.ended 3 ((FailureRecord.block
        ⟨"PROCESS_EXIT_MISMATCH".toList, 3, "exit_code".toList, info, version,
          "Process exited with ".toList ++ options.exitCode.number ++ "; expected ".toList ++
            options.expectedExitCode.number ++
            ". Output not inspected.".toList⟩).flatMap (· ++ ['\n'])))
  | failed {expectation : Expectation} {holder : Text} {fault : Fault} {cause : Option Fault}
      {name message subject : Text} {code : Nat} {shown : List Text}
      (stated : expectationOf options = .ok expectation)
      (agrees : options.exitCode = options.expectedExitCode)
      (held : options.holder = .value holder)
      (failed : (checkOf options expectation holder log).outcome = .error (.fault fault cause))
      (coded : LogFault fault.kind name code) (worded : Worded fault message subject)
      (traced : Traced options expectation holder log shown) :
      Decided options info log (.ended code ((shown ++ FailureRecord.block
        ⟨name, code, subject, info, version, message⟩).flatMap (· ++ ['\n'])))
  | passed {expectation : Expectation} {holder : Text} {passed : Check.Passed}
      {shown : List Text} (stated : expectationOf options = .ok expectation)
      (agrees : options.exitCode = options.expectedExitCode)
      (held : options.holder = .value holder)
      (succeeded : (checkOf options expectation holder log).outcome = .ok passed)
      (traced : Traced options expectation holder log shown) :
      Decided options info log (.ended 0
        ((shown ++ passed.block info log.lines.length).flatMap (· ++ ['\n'])))

/-- Two dashes stand where the run needs a value, or a holder. -/
inductive Dashed (options : Options) : Prop
  | value (nothing : options.value = some .nothing)
  | holder {expectation : Expectation} (stated : expectationOf options = .ok expectation)
      (agrees : options.exitCode = options.expectedExitCode) (nothing : options.holder = .nothing)

/-- If the check is reached, it returns or ends with a fault. -/
def ChecksAnswered (options : Options) (log : Text) : Prop :=
  ∀ expectation holder, expectationOf options = .ok expectation →
    options.exitCode = options.expectedExitCode → options.holder = .value holder →
    Answered ((checkOf options expectation holder log).recorded Trace.empty).1

/-! ### The trace -/

theorem printTrace_eq (options : Options) (trace : Trace) : printTrace options trace =
    ((shownEvents options trace.events).map Event.line).flatMap (· ++ ['\n']) := by
  rw [List.flatMap_map, printTrace, shownEvents]
  split <;> rfl

theorem shownEvents_subset (options : Options) (events : List Event) :
    shownEvents options events ⊆ events := by
  unfold shownEvents
  split
  · exact List.Subset.refl _
  · exact List.nil_subset _

theorem traced_map_line (options : Options) (expectation : Expectation) (holder log : Text) :
    Traced options expectation holder log ((shownEvents options
      ((checkOf options expectation holder log).recorded Trace.empty).2.events).map Event.line) :=
  Run.shows_lines_of_recorded (shownEvents_subset options _)

/-! ### What is printed on a failure -/

theorem exitCodeOfName_name (type : FailureType) :
    FailureType.exitCodeOfName type.name = type.exitCode := by
  cases type <;> decide

theorem fail_build (info : RunInfo) (type : FailureType) (detail subject : Text)
    (lines : List Text) :
    fail (.build info type.name detail subject) (lines.flatMap (· ++ ['\n'])) =
      .ended type.exitCode ((lines ++ FailureRecord.block
        ⟨type.name, type.exitCode, subject, info, version, detail⟩).flatMap (· ++ ['\n'])) := by
  rw [fail_eq, FailureRecord.build, exitCodeOfName_name, List.flatMap_append]

theorem failStop_fault {message subject : Text} (worded : Worded fault message subject)
    (info : RunInfo) (lines : List Text) (cause : Option Fault) :
    failStop info (lines.flatMap (· ++ ['\n'])) (.fault fault cause) =
      .ended fault.kind.failureType.exitCode ((lines ++ FailureRecord.block
        ⟨fault.kind.failureType.name, fault.kind.failureType.exitCode, subject, info, version,
          message⟩).flatMap (· ++ ['\n'])) := by
  have detail : fault.message.shown = message := congrArg Value.shown worded.message
  have about : fault.subject.shown = subject := congrArg Value.shown worded.subject
  rw [← detail, ← about]
  exact fail_build info fault.kind.failureType fault.message.shown fault.subject.shown lines

theorem exists_worded_of_callerFault {instruction : Value}
    (blamed : Expectation.CallerFault instruction fault) :
    ∃ message subject, Worded fault message subject := by
  cases blamed with
  | unknownHint => exact ⟨_, _, rfl, rfl⟩
  | invalidDelay => exact ⟨_, _, rfl, rfl⟩
  | invalidCount => exact ⟨_, _, rfl, rfl⟩

theorem exists_worded_of_ofLog (ofLog : fault.OfLog) :
    ∃ message subject, Worded fault message subject := by
  cases ofLog with
  | markerNotFound => exact ⟨_, _, rfl, rfl⟩
  | duplicateMarker => exact ⟨_, _, rfl, rfl⟩
  | countMismatch => exact ⟨_, _, rfl, rfl⟩
  | idiomMismatch => exact ⟨_, _, rfl, rfl⟩

theorem failureType_of_contract {kind : FaultKind} (contract : .contract ∈ kind.lineage) :
    kind.failureType = .contractViolation := by
  cases kind <;> revert contract <;> decide

theorem logFault_of_ofLog (ofLog : fault.OfLog) :
    LogFault fault.kind fault.kind.failureType.name fault.kind.failureType.exitCode := by
  cases ofLog with
  | markerNotFound => exact .markerNotFound
  | duplicateMarker => exact .duplicateMarker
  | countMismatch => exact .countMismatch
  | idiomMismatch => exact .idiomMismatch

/-! ### Each stage -/

/-- Once the expectation is stated, the log is asked for at the place that the options name. -/
theorem ofArguments_of_stated (parsed : parse arguments = .ok options)
    (located : LogSource.ofSetting options.logPath = .ok source)
    (stated : expectationOf options = .ok expectation) (runId : Text) :
    Session.ofArguments arguments runId =
      .awaitsLog source (inspect options ⟨runId, options.logPath.text⟩ expectation) := by
  simp only [Session.ofArguments, parsed, Session.ofOptions, stated, located]

theorem runOn_of_unstated {stop : Stop} (parsed : parse arguments = .ok options)
    (stated : expectationOf options = .error stop) :
    runOn answer arguments runId = failStop ⟨runId, options.logPath.text⟩ [] stop := by
  simp only [runOn, Session.ofArguments, parsed, Session.ofOptions, stated]

theorem runOn_of_stated (parsed : parse arguments = .ok options)
    (located : LogSource.ofSetting options.logPath = .ok source)
    (stated : expectationOf options = .ok expectation) :
    runOn answer arguments runId =
      inspect options ⟨runId, options.logPath.text⟩ expectation (answer source) := by
  simp only [runOn, ofArguments_of_stated parsed located stated]

theorem runOn_of_unlocated {refusal : Refusal} (parsed : parse arguments = .ok options)
    (stated : expectationOf options = .ok expectation)
    (located : LogSource.ofSetting options.logPath = .error refusal) (runId : Text) :
    runOn answer arguments runId = .broken refusal := by
  simp only [runOn, Session.ofArguments, parsed, Session.ofOptions, stated, located]

theorem runOn_of_exitDiffers (parsed : parse arguments = .ok options)
    (stated : expectationOf options = .ok expectation)
    (located : LogSource.ofSetting options.logPath = .ok source) (read : answer source = .ok log)
    (differs : options.exitCode ≠ options.expectedExitCode) (runId : Text) :
    runOn answer arguments runId = fail (exitMismatch options ⟨runId, options.logPath.text⟩) [] := by
  rw [runOn_of_stated parsed located stated, read, inspect, if_pos differs]

theorem runOn_of_unheld (parsed : parse arguments = .ok options)
    (stated : expectationOf options = .ok expectation)
    (located : LogSource.ofSetting options.logPath = .ok source) (read : answer source = .ok log)
    (agrees : options.exitCode = options.expectedExitCode) (nothing : options.holder = .nothing)
    (runId : Text) : runOn answer arguments runId = .broken .missingPart := by
  rw [runOn_of_stated parsed located stated, read]
  simp only [inspect, agrees, ne_eq, not_true, if_false, markersOf, nothing]

/-- The end of a run on a log whose check has this result, with this much printed before. -/
def ending (path : Text) (lineCount : Nat) (checked : Except Stop Check.Passed)
    (printed runId : Text) : Outcome :=
  match checked with
  | .error stop => failStop ⟨runId, path⟩ printed stop
  | .ok passed => .ended 0 (printed ++ passed.summary ⟨runId, path⟩ lineCount)

theorem runOn_of_checked (parsed : parse arguments = .ok options)
    (stated : expectationOf options = .ok expectation)
    (located : LogSource.ofSetting options.logPath = .ok source) (read : answer source = .ok log)
    (agrees : options.exitCode = options.expectedExitCode) (held : options.holder = .value holder)
    (recorded : (checkOf options expectation holder log).recorded Trace.empty = (checked, trace))
    (runId : Text) :
    runOn answer arguments runId =
      ending options.logPath.text log.lines.length checked (printTrace options trace) runId := by
  rw [runOn_of_stated parsed located stated, read]
  simp only [inspect, agrees, ne_eq, not_true, if_false, markersOf, held, checkLog]
  unfold checkOf at recorded
  rw [recorded]
  cases checked <;> rfl

/-- An outcome that is recorded is the outcome. -/
theorem recorded_fst_eq {α : Type} {run : Run α} {trace : Trace}
    (answered : Answered (run.recorded trace).1) : (run.recorded trace).1 = run.outcome := by
  unfold Run.recorded at answered ⊢
  split
  · rfl
  · next refused =>
    rw [refused] at answered
    exact absurd rfl (answered .oversized)

theorem expectationOf_blamesCaller (options : Options) :
    Expectation.BlamesCaller (options.instruction.asValue .text) (expectationOf options) := by
  unfold expectationOf
  split
  · exact (Expectation.judged_ofInstruction _ _).blamesCaller
  · exact (Expectation.judged_ofInstruction _ _).blamesCaller
  · exact nofun

theorem decided_of_unstated {stop : Stop} (stated : expectationOf options = .error stop)
    (given : options.value ≠ some .nothing) : Decided options info log (failStop info [] stop) := by
  cases stop with
  | fault fault cause =>
    have blamed := expectationOf_blamesCaller options fault cause stated
    obtain ⟨message, subject, worded⟩ := exists_worded_of_callerFault blamed
    have ends := failStop_fault worded info [] cause
    rw [failureType_of_contract blamed.contract_mem_lineage] at ends
    exact ends ▸ .unstated stated worded
  | refused refusal => exact absurd stated (expectationOf_answered given refusal)

/-- How the line breaks of the log are written makes no difference to its check. -/
theorem checkLog_unifyNewlines
    (answered : Answered ((checkOf options expectation holder log).recorded Trace.empty).1) :
    checkLog options info expectation (.forMethod holder options.method.text
        options.signature.text Markers.defaultCallSite) log.unifyNewlines =
      ending info.logPath log.lines.length (checkOf options expectation holder log).outcome
        (printTrace options ((checkOf options expectation holder log).recorded Trace.empty).2)
        info.runId := by
  rw [checkLog, Text.lines_unifyNewlines, ← recorded_fst_eq answered, checkOf]
  generalize (Check.verify log.lines _ _).recorded Trace.empty = recorded
  obtain ⟨outcome, trace⟩ := recorded
  cases outcome <;> rfl

theorem decided_of_checked (stated : expectationOf options = .ok expectation)
    (agrees : options.exitCode = options.expectedExitCode) (held : options.holder = .value holder)
    (answered : Answered ((checkOf options expectation holder log).recorded Trace.empty).1) :
    Decided options info log (checkLog options info expectation (.forMethod holder
      options.method.text options.signature.text Markers.defaultCallSite) log.unifyNewlines) := by
  have traced := traced_map_line options expectation holder log
  rw [checkLog_unifyNewlines answered, printTrace_eq]
  cases ended : (checkOf options expectation holder log).outcome with
  | ok passed =>
    rw [ending, Check.Passed.summary_eq, ← List.flatMap_append]
    exact .passed stated agrees held ended traced
  | error stop =>
    cases stop with
    | fault fault cause =>
      have ofLog := Check.verify_ofLog ended
      obtain ⟨message, subject, worded⟩ := exists_worded_of_ofLog ofLog
      rw [ending, failStop_fault worded]
      exact .failed stated agrees held ended (logFault_of_ofLog ofLog) worded traced
    | refused refusal =>
      rw [recorded_fst_eq answered] at answered
      exact absurd ended (answered refusal)

theorem decided_of_stated (stated : expectationOf options = .ok expectation)
    (answered : ChecksAnswered options log) (undashed : ¬ Dashed options) :
    Decided options info log (inspect options info expectation (.ok log.unifyNewlines)) := by
  by_cases agrees : options.exitCode = options.expectedExitCode
  · cases held : options.holder with
    | value holder =>
      simp only [inspect, agrees, ne_eq, not_true, if_false, markersOf, held]
      exact decided_of_checked stated agrees held (answered expectation holder stated agrees held)
    | nothing => exact absurd (.holder stated agrees held) undashed
  · simp only [inspect, agrees, ne_eq, not_false_iff, if_true]
    have ends := fail_build info .processExitMismatch (exitMismatch options info).detail
      (exitMismatch options info).subject []
    exact ends ▸ .exitDiffers stated agrees

/-! ### The run -/

theorem decided_runOn (runId : Text) (parsed : parse arguments = .ok options)
    (located : LogSource.ofSetting options.logPath = .ok source)
    (read : answer source = .ok (decodeLog log.utf8)) (answered : ChecksAnswered options log)
    (undashed : ¬ Dashed options) :
    Decided options ⟨runId, options.logPath.text⟩ log (runOn answer arguments runId) := by
  cases stated : expectationOf options with
  | ok expectation =>
    rw [runOn_of_stated parsed located stated, read, decodeLog_utf8]
    exact decided_of_stated stated answered undashed
  | error stop =>
    rw [runOn_of_unstated parsed stated]
    exact decided_of_unstated stated fun nothing => undashed (.value nothing)

/-- Two dashes stand where the run needs the value, the path of the log, or the holder. -/
inductive Lacks (options : Options) (answer : LogSource → Except Text Text) : Prop
  | value (nothing : options.value = some .nothing)
  | logPath {expectation : Expectation} (stated : expectationOf options = .ok expectation)
      (nothing : options.logPath = .nothing)
  | holder {expectation : Expectation} {source : LogSource} {log : Text}
      (stated : expectationOf options = .ok expectation)
      (located : LogSource.ofSetting options.logPath = .ok source)
      (read : answer source = .ok log)
      (agrees : options.exitCode = options.expectedExitCode) (nothing : options.holder = .nothing)

theorem runOn_of_lacks (parsed : parse arguments = .ok options) (runId : Text)
    (lacks : Lacks options answer) :
    ∃ refusal, runOn answer arguments runId = .broken refusal := by
  cases lacks with
  | value nothing =>
    have refused : expectationOf options = .error (.refused .wrongKind) := by
      rw [expectationOf, nothing]
    exact ⟨.wrongKind, runOn_of_unstated parsed refused⟩
  | logPath stated nothing =>
    have unlocated : LogSource.ofSetting options.logPath = .error .wrongKind := by
      rw [nothing, LogSource.ofSetting]
    exact ⟨.wrongKind, runOn_of_unlocated parsed stated unlocated runId⟩
  | holder stated located read agrees nothing =>
    exact ⟨.missingPart, runOn_of_unheld parsed stated located read agrees nothing runId⟩

theorem runOn_of_dashed (runId : Text) (parsed : parse arguments = .ok options)
    (located : LogSource.ofSetting options.logPath = .ok source) (read : answer source = .ok log)
    (dashed : Dashed options) : ∃ refusal, runOn answer arguments runId = .broken refusal := by
  apply runOn_of_lacks parsed runId
  cases dashed with
  | value nothing => exact .value nothing
  | holder stated agrees nothing => exact .holder stated located read agrees nothing

/-- All stages succeed. -/
inductive Succeeds (options : Options) (log : Text) : Prop
  | intro {expectation : Expectation} {holder : Text} {passed : Check.Passed}
      (stated : expectationOf options = .ok expectation)
      (agrees : options.exitCode = options.expectedExitCode)
      (held : options.holder = .value holder)
      (succeeded : (checkOf options expectation holder log).outcome = .ok passed)

theorem Decided.exitCode_eq_zero_iff {code : Nat} {output : Text}
    (decided : Decided options info log (.ended code output)) :
    code = 0 ↔ Succeeds options log := by
  cases decided with
  | unstated stated =>
    refine iff_of_false nofun fun succeeds => ?_
    cases succeeds with
    | intro otherStated => exact absurd (stated.symm.trans otherStated) nofun
  | exitDiffers stated differs =>
    refine iff_of_false nofun fun succeeds => ?_
    cases succeeds with
    | intro _ agrees => exact differs agrees
  | failed stated agrees held failed coded =>
    refine iff_of_false coded.ne_zero fun succeeds => ?_
    cases succeeds with
    | intro otherStated _ otherHeld succeeded =>
      obtain rfl := Except.ok.inj (stated.symm.trans otherStated)
      obtain rfl := Setting.value.inj (held.symm.trans otherHeld)
      exact absurd (failed.symm.trans succeeded) nofun
  | passed stated agrees held succeeded =>
    exact iff_of_true rfl (.intro stated agrees held succeeded)

theorem Succeeds.undashed (succeeds : Succeeds options log) : ¬ Dashed options := by
  intro dashed
  cases succeeds with
  | intro stated _ held =>
    cases dashed with
    | value nothing =>
      rw [expectationOf, nothing] at stated
      cases stated
    | holder _ _ nothing =>
      rw [held] at nothing
      cases nothing

theorem exists_ended_zero_iff (parsed : parse arguments = .ok options)
    (located : LogSource.ofSetting options.logPath = .ok source)
    (read : answer source = .ok (decodeLog log.utf8)) (answered : ChecksAnswered options log) :
    (∃ output, runOn answer arguments runId = .ended 0 output) ↔ Succeeds options log := by
  constructor
  · intro ended
    obtain ⟨output, ended⟩ := ended
    have undashed : ¬ Dashed options := by
      intro dashed
      obtain ⟨refusal, broken⟩ := runOn_of_dashed runId parsed located read dashed
      exact absurd (broken.symm.trans ended) nofun
    have decided := decided_runOn runId parsed located read answered undashed
    rw [ended] at decided
    exact decided.exitCode_eq_zero_iff.mp rfl
  · intro succeeds
    have decided := decided_runOn runId parsed located read answered succeeds.undashed
    generalize runOn answer arguments runId = outcome at decided ⊢
    obtain ⟨code, output, rfl⟩ : ∃ code output, outcome = .ended code output := by
      cases decided <;> exact ⟨_, _, rfl⟩
    obtain rfl := decided.exitCode_eq_zero_iff.mpr succeeds
    exact ⟨output, rfl⟩

theorem runOn_of_unreadable (parsed : parse arguments = .ok options)
    (located : LogSource.ofSetting options.logPath = .ok source)
    (unreadable : answer source = .error report)
    (stated : expectationOf options = .ok expectation) :
    runOn answer arguments runId = .ended 4 ((FailureRecord.block
      ⟨"HARNESS_INTERNAL_ERROR".toList, 4, [], ⟨runId, options.logPath.text⟩, version,
        "Cannot read log ".toList ++ options.logPath.text ++ ": ".toList ++
          report⟩).flatMap (· ++ ['\n'])) := by
  rw [runOn_of_stated parsed located stated, unreadable, inspect]
  exact fail_build _ .internalError (cannotRead _ report).detail [] []

/-- A run ends like its first stage that fails, whatever answers when the log is read, unless two
dashes stand where it needs the value or the holder. Its exit code is 0 exactly if all stages succeed.
If the log is not read, the exit code is 4 as soon as the expectation is stated, whatever exit codes
are compared. -/
theorem run_decided_iff (parsed : parse arguments = .ok options)
    (located : LogSource.ofSetting options.logPath = .ok source)
    (answer : LogSource → Except Text Text) (runId : Text) :
    (∀ log, answer source = .ok (decodeLog log.utf8) → ChecksAnswered options log →
      (Decided options ⟨runId, options.logPath.text⟩ log (runOn answer arguments runId) ↔
        ¬ Dashed options) ∧
      ((∃ output, runOn answer arguments runId = .ended 0 output) ↔ Succeeds options log)) ∧
    ∀ report expectation, answer source = .error report →
      expectationOf options = .ok expectation →
      runOn answer arguments runId = .ended 4 ((FailureRecord.block
        ⟨"HARNESS_INTERNAL_ERROR".toList, 4, [], ⟨runId, options.logPath.text⟩, version,
          "Cannot read log ".toList ++ options.logPath.text ++ ": ".toList ++
            report⟩).flatMap (· ++ ['\n'])) := by
  refine ⟨fun log read answered => ⟨⟨fun decided dashed => ?_, ?_⟩, ?_⟩, ?_⟩
  · obtain ⟨refusal, broken⟩ := runOn_of_dashed runId parsed located read dashed
    rw [broken] at decided
    cases decided
  · exact decided_runOn runId parsed located read answered
  · exact exists_ended_zero_iff parsed located read answered
  · intro report expectation unreadable stated
    exact runOn_of_unreadable parsed located unreadable stated

/-! ### A run that passes -/

/-- A log of one hint, with several kinds of line break. -/
def nopText : Text :=
  Markers.default.header ++ "\r\n0x9: nop ;".toList ++ Markers.defaultCallSite ++ "\r".toList ++
    Markers.default.callSiteFrame

def nopPath : Text := "/tmp/jit.log".toList

def nopArguments : List Text := ["--log-path".toList, nopPath, "--inst".toList, "nop".toList]

def nopOptions : Options where
  logPath := .value nopPath
  instruction := .value "nop".toList
  value := none
  exitCode := .value 0
  expectedExitCode := .value 0
  holder := .value Markers.defaultHolder
  method := .value Markers.defaultName
  signature := .value Markers.defaultSignature
  verbose := false

/-- The log is found at its path, and nothing anywhere else. -/
def readsNop : LogSource → Except Text Text
  | .standardInput => .ok []
  | .file path =>
    if path = nopPath then .ok (decodeLog nopText.utf8)
    else .error (systemReport 2 "No such file or directory".toList path)

theorem readsNop_nopPath : readsNop (.file nopPath) = .ok (decodeLog nopText.utf8) := by
  rw [readsNop, if_pos rfl]

theorem nopText_checksAnswered : ChecksAnswered nopOptions nopText := by
  intro expectation holder stated _ _
  obtain rfl : Expectation.repeated .nop 1 = expectation := Except.ok.inj stated
  have fits : nopText.FitsMemory := by
    unfold Text.FitsMemory
    decide +kernel
  have short : (Expectation.repeated .nop 1).HasShortCount := Numeral.isShort_of_digit (by decide)
  exact (Check.verify_answered_iff fits.isSmall_lines short _ (some Trace.empty)).mpr not_false

theorem nopRun_passes :
    Decided nopOptions ⟨[], nopPath⟩ nopText (runOn readsNop nopArguments []) ∧
      ∃ output, runOn readsNop nopArguments [] = .ended 0 output := by
  have parsed : parse nopArguments = .ok nopOptions := rfl
  have located : LogSource.ofSetting nopOptions.logPath = .ok (.file nopPath) := rfl
  obtain ⟨decided, zero⟩ :=
    (run_decided_iff parsed located readsNop []).1 nopText readsNop_nopPath
      nopText_checksAnswered
  have passes : (checkOf nopOptions (.repeated .nop 1) Markers.defaultHolder
      nopText).outcome.isOk = true := by decide +kernel
  have succeeds : Succeeds nopOptions nopText := by
    cases ended : (checkOf nopOptions (.repeated .nop 1) Markers.defaultHolder nopText).outcome with
    | ok passed => exact .intro rfl rfl rfl ended
    | error stop =>
      rw [ended] at passes
      cases passes
  exact ⟨decided.mpr succeeds.undashed, zero.mpr succeeds⟩

/-! ### Two dashes in place of the value -/

def dashedArguments : List Text :=
  ["--log-path".toList, "-".toList, "--inst".toList, "nop".toList, "--value=--".toList]

/-- The arguments are accepted, and the run breaks off instead of ending with exit code 3. -/
theorem dashedRun_breaks :
    parse dashedArguments =
        .ok { nopOptions with logPath := .value "-".toList, value := some .nothing } ∧
      ∀ answer, runOn answer dashedArguments [] = .broken .wrongKind ∧
        ∀ output, runOn answer dashedArguments [] ≠ .ended 3 output :=
  ⟨rfl, fun _ => ⟨rfl, nofun⟩⟩

end SpinWait.CommandLine
