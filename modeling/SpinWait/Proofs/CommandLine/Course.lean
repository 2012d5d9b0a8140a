import SpinWait.Proofs.CommandLine.Stages

namespace SpinWait.CommandLine

/-! The course of a run with options: how far it comes, what its check records, and how it ends. -/

variable {arguments : List Text} {options : Options} {events : List Event} {outcome : Outcome}

/-- What is done stage by stage, with the events that a check has recorded. -/
inductive RunCourse (options : Options) (info : RunInfo)
    (answer : LogSource → Except Text Text) : List Event → Outcome → Prop
  | unstated {stop : Stop} (stated : expectationOf options = .error stop) :
      RunCourse options info answer [] (failStop info [] stop)
  | unlocated {expectation : Expectation} {refusal : Refusal}
      (stated : expectationOf options = .ok expectation)
      (located : LogSource.ofSetting options.logPath = .error refusal) :
      RunCourse options info answer [] (.broken refusal)
  | unread {expectation : Expectation} {source : LogSource} {report : Text}
      (stated : expectationOf options = .ok expectation)
      (located : LogSource.ofSetting options.logPath = .ok source)
      (read : answer source = .error report) :
      RunCourse options info answer [] (fail (cannotRead info report) [])
  | exitDiffers {expectation : Expectation} {source : LogSource} {log : Text}
      (stated : expectationOf options = .ok expectation)
      (located : LogSource.ofSetting options.logPath = .ok source)
      (read : answer source = .ok log)
      (differs : options.exitCode ≠ options.expectedExitCode) :
      RunCourse options info answer [] (fail (exitMismatch options info) [])
  | unheld {expectation : Expectation} {source : LogSource} {log : Text}
      (stated : expectationOf options = .ok expectation)
      (located : LogSource.ofSetting options.logPath = .ok source)
      (read : answer source = .ok log)
      (agrees : options.exitCode = options.expectedExitCode) (nothing : options.holder = .nothing) :
      RunCourse options info answer [] (.broken .missingPart)
  | stopped {expectation : Expectation} {source : LogSource} {log holder : Text} {stop : Stop}
      {trace : Trace} (stated : expectationOf options = .ok expectation)
      (located : LogSource.ofSetting options.logPath = .ok source)
      (read : answer source = .ok log)
      (agrees : options.exitCode = options.expectedExitCode)
      (held : options.holder = .value holder)
      (checked : (checkOf options expectation holder log).recorded Trace.empty =
        (.error stop, trace)) :
      RunCourse options info answer trace.events
        (failStop info (printTrace options trace) stop)
  | passed {expectation : Expectation} {source : LogSource} {log holder : Text}
      {passed : Check.Passed} {trace : Trace} (stated : expectationOf options = .ok expectation)
      (located : LogSource.ofSetting options.logPath = .ok source)
      (read : answer source = .ok log)
      (agrees : options.exitCode = options.expectedExitCode)
      (held : options.holder = .value holder)
      (checked : (checkOf options expectation holder log).recorded Trace.empty =
        (.ok passed, trace)) :
      RunCourse options info answer trace.events
        (.ended 0 (printTrace options trace ++ passed.summary info log.lines.length))

theorem exists_runCourse (parsed : parse arguments = .ok options)
    (answer : LogSource → Except Text Text) (runId : Text) : ∃ events,
      RunCourse options ⟨runId, options.logPath.text⟩ answer events
        (runOn answer arguments runId) := by
  cases stated : expectationOf options with
  | error stop =>
    rw [runOn_of_unstated parsed stated]
    exact ⟨_, .unstated stated⟩
  | ok expectation =>
    cases located : LogSource.ofSetting options.logPath with
    | error refusal =>
      rw [runOn_of_unlocated parsed stated located]
      exact ⟨_, .unlocated stated located⟩
    | ok source =>
      cases read : answer source with
      | error report =>
        rw [runOn_of_stated parsed located stated, read]
        exact ⟨_, .unread stated located read⟩
      | ok log =>
        by_cases agrees : options.exitCode = options.expectedExitCode
        · cases held : options.holder with
          | nothing =>
            rw [runOn_of_unheld parsed stated located read agrees held]
            exact ⟨_, .unheld stated located read agrees held⟩
          | value holder =>
            cases checked : (checkOf options expectation holder log).recorded Trace.empty with
            | mk outcome trace =>
              rw [runOn_of_checked parsed stated located read agrees held checked]
              cases outcome with
              | error stop => exact ⟨_, .stopped stated located read agrees held checked⟩
              | ok passed => exact ⟨_, .passed stated located read agrees held checked⟩
        · rw [runOn_of_exitDiffers parsed stated located read agrees]
          exact ⟨_, .exitDiffers stated located read agrees⟩

end SpinWait.CommandLine
