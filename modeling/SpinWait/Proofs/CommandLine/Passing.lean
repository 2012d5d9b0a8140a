import SpinWait.Proofs.Check.Evidence
import SpinWait.Proofs.Check.Truncation
import SpinWait.Proofs.CommandLine.Course

namespace SpinWait.CommandLine

open Check

/-! What a run that passes has found in its log. -/

variable {arguments : List Text} {options : Options} {answer : LogSource → Except Text Text}
  {runId output : Text} {events : List Event} {info : RunInfo} {expectation : Expectation}

theorem fail_ne_zero (info : RunInfo) (failureType detail subject trace : Text) :
    fail (.build info failureType detail subject) trace ≠ .ended 0 output := by
  intro ended
  injection ended with code
  exact (exitCodeOfName_range failureType).1 code

theorem failStop_ne_zero (info : RunInfo) (trace : Text) (stop : Stop) :
    failStop info trace stop ≠ .ended 0 output := by
  cases stop with
  | fault fault cause => exact fail_ne_zero info _ _ _ trace
  | refused refusal => nofun

/-- Whether the run passes, in a form that can be computed. -/
def Outcome.passes : Outcome → Bool
  | .ended 0 _ => true
  | _ => false

theorem exists_of_passes {outcome : Outcome} (passes : outcome.passes = true) :
    ∃ output, outcome = .ended 0 output := by
  unfold Outcome.passes at passes
  split at passes
  · exact ⟨_, rfl⟩
  · cases passes

/-! ### The evidence -/

theorem expectationOf_counter_iff (stated : expectationOf options = .ok expectation) :
    (∃ delay spin fits, expectation = .counter delay spin fits) ↔
      options.instruction = .value Expectation.counterName := by
  have named : (options.instruction.asValue .text).text? = some Expectation.counterName ↔
      options.instruction = .value Expectation.counterName := by
    cases options.instruction <;> simp [Setting.asValue, Value.text?]
  unfold expectationOf at stated
  split at stated
  · exact (Expectation.ofInstruction_counter_iff stated).trans named
  · exact (Expectation.ofInstruction_counter_iff stated).trans named
  · cases stated

theorem RunCourse.exists_passed
    (course : RunCourse options info answer events (.ended 0 output)) :
    ∃ source log holder expectation, LogSource.ofSetting options.logPath = .ok source ∧
      answer source = .ok log ∧ options.holder = .value holder ∧
      expectationOf options = .ok expectation ∧
      ∃ passed, (checkOf options expectation holder log).outcome = .ok passed := by
  generalize ending : Outcome.ended 0 output = outcome at course
  cases course with
  | unstated => exact absurd ending.symm (failStop_ne_zero info _ _)
  | unlocated => cases ending
  | unread => exact absurd ending.symm (fail_ne_zero info _ _ _ _)
  | exitDiffers => exact absurd ending.symm (fail_ne_zero info _ _ _ _)
  | unheld => cases ending
  | stopped => exact absurd ending.symm (failStop_ne_zero info _ _)
  | @passed expectation source log holder passed trace stated located read agrees held checked =>
    have answered : Answered ((checkOf options expectation holder log).recorded Trace.empty).1 := by
      rw [checked]
      exact .ok passed
    have passes := recorded_fst_eq answered
    rw [checked] at passes
    exact ⟨source, log, holder, expectation, located, read, held, stated, passed, passes.symm⟩

/-- A run that passes has found in its log what was asked for. A number of hints is counted behind
the only line that announces the method by its name, signature and holder. The counter loop is found
behind the first line that names the holder, whatever method it announces. -/
theorem evidence_of_ended_zero (parsed : parse arguments = .ok options)
    (ended : runOn answer arguments runId = .ended 0 output) :
    ∃ source log holder expectation, LogSource.ofSetting options.logPath = .ok source ∧
      answer source = .ok log ∧ options.holder = .value holder ∧
      expectationOf options = .ok expectation ∧
      ((∃ delay spin fits, expectation = .counter delay spin fits) ↔
        options.instruction = .value "counter".toList) ∧
      Evidence log.lines
        ("'".toList ++ options.method.text ++ "' '".toList ++ options.signature.text ++
          "' in '".toList ++ (holder.map fun c => if c = '.' then '/' else c) ++ "'".toList)
        (holder.map fun c => if c = '.' then '/' else c) expectation := by
  obtain ⟨events, course⟩ := exists_runCourse parsed answer runId
  rw [ended] at course
  obtain ⟨source, log, holder, expectation, located, read, held, stated, passed, passes⟩ :=
    course.exists_passed
  exact ⟨source, log, holder, expectation, located, read, held, stated,
    expectationOf_counter_iff stated, evidence_of_verify passes⟩

theorem nopRun_evidence :
    ∃ output, runOn readsNop nopArguments [] = .ended 0 output ∧
      ∃ source log holder expectation, LogSource.ofSetting nopOptions.logPath = .ok source ∧
        readsNop source = .ok log ∧ nopOptions.holder = .value holder ∧
        expectationOf nopOptions = .ok expectation ∧
        ((∃ delay spin fits, expectation = .counter delay spin fits) ↔
          nopOptions.instruction = .value "counter".toList) ∧
        Evidence log.lines
          ("'".toList ++ nopOptions.method.text ++ "' '".toList ++ nopOptions.signature.text ++
            "' in '".toList ++ (holder.map fun c => if c = '.' then '/' else c) ++ "'".toList)
          (holder.map fun c => if c = '.' then '/' else c) expectation := by
  have parsed : parse nopArguments = .ok nopOptions := rfl
  obtain ⟨output, ended⟩ : ∃ output, runOn readsNop nopArguments [] = .ended 0 output :=
    exists_of_passes (by decide +kernel)
  exact ⟨output, ended, evidence_of_ended_zero parsed ended⟩

/-! ### A loop in another method -/

/-- The method `absent` is asked for. -/
def strayArguments : List Text :=
  ["--log-path".toList, "-".toList, "--inst".toList, "counter".toList, "--value".toList,
    "14".toList, "--method".toList, "absent".toList]

/-- The loop stands in a method of the same class with another name. -/
def strayText : Text :=
  ((Markers.forMethod Markers.defaultHolder "other".toList Markers.defaultSignature
    Markers.defaultCallSite).header :: loopLines).flatMap (· ++ ['\n'])

theorem strayRun_passes :
    (∃ options, parse strayArguments = .ok options ∧ options.method = .value "absent".toList) ∧
      (∃ output, runOn (fun _ => .ok strayText) strayArguments [] = .ended 0 output) ∧
      ∀ line ∈ strayText.lines,
        ¬ "'absent' '()V' in 'compiler/onSpinWait/TestOnSpinWaitAArch64$Launcher'".toList <:+: line :=
  ⟨⟨_, rfl, rfl⟩, exists_of_passes (by decide +kernel), by decide +kernel⟩

end SpinWait.CommandLine
