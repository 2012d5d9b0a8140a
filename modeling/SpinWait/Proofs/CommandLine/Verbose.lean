import SpinWait.Proofs.CommandLine.Passing
import SpinWait.Proofs.CommandLine.Printed

namespace SpinWait.CommandLine

/-! A run that shows its events and one that does not, side by side. The events stand in front of the
summary, and nothing else tells the two runs apart. -/

variable {arguments others : List Text} {options : Options}
  {answer : LogSource → Except Text Text} {log holder : Text} {source : LogSource}
  {expectation : Expectation} {checked : Except Stop Check.Passed} {trace : Trace}

/-! ### The option -/

/-- The options with the events shown. -/
def Options.loud (options : Options) : Options := { options with verbose := true }

def Draft.loud (draft : Draft) : Draft := { draft with verbose := true }

theorem Draft.set_loud (draft : Draft) (switch : Switch) (given : Setting Text) :
    draft.loud.set switch given = (draft.set switch given).map Draft.loud := by
  cases switch with
  | inst =>
    unfold Draft.set
    cases readInstruction given <;> rfl
  | exitCode =>
    unfold Draft.set
    cases readNumber .exitCode given <;> rfl
  | expectedExitCode =>
    unfold Draft.set
    cases readNumber .expectedExitCode given <;> rfl
  | help => rfl
  | logPath => rfl
  | value => rfl
  | holder => rfl
  | method => rfl
  | signature => rfl
  | verbose => rfl

theorem readHelpCluster_map {α β : Type} (change : α → β) (letters : Text) :
    (readHelpCluster letters).map change = readHelpCluster letters := by
  induction letters using readHelpCluster.induct with
  | case1 => rfl
  | case2 letters ih => exact ih
  | case3 letters ended further =>
    rw [readHelpCluster, readHelpCluster]
    · rfl
    all_goals assumption

theorem set_bind_loud {pieces : List Piece}
    (later : ∀ draft : Draft,
      readPieces pieces draft.loud = (readPieces pieces draft).map Draft.loud)
    (draft : Draft) (switch : Switch) (given : Setting Text) :
    draft.loud.set switch given >>= readPieces pieces =
      (draft.set switch given >>= readPieces pieces).map Draft.loud := by
  rw [Draft.set_loud]
  cases draft.set switch given with
  | error stop => rfl
  | ok next => exact later next

theorem readPieces_loud (pieces : List Piece) (draft : Draft) :
    readPieces pieces draft.loud = (readPieces pieces draft).map Draft.loud := by
  induction pieces, draft using readPieces.induct with
  | case1 draft => rfl
  | case2 text others draft ih => exact ih
  | case3 others draft ih => exact ih
  | case4 text others draft ih => exact ih
  | case5 letters => exact (readHelpCluster_map _ letters).symm
  | case6 => rfl
  | case7 => rfl
  | case8 others draft ih => exact ih
  | case9 => rfl
  | case10 switch value others draft notHelp notVerbose ih =>
    rw [readPieces, readPieces]
    · exact set_bind_loud ih draft switch (.ofText value)
    all_goals assumption
  | case11 switch value others draft notHelp notVerbose ih =>
    rw [readPieces, readPieces]
    · exact set_bind_loud ih draft switch (.ofText value)
    all_goals assumption
  | case12 switch others draft notHelp notVerbose unvalued =>
    rw [readPieces, readPieces]
    · rfl
    all_goals assumption

theorem finish_loud (draft : Draft) : finish draft.loud = (finish draft).map Options.loud := by
  obtain ⟨logPath, instruction, _, _, _, _, _, _, _, extras⟩ := draft
  cases logPath with
  | none => rfl
  | some logPath =>
    cases instruction with
    | none => rfl
    | some instruction => cases extras <;> rfl

theorem classifyAll_verbose (arguments : List Text) :
    classifyAll ("--verbose".toList :: arguments) =
      (classifyAll arguments).map (.switch .verbose none :: ·) := by
  have known : classify "--verbose".toList = .ok (.switch .verbose none) := rfl
  have apart : "--verbose".toList ≠ "--".toList := by decide
  rw [classifyAll, if_neg apart, known]
  cases classifyAll arguments <;> rfl

/-- In front of other arguments the option has no other effect. -/
theorem parse_verbose (arguments : List Text) :
    parse ("--verbose".toList :: arguments) = (parse arguments).map Options.loud := by
  rw [parse, parse, classifyAll_verbose]
  cases classifyAll arguments with
  | error stop => rfl
  | ok pieces =>
    change readPieces pieces Draft.initial.loud >>= finish =
      (readPieces pieces Draft.initial >>= finish).map Options.loud
    rw [readPieces_loud]
    cases readPieces pieces Draft.initial with
    | error stop => rfl
    | ok draft => exact finish_loud draft

/-! ### The summary -/

/-- The identifier of the run stands in one place, and the rest does not depend on it. -/
def Masked (text : Text → Text) : Prop :=
  ∃ before after, ∀ runId, text runId = before ++ (runId ++ after)

/-- The identifier ends one of the lines. -/
theorem masked_lines (before after : List Text) (title : Text) :
    Masked fun runId => (before ++ (title ++ runId) :: after).flatMap (· ++ ['\n']) := by
  refine ⟨before.flatMap (· ++ ['\n']) ++ title, '\n' :: after.flatMap (· ++ ['\n']),
    fun runId => ?_⟩
  simp only [List.flatMap_append, List.flatMap_cons, List.append_assoc, List.singleton_append]

theorem masked_failure (path failureType detail subject : Text) :
    Masked fun runId =>
      (FailureRecord.build ⟨runId, path⟩ failureType detail subject).summary := by
  simp only [FailureRecord.summary_eq, FailureRecord.block, FailureRecord.build]
  exact masked_lines [_, _, _, _, _] [_] "Run ID:         ".toList

theorem masked_passed (path : Text) (passed : Check.Passed) (lineCount : Nat) :
    Masked fun runId => passed.summary ⟨runId, path⟩ lineCount := by
  simp only [Check.Passed.summary_eq, Check.Passed.block]
  exact masked_lines [_] [_, _, _, _] "Run ID:          ".toList

/-! ### Two runs -/

/-- For every identifier the second run ends like the first, with these lines in front of its
output. -/
inductive OnlyAdds (lines : List Text) (quiet loud : Text → Outcome) : Prop
  | broken {refusal : Refusal} (quietly : ∀ runId, quiet runId = .broken refusal)
      (loudly : ∀ runId, loud runId = .broken refusal) : OnlyAdds lines quiet loud
  | ended {code : Nat} {summary : Text → Text} (masked : Masked summary)
      (quietly : ∀ runId, quiet runId = .ended code (summary runId))
      (loudly : ∀ runId,
        loud runId = .ended code (lines.flatMap (· ++ ['\n']) ++ summary runId)) :
      OnlyAdds lines quiet loud

theorem OnlyAdds.congr {lines : List Text} {quiet quietRun loud loudRun : Text → Outcome}
    (adds : OnlyAdds lines quiet loud) (quietly : ∀ runId, quietRun runId = quiet runId)
    (loudly : ∀ runId, loudRun runId = loud runId) : OnlyAdds lines quietRun loudRun := by
  rw [funext quietly, funext loudly]
  exact adds

theorem onlyAdds_fail (path failureType detail subject : Text) (lines : List Text) :
    OnlyAdds lines (fun runId => fail (.build ⟨runId, path⟩ failureType detail subject) [])
      fun runId => fail (.build ⟨runId, path⟩ failureType detail subject)
        (lines.flatMap (· ++ ['\n'])) := by
  have ends (runId shown : Text) :
      fail (.build ⟨runId, path⟩ failureType detail subject) shown =
        .ended (FailureType.exitCodeOfName failureType)
          (shown ++ FailureRecord.summary (.build ⟨runId, path⟩ failureType detail subject)) := by
    rw [fail, FailureRecord.build]
  refine .ended (masked_failure path failureType detail subject) (fun runId => ?_)
    fun runId => ends runId _
  rw [ends, List.nil_append]

theorem onlyAdds_failStop (path : Text) (lines : List Text) (stop : Stop) :
    OnlyAdds lines (fun runId => failStop ⟨runId, path⟩ [] stop)
      fun runId => failStop ⟨runId, path⟩ (lines.flatMap (· ++ ['\n'])) stop := by
  cases stop with
  | fault fault cause => exact onlyAdds_fail path _ _ _ lines
  | refused refusal => exact .broken (fun _ => rfl) fun _ => rfl

theorem onlyAdds_cannotRead (path report : Text) :
    OnlyAdds [] (fun runId => fail (cannotRead ⟨runId, path⟩ report) [])
      fun runId => fail (cannotRead ⟨runId, path⟩ report) [] :=
  onlyAdds_fail path FailureType.internalError.name
    ("Cannot read log ".toList ++ path ++ ": ".toList ++ report) [] []

theorem onlyAdds_exitMismatch (options : Options) (path : Text) :
    OnlyAdds [] (fun runId => fail (exitMismatch options ⟨runId, path⟩) [])
      fun runId => fail (exitMismatch options ⟨runId, path⟩) [] :=
  onlyAdds_fail path FailureType.processExitMismatch.name
    ("Process exited with ".toList ++ options.exitCode.number ++ "; expected ".toList ++
      options.expectedExitCode.number ++ ". Output not inspected.".toList) "exit_code".toList []

theorem onlyAdds_ending (path : Text) (lines : List Text) (lineCount : Nat)
    (checked : Except Stop Check.Passed) :
    OnlyAdds lines (ending path lineCount checked [])
      (ending path lineCount checked (lines.flatMap (· ++ ['\n']))) := by
  cases checked with
  | error stop => exact onlyAdds_failStop path lines stop
  | ok passed =>
    refine .ended (masked_passed path passed lineCount) (fun runId => ?_) fun runId => rfl
    rw [ending, List.nil_append]

/-! ### Stages -/

/-- The check of the log is reached, and this is what it returns and what it records. -/
inductive Verifies (options : Options) (answer : LogSource → Except Text Text) :
    Except Stop Check.Passed → Trace → Prop
  | intro {expectation : Expectation} {source : LogSource} {log holder : Text}
      {checked : Except Stop Check.Passed} {trace : Trace}
      (stated : expectationOf options = .ok expectation)
      (located : LogSource.ofSetting options.logPath = .ok source)
      (read : answer source = .ok log)
      (agrees : options.exitCode = options.expectedExitCode)
      (held : options.holder = .value holder)
      (recorded : (checkOf options expectation holder log).recorded Trace.empty = (checked, trace)) :
      Verifies options answer checked trace

theorem exists_verifies (stated : expectationOf options = .ok expectation)
    (located : LogSource.ofSetting options.logPath = .ok source) (read : answer source = .ok log)
    (agrees : options.exitCode = options.expectedExitCode)
    (held : options.holder = .value holder) :
    ∃ checked trace, Verifies options answer checked trace :=
  ⟨_, _, .intro stated located read agrees held Prod.mk.eta.symm⟩

theorem onlyAdds_of_verifies (parsed : parse arguments = .ok options)
    (quiet : options.verbose = false) (shown : parse others = .ok options.loud)
    (verifies : Verifies options answer checked trace) :
    OnlyAdds (trace.events.map Event.line) (runOn answer arguments) (runOn answer others) := by
  obtain ⟨stated, located, read, agrees, held, recorded⟩ := verifies
  have quietly := runOn_of_checked parsed stated located read agrees held recorded
  have loudly := runOn_of_checked shown stated located read agrees held recorded
  have silent : printTrace options trace = [] := if_neg (by simp [quiet])
  have all : shownEvents options.loud trace.events = trace.events := if_pos rfl
  rw [silent] at quietly
  rw [printTrace_eq, all] at loudly
  exact (onlyAdds_ending _ _ _ _).congr quietly loudly

/-- Before the check is reached nothing depends on whether events are shown. -/
theorem onlyAdds_of_unreached (parsed : parse arguments = .ok options)
    (shown : parse others = .ok options.loud)
    (unreached : ∀ checked trace, ¬ Verifies options answer checked trace) :
    OnlyAdds [] (runOn answer arguments) (runOn answer others) := by
  cases stated : expectationOf options with
  | error stop =>
    have loudly : expectationOf options.loud = .error stop := stated
    refine (onlyAdds_failStop options.logPath.text [] stop).congr (fun runId => ?_) fun runId => ?_
    · rw [runOn_of_unstated parsed stated]
    · rw [runOn_of_unstated shown loudly]
      rfl
  | ok expectation =>
    have loudly : expectationOf options.loud = .ok expectation := stated
    cases located : LogSource.ofSetting options.logPath with
    | error refusal =>
      exact .broken (runOn_of_unlocated parsed stated located)
        (runOn_of_unlocated shown loudly located)
    | ok source =>
      cases read : answer source with
      | error report =>
        refine (onlyAdds_cannotRead options.logPath.text report).congr (fun runId => ?_)
          fun runId => ?_
        · rw [runOn_of_stated parsed located stated, read, inspect]
        · rw [runOn_of_stated shown located loudly, read, inspect]
          rfl
      | ok log =>
        by_cases agrees : options.exitCode = options.expectedExitCode
        · cases held : options.holder with
          | nothing =>
            exact .broken (runOn_of_unheld parsed stated located read agrees held)
              (runOn_of_unheld shown loudly located read agrees held)
          | value holder =>
            obtain ⟨checked, trace, verifies⟩ := exists_verifies stated located read agrees held
            exact absurd verifies (unreached checked trace)
        · refine (onlyAdds_exitMismatch options options.logPath.text).congr (fun runId => ?_)
            fun runId => ?_
          · rw [runOn_of_exitDiffers parsed stated located read agrees]
          · rw [runOn_of_exitDiffers shown loudly located read agrees]
            rfl

theorem shows_of_verifies (verifies : Verifies options answer checked trace) :
    List.Forall₂ Event.Shows trace.events (trace.events.map Event.line) := by
  cases verifies with
  | @intro expectation source log holder _ _ stated located read agrees held recorded =>
    have kept : ((checkOf options expectation holder log).recorded Trace.empty).2 = trace :=
      congrArg Prod.snd recorded
    exact kept ▸ Run.shows_lines_of_recorded (List.Subset.refl _)

theorem isOneLine_of_verifies (verifies : Verifies options answer checked trace)
    (answered : Answered checked) : ∀ line ∈ trace.events.map Event.line, line.IsOneLine := by
  obtain ⟨stated, located, read, agrees, held, recorded⟩ := verifies
  have loudly : (checkOf options.loud _ _ _).recorded Trace.empty = (checked, trace) := recorded
  have listed := (listed_of_checked loudly (by rwa [loudly])).2
  have all : shownEvents options.loud trace.events = trace.events := if_pos rfl
  rw [all] at listed
  exact List.forall_mem_map.mpr fun event member => (listed event member).2

/-- A check that answers lets the run print its summary. -/
theorem exists_ended_of_verifies (parsed : parse arguments = .ok options)
    (verifies : Verifies options answer checked trace) (answered : Answered checked)
    (runId : Text) : ∃ code output, runOn answer arguments runId = .ended code output := by
  obtain ⟨stated, located, read, agrees, held, recorded⟩ := verifies
  rw [runOn_of_checked parsed stated located read agrees held recorded]
  cases checked with
  | ok passed => exact ⟨_, _, rfl⟩
  | error stop =>
    cases stop with
    | fault fault cause => exact ⟨_, _, rfl⟩
    | refused refusal => exact absurd rfl (answered refusal)

/-- Showing the events changes neither how a run ends nor what it prints behind them. They are those
that the check records up to its end, each shown in one line by its identifier, its kind and its data,
and none if the check is not reached. -/
theorem run_verbose (parsed : parse arguments = .ok options) (quiet : options.verbose = false) :
    parse ("--verbose".toList :: arguments) = .ok options.loud ∧
      ∀ others, parse others = .ok options.loud → ∀ answer,
        (∀ checked trace, Verifies options answer checked trace →
          ∃ lines, List.Forall₂ Event.Shows trace.events lines ∧
            OnlyAdds lines (runOn answer arguments) (runOn answer others) ∧
            (Answered checked → (∀ line ∈ lines, line.IsOneLine) ∧
              ∀ runId, ∃ code output, runOn answer arguments runId = .ended code output)) ∧
        ((∀ checked trace, ¬ Verifies options answer checked trace) →
          OnlyAdds [] (runOn answer arguments) (runOn answer others)) := by
  refine ⟨by rw [parse_verbose, parsed]; rfl, fun others shown answer => ⟨?_, ?_⟩⟩
  · intro checked trace verifies
    refine ⟨_, shows_of_verifies verifies, onlyAdds_of_verifies parsed quiet shown verifies,
      fun answered => ?_⟩
    exact ⟨isOneLine_of_verifies verifies answered,
      exists_ended_of_verifies parsed verifies answered⟩
  · exact onlyAdds_of_unreached parsed shown

/-! ### A run that fails -/

def isbArguments : List Text := ["--log-path".toList, nopPath, "--inst".toList, "isb".toList]

def isbOptions : Options := { nopOptions with instruction := .value "isb".toList }

theorem isbRun_verbose :
    parse isbArguments = .ok isbOptions ∧
      (runOn readsNop isbArguments []).passes = false ∧
      ∃ checked trace lines, Verifies isbOptions readsNop checked trace ∧
        List.Forall₂ Event.Shows trace.events lines ∧
        OnlyAdds lines (runOn readsNop isbArguments)
          (runOn readsNop ("--verbose".toList :: isbArguments)) := by
  have parsed : parse isbArguments = .ok isbOptions := rfl
  have stated : expectationOf isbOptions = .ok (.repeated .isb 1) := rfl
  have held : isbOptions.holder = .value Markers.defaultHolder := rfl
  obtain ⟨checked, trace, verifies⟩ := exists_verifies stated rfl readsNop_nopPath rfl held
  obtain ⟨shown, both⟩ := run_verbose parsed rfl
  obtain ⟨lines, each, adds, _⟩ := (both _ shown readsNop).1 checked trace verifies
  exact ⟨parsed, by decide +kernel, checked, trace, lines, verifies, each, adds⟩

end SpinWait.CommandLine
