import SpinWait.Proofs.Check.OneLine
import SpinWait.Report

namespace SpinWait

open Text

/-! A summary is printed line by line, and what is put into a line does not end it. -/

variable {record : FailureRecord} {passed : Check.Passed} {run : RunInfo}

theorem isOneLine_runIdOf (year : Int) (month day : Nat) (random : List UInt8) :
    (runIdOf year month day random).IsOneLine := by
  have opening : Text.IsOneLine "RUN-".toList := by decide
  have bar : isLineBreak '-' = false := by decide
  have upper : ∀ digit < 16, isLineBreak (Nat.digitChar digit).toUpper = false := by decide
  have digits : Text.IsOneLine
      ((random.flatMap fun byte => Numeral.fixedHex 2 byte.toNat).map Char.toUpper) := by
    intro c member
    obtain ⟨digit, among, rfl⟩ := List.mem_map.mp member
    obtain ⟨byte, _, inside⟩ := List.mem_flatMap.mp among
    obtain ⟨value, bounded, rfl⟩ := mem_fixedHex inside
    exact upper value bounded
  unfold runIdOf
  simp only [isOneLine_append, isOneLine_cons, isOneLine_padZeros, Numeral.isOneLine_signed,
    Numeral.isOneLine_decimal, opening, bar, digits, and_self]

theorem isOneLine_version : version.IsOneLine := by decide

theorem FailureType.isOneLine_name (type : FailureType) : type.name.IsOneLine := by
  cases type <;> decide

/-- Identifier and path of a run are shown on one line each. -/
structure RunInfo.IsOneLine (run : RunInfo) : Prop where
  runId : run.runId.IsOneLine
  logPath : run.logPath.IsOneLine

/-! ### A failed run -/

namespace FailureRecord

def heading : Text := "SPINCHECK RESULT: FAIL".toList

/-- The lines of the summary. -/
def block (record : FailureRecord) : List Text :=
  [heading,
    "Failure type:   ".toList ++ record.failureType,
    "Exit code:      ".toList ++ Numeral.decimal record.exitCode,
    "Subject:        ".toList ++ (if record.subject.isEmpty then notApplicable else record.subject),
    "Log:            ".toList ++ record.run.logPath,
    "Run ID:         ".toList ++ record.run.runId,
    "Detail:         ".toList ++ record.detail]

theorem summary_eq (record : FailureRecord) :
    record.summary = record.block.flatMap (· ++ ['\n']) := by
  have first : "SPINCHECK RESULT: FAIL\n".toList = heading ++ "\n".toList := by decide
  have newline : "\n".toList = ['\n'] := rfl
  unfold summary block
  simp only [first, newline, List.flatMap_cons, List.flatMap_nil, List.append_assoc,
    List.append_nil]

/-- What the summary shows is on one line each. -/
structure IsOneLine (record : FailureRecord) : Prop where
  failureType : record.failureType.IsOneLine
  subject : record.subject.IsOneLine
  run : record.run.IsOneLine
  detail : record.detail.IsOneLine

theorem IsOneLine.block (oneLine : record.IsOneLine) : ∀ line ∈ record.block, line.IsOneLine := by
  have titles : heading.IsOneLine ∧ Text.IsOneLine "Failure type:   ".toList ∧
      Text.IsOneLine "Exit code:      ".toList ∧ Text.IsOneLine "Subject:        ".toList ∧
      Text.IsOneLine "Log:            ".toList ∧ Text.IsOneLine "Run ID:         ".toList ∧
      Text.IsOneLine "Detail:         ".toList := by decide
  have subject : (if record.subject.isEmpty then notApplicable else record.subject).IsOneLine := by
    split
    · decide
    · exact oneLine.subject
  unfold FailureRecord.block
  simp only [List.forall_mem_cons, isOneLine_append, titles, subject, oneLine.failureType,
    oneLine.run.logPath, oneLine.run.runId, oneLine.detail, Numeral.isOneLine_decimal,
    List.not_mem_nil, false_implies, implies_true, and_self]

end FailureRecord

/-! ### A run that passed -/

namespace Check.Passed

def heading : Text := "SPINCHECK RESULT: PASS".toList

def block (passed : Passed) (run : RunInfo) (lineCount : Nat) : List Text :=
  [heading,
    "Run ID:          ".toList ++ run.runId,
    "Harness version: ".toList ++ version,
    "Log:             ".toList ++ run.logPath ++ " (".toList ++ Numeral.decimal lineCount ++
      " lines)".toList,
    "Format:          ".toList ++ passed.layout.name,
    "Detail:          ".toList ++ passed.detail]

theorem summary_eq (passed : Passed) (run : RunInfo) (lineCount : Nat) :
    passed.summary run lineCount = (passed.block run lineCount).flatMap (· ++ ['\n']) := by
  have first : "SPINCHECK RESULT: PASS\n".toList = heading ++ "\n".toList := by decide
  have counted : " lines)\n".toList = " lines)".toList ++ "\n".toList := by decide
  have newline : "\n".toList = ['\n'] := rfl
  unfold summary block
  simp only [first, counted, newline, List.flatMap_cons, List.flatMap_nil, List.append_assoc,
    List.append_nil]

theorem isOneLine_block (detailed : passed.detail.IsOneLine) (informed : run.IsOneLine)
    (lineCount : Nat) : ∀ line ∈ passed.block run lineCount, line.IsOneLine := by
  have titles : heading.IsOneLine ∧ Text.IsOneLine "Run ID:          ".toList ∧
      Text.IsOneLine "Harness version: ".toList ∧ Text.IsOneLine "Log:             ".toList ∧
      Text.IsOneLine " (".toList ∧ Text.IsOneLine " lines)".toList ∧
      Text.IsOneLine "Format:          ".toList ∧ Text.IsOneLine "Detail:          ".toList := by
    decide
  unfold block
  simp only [List.forall_mem_cons, isOneLine_append, titles, detailed, informed.runId,
    informed.logPath, isOneLine_version, passed.layout.isOneLine_name, Numeral.isOneLine_decimal,
    List.not_mem_nil, false_implies, implies_true, and_self]

end Check.Passed

end SpinWait
