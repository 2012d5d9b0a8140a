import SpinWait.Instruction.OfValue
import SpinWait.Proofs.Fault.Wording
import SpinWait.Proofs.Instruction.Immediate

namespace SpinWait

/-! Words and immediates as they are handed over: what is read, or the fault that is raised. -/

theorem Word.ofToken_eq_ok {token : Text} {word : Word} (read : Word.ofImage token = .ok word) :
    Word.ofToken (.text token) = .ok word := by
  simp only [Word.ofToken, Value.text?, read]

theorem Word.ofToken_eq_error {token : Text} {defect : Word.ImageDefect}
    (failed : Word.ofImage token = .error defect) :
    Word.ofToken (.text token) =
      .error (.fault (.malformedHex (.text token) (.text defect.reason)) none) := by
  have explained : defect.reason ≠ [] := by cases defect <;> decide
  simp only [Word.ofToken, Value.text?, failed, Fault.raise, Fault.stop_malformedHex explained]

theorem AddImmediate.decode_eq_ok {word : Word} {immediate : Nat}
    (encodes : AddImmediate.Encodes word immediate) : AddImmediate.decode word = .ok immediate := by
  simp only [AddImmediate.decode, AddImmediate.decode?_eq_some_iff.mpr encodes]

theorem AddImmediate.decode_eq_error {word : Word}
    (other : ∀ immediate, ¬ AddImmediate.Encodes word immediate) :
    AddImmediate.decode word =
      .error (.fault (.malformedHex (.text word.image) (.text AddImmediate.defect)) none) := by
  have explained : AddImmediate.defect ≠ [] := by decide
  simp only [AddImmediate.decode, AddImmediate.decode?_eq_none_iff.mpr other, Fault.raise,
    Fault.stop_malformedHex explained]

end SpinWait
