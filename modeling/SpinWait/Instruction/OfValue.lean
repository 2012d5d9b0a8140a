import SpinWait.Fault.Acceptance
import SpinWait.Instruction.AddImmediate

namespace SpinWait

/-! Words and delays as callers hand them over. -/

/-- Reads an image; the fault carries the token, or its written form if it is no text. -/
def Word.ofToken (token : Value) : Except Stop Word :=
  match token.text? with
  | none => (Fault.malformedHex (.text token.written) (.text ImageDefect.notText.reason)).raise
  | some image =>
    match ofImage image with
    | .ok word => .ok word
    | .error defect => (Fault.malformedHex token (.text defect.reason)).raise

/-- The word that a number or a flag stands for. -/
def Word.ofValue (value : Value) : Except Stop Word :=
  match value.integer? with
  | some n => .ok (ofInt n)
  | none => .error (.refused .wrongKind)

namespace AddImmediate

/-- A delay is a whole number from 0 to `maxDelay`; a flag is none. -/
def delayOf (value : Value) : Except Stop { delay : Nat // delay ≤ maxDelay } :=
  match value with
  | .number (.ofNat delay) =>
    if fits : delay ≤ maxDelay then .ok ⟨delay, fits⟩
    else (Fault.invalidDelay value (.number maxDelay)).raise
  | _ => (Fault.invalidDelay value (.number maxDelay)).raise

def defect : Text := "not an add x8, x8, #imm instruction".toList

def decode (word : Word) : Except Stop Nat :=
  match decode? word with
  | some immediate => .ok immediate
  | none => (Fault.malformedHex (.text word.image) (.text defect)).raise

end AddImmediate

end SpinWait
