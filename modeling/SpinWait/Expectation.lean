import SpinWait.Instruction.OfValue

namespace SpinWait

/-- What a compiled method must contain: a run of hints of exactly this length before the call
site, or the counter loop with this delay and this hint. -/
inductive Expectation
  | repeated (hint : Hint) (count : Nat)
  | counter (delay : Nat) (hint : Hint) (fits : delay ≤ AddImmediate.maxDelay)
deriving DecidableEq

namespace Expectation

def hintOf (name : Value) : Except Stop Hint :=
  match name.text?.bind Hint.ofName? with
  | some hint => .ok hint
  | none => (Fault.unknownHint name).raise

/-- A count is a whole number that is not negative; a flag is none. -/
def countOf (value : Value) : Except Stop Nat :=
  match value with
  | .number (.ofNat count) => .ok count
  | _ => (Fault.invalidCount value).raise

/-- The instruction is judged before the count. -/
def repeatedOf (instruction count : Value) : Except Stop Expectation := do
  let hint ← hintOf instruction
  let count ← countOf count
  .ok (.repeated hint count)

/-- The delay is judged before the instruction. -/
def counterOf (delay instruction : Value) : Except Stop Expectation := do
  let delay ← AddImmediate.delayOf delay
  let hint ← hintOf instruction
  .ok (.counter delay.1 hint delay.2)

/-- The instruction name that asks for the counter loop. -/
def counterName : Text := "counter".toList

/-- The loop with the delay that a text states. No delay is assumed without one. -/
def counterFrom : Option Text → Except Stop Expectation
  | none => (Fault.invalidDelay .absent (.number AddImmediate.maxDelay)).raise
  | some text =>
    match Numeral.read? text with
    | none => (Fault.invalidDelay (.text text) (.number AddImmediate.maxDelay)).raise
    | some delay => counterOf (.number delay) (.hint .yield)

/-- As many hints as a text states, or one. A text that is no number is refused before the
instruction is looked at. -/
def repeatedFrom (instruction : Value) : Option Text → Except Stop Expectation
  | none => repeatedOf instruction (.number 1)
  | some text =>
    match Numeral.read? text with
    | none => (Fault.invalidCount (.text text)).raise
    | some count => repeatedOf instruction (.number count)

/-- The expectation that an instruction name and the text of a value state. -/
def ofInstruction (instruction : Value) (value : Option Text) : Except Stop Expectation :=
  if instruction.text? = some counterName then counterFrom value
  else repeatedFrom instruction value

def written : Expectation → Text
  | repeated hint count =>
    "Repeated(instruction=".toList ++ (Value.hint hint).written ++ ", count=".toList ++
      Numeral.decimal count ++ ")".toList
  | counter delay hint _ =>
    "FixedIdiom(delay=".toList ++ Numeral.decimal delay ++ ", spin=".toList ++
      (Value.hint hint).written ++ ")".toList

end Expectation

/-- What a caller asks to have checked: an expectation, or some value in its place. -/
inductive Request
  | expectation (expectation : Expectation)
  | other (value : Value)

namespace Request

/-- An expectation and another value never agree. -/
def agrees : Request → Request → Bool
  | expectation left, expectation right => left == right
  | other left, other right => left.agrees right
  | _, _ => false

def isKey : Request → Bool
  | expectation _ => true
  | other value => value.isKey

end Request

end SpinWait
