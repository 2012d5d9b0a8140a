import SpinWait.Value.Notation

namespace SpinWait.CommandLine

/-- What an option is given. Two dashes are no value: an option that carries them is given
nothing. -/
inductive Setting (α : Type)
  | value (value : α)
  | nothing
deriving DecidableEq

namespace Setting

def ofText (text : Text) : Setting Text := if text = "--".toList then nothing else value text

/-- Nothing counts as a list without items. -/
def asValue {α : Type} (toValue : α → Value) : Setting α → Value
  | value given => toValue given
  | nothing => .list []

/-- A text as it stands, in messages and markers. -/
def text (setting : Setting Text) : Text := (setting.asValue .text).shown

def number (setting : Setting Int) : Text := (setting.asValue .number).shown

end Setting

end SpinWait.CommandLine
