import SpinWait.Text.Basic

namespace SpinWait

/-- The instructions that a processor takes as a hint that the program waits in a loop. -/
inductive Hint
  | nop
  | isb
  | yield
deriving DecidableEq, Repr

namespace Hint

def all : List Hint := [nop, isb, yield]

/-- The name on the command line, which is also the mnemonic. -/
def name : Hint → Text
  | nop => "nop".toList
  | isb => "isb".toList
  | yield => "yield".toList

/-- The instruction word as a log without a disassembler shows it. -/
def wordText : Hint → Text
  | nop => "1f20 03d5".toList
  | isb => "df3f 03d5".toList
  | yield => "3f20 03d5".toList

def ofName? (name : Text) : Option Hint := all.find? fun hint => hint.name = name

theorem ofName?_name (hint : Hint) : ofName? hint.name = some hint := by
  cases hint <;> rfl

theorem name_injective {left right : Hint} (equal : left.name = right.name) : left = right := by
  have := ofName?_name left
  rw [equal, ofName?_name] at this
  exact (Option.some.inj this).symm

theorem wordText_injective {left right : Hint} (equal : left.wordText = right.wordText) :
    left = right := by
  revert equal
  cases left <;> cases right <;> decide

end Hint

end SpinWait
