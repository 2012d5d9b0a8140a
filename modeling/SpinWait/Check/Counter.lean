import SpinWait.Check.Repeated

namespace SpinWait.Check

open Log

/-! Recognising the counter loop: the cycle counter is read, the delay is added to it, and a hint, a
second reading and a comparison are repeated until the sum is reached. -/

/-- The instructions of the loop after the first. -/
inductive Slot
  | add
  | hint
  | read
  | compare
  | branch
deriving DecidableEq, Repr

namespace Slot

def all : List Slot := [add, hint, read, compare, branch]

/-- The first instruction has number 0. -/
def number : Slot → Nat
  | add => 1
  | hint => 2
  | read => 3
  | compare => 4
  | branch => 5

def addName (delay : Nat) : Text := AddImmediate.mnemonicStart ++ Numeral.decimal delay

def readName : Text := "mrs x9, cntvct_el0".toList

def compareName : Text := "cmp x9, x8".toList

/-- The mnemonic of the branch without its target, which varies. -/
def branchName : Text := "b.lt".toList

def readWord : Text := "49e0 3bd5".toList

def compareWord : Text := "3f01 08eb".toList

/-- The branch goes back by three instructions. -/
def branchWord : Text := "abff ff54".toList

/-- What stands in a slot, as faults name it. -/
def expected (delay : Nat) (spin : Hint) : Slot → Text
  | add => addName delay
  | hint => spin.name
  | read => readName
  | compare => compareName
  | branch => branchName

end Slot

def anchorName : Text := "mrs x8, cntvct_el0".toList

/-- The token of the first instruction. -/
def anchor : Layout → Text
  | .hex => "48e0 3bd5".toList
  | .mnemonic => anchorName

/-- What a fault shows where the instructions ran out. -/
def endOfRegion : Text := "<end of method region>".toList

/-- The immediate of an add instruction shown as a word. A token that is no such word is a fault of
the slot, with the fault of the word as its cause. -/
def wordImmediate (delay : Nat) (token : Text) : Except Stop Nat :=
  match (do AddImmediate.decode (← Word.ofToken (.text token)) : Except Stop Nat) with
  | .ok immediate => .ok immediate
  | .error (.fault fault _) =>
    .error ((Fault.idiomMismatch (.number 1) (.text (Slot.addName delay))
      (.text token)).stop (some fault))
  | .error stop => .error stop

/-- The immediate of an add instruction shown by its mnemonic, if the token is one. -/
def mnemonicImmediate? (token : Text) : Except Stop (Option Nat) :=
  match AddImmediate.ofMnemonic? token with
  | none => .ok none
  | some immediate =>
    if immediate.isReadable then .ok (some immediate.value) else .error (.refused .oversized)

/-- The token is the instruction of the slot. Of a branch shown by its mnemonic only the beginning
counts. -/
def accepts (layout : Layout) (delay : Nat) (spin : Hint) (slot : Slot) (token : Text) :
    Except Stop Bool :=
  match slot, layout with
  | .add, .hex => do .ok ((← wordImmediate delay token) == delay)
  | .add, .mnemonic => do .ok ((← mnemonicImmediate? token) == some delay)
  | .hint, layout => .ok (token == hintToken spin layout)
  | .read, .hex => .ok (token == Slot.readWord)
  | .read, .mnemonic => .ok (token == Slot.readName)
  | .compare, .hex => .ok (token == Slot.compareWord)
  | .compare, .mnemonic => .ok (token == Slot.compareName)
  | .branch, .hex => .ok (token == Slot.branchWord)
  | .branch, .mnemonic => .ok (Slot.branchName.isPrefixOf token)

/-- The method's instructions from the first of the loop on, without that one. -/
structure Candidate where
  layout : Layout
  tokens : List Text

/-- The loop is looked for at the first place where its first instruction stands. -/
def candidate (lines : List Text) (markers : Markers) : Run Candidate := do
  let region ← Run.require (methodRegion lines markers)
  Run.note (.markerFound "method".toList region.start)
  let layout := Layout.detect region.body
  Run.note (.formatDetected layout region.body.length)
  let tokens := tokenizeAll layout region.body
  Run.note (.tokensCollected tokens.length none)
  match tokens.dropWhile (· != anchor layout) with
  | [] => Run.fail (.idiomMismatch (.number 0) (.text anchorName) (.text endOfRegion))
  | first :: others =>
    Run.note (.slotMatched 0 first)
    pure ⟨layout, others⟩

/-- The slots hold in order; the first that does not is the fault. -/
def matchSlots (layout : Layout) (delay : Nat) (spin : Hint) : List Slot → List Text → Run Unit
  | [], _ => pure ()
  | slot :: _, [] =>
    Run.fail (.idiomMismatch (.number slot.number) (.text (slot.expected delay spin))
      (.text endOfRegion))
  | slot :: slots, token :: tokens => do
    if ← Run.require (accepts layout delay spin slot token) then
      Run.note (.slotMatched slot.number token)
      matchSlots layout delay spin slots tokens
    else
      Run.fail (.idiomMismatch (.number slot.number) (.text (slot.expected delay spin))
        (.text token))

/-- The method holds the counter loop with this delay and this hint. -/
def counter (lines : List Text) (markers : Markers) (delay : Nat) (spin : Hint) : Run Layout := do
  let found ← candidate lines markers
  matchSlots found.layout delay spin Slot.all found.tokens
  pure found.layout

end SpinWait.Check
