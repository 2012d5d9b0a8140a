import SpinWait.Check.Run
import SpinWait.Expectation
import SpinWait.Log.Region
import SpinWait.Log.TrailingRun

namespace SpinWait.Check

open Log

/-! Counting the hints before the call site. -/

/-- The instructions that lead up to the call site, and the layout they are shown in. -/
structure Approach where
  layout : Layout
  tokens : List Text

/-- The line after the call site is its frame. -/
def requireFrame (lines : List Text) (markers : Markers) (index : Nat) : Except Stop Unit :=
  match lines[index]? with
  | some line =>
    if line.mentions markers.callSiteFrame then .ok ()
    else (Fault.markerNotFound (.text "call-site frame".toList) (.text markers.callSiteFrame)
      (.number index)).raise
  | none => (Fault.markerNotFound (.text "call-site frame".toList) (.text markers.callSiteFrame)
      (.number index)).raise

/-- The line after the frame holds instructions. -/
def requireInstructions (lines : List Text) (index : Nat) : Except Stop Text :=
  match lines[index]? with
  | some line =>
    if isInstructionLine line then .ok line
    else (Fault.markerNotFound (.text "instructions after call site".toList) (.text "0x".toList)
      (.number index)).raise
  | none => (Fault.markerNotFound (.text "instructions after call site".toList)
      (.text "0x".toList) (.number index)).raise

/-- Where the last instructions before the call are shown: among words, on the line after the frame;
among mnemonics, on the line of the call site itself. -/
def lastTokens (lines : List Text) (call : Hit) : Layout → Except Stop (List Text)
  | .hex => do
    let line ← requireInstructions lines (call.index + 2)
    .ok (tokenize .hex line)
  | .mnemonic => .ok (tokenize .mnemonic call.line)

/-- Header and call site must be unique in the log. The layout is that of the lines from the header
to the one after the frame; lines of the body without an address or with a comment are left out. -/
def approach (lines : List Text) (markers : Markers) : Run Approach := do
  let header ← Run.require (requireUnique lines markers.header "method header".toList)
  Run.note (.markerFound "method header".toList header.index)
  let call ← Run.require (requireFrom lines (header.index + 1) markers.callSite "call site".toList)
  Run.require (checkUnique lines markers.callSite "call site".toList)
  Run.note (.markerFound "call site".toList call.index)
  let afterHeader := lines.drop (header.index + 1)
  let body := afterHeader.take (call.index - (header.index + 1))
  let layout := Layout.detect (afterHeader.take (call.index + 3 - (header.index + 1)))
  Run.note (.formatDetected layout body.length)
  let tokens := tokenizeAll layout (body.filter isInstructionLine)
  Run.require (requireFrame lines markers (call.index + 1))
  let last ← Run.require (lastTokens lines call layout)
  pure ⟨layout, tokens ++ last⟩

/-- The token of a hint. -/
def hintToken (hint : Hint) : Layout → Text
  | .hex => hint.wordText
  | .mnemonic => hint.name

def countHints (hint : Hint) (count : Nat) (approach : Approach) : Run Layout := do
  let target := hintToken hint approach.layout
  Run.note (.tokensCollected approach.tokens.length (some target))
  let found := trailingRun approach.tokens target
  Run.note (.runCounted target found count)
  if found = count then pure approach.layout
  else Run.fail (.countMismatch (.text target) (.number found) (.number count))

/-- The log shows exactly `count` hints before the call site. -/
def repeated (lines : List Text) (markers : Markers) (hint : Hint) (count : Nat) : Run Layout := do
  countHints hint count (← approach lines markers)

end SpinWait.Check
