import SpinWait.Text.Blank
import SpinWait.Text.Lowercase
import SpinWait.Text.Numeral

namespace SpinWait.Log

/-! From log lines to instruction tokens. A line holds an address and then either instruction words
between bars or one instruction in mnemonic form; `;` begins a comment and `#` an annotation. -/

/-- How a log shows instructions. -/
inductive Layout
  | hex
  | mnemonic
deriving DecidableEq, Repr

namespace Layout

def name : Layout → Text
  | hex => "HEX".toList
  | mnemonic => "MNEMONIC".toList

/-- Every name but that of the hexadecimal layout stands for the mnemonic one. -/
def ofName (name : Text) : Layout := if name = hex.name then hex else mnemonic

/-- A bar in any of the lines shows that they hold instruction words. -/
def detect (lines : List Text) : Layout :=
  if lines.any fun line => line.contains '|' then hex else mnemonic

end Layout

/-- Every run of blanks becomes one blank, namely its last. -/
def collapseBlanks : Text → Text
  | [] => []
  | c :: rest =>
    if c = ' ' ∧ rest.head? = some ' ' then collapseBlanks rest else c :: collapseBlanks rest

/-- One blank for every run of blanks and tabs, no white space at the ends, all in lower case. -/
def normalize (line : Text) : Text :=
  (collapseBlanks (line.map fun c => if c = '\t' then ' ' else c)).trim.lower

/-- What follows an address: `:` and then a blank, the end, or one last line feed. Of these only the
colon and the blank are dropped. -/
def afterAddress? : Text → Option Text
  | [':'] => some []
  | [':', '\n'] => some ['\n']
  | ':' :: ' ' :: rest => some rest
  | _ => none

def isAddressDigit (c : Char) : Bool := (Numeral.lowerHexValue? c).isSome

/-- Drops an address `0x…:` from the start of a line, if there is one. -/
def stripAddress (line : Text) : Text :=
  match line with
  | '0' :: 'x' :: first :: rest =>
    if isAddressDigit first then (afterAddress? (rest.dropWhile isAddressDigit)).getD line
    else line
  | _ => line

/-- The line mentions an address and has no comment. -/
def isInstructionLine (line : Text) : Bool :=
  line.mentions "0x".toList && !line.contains ';'

/-- What a line says apart from its address and its comment. -/
def content (line : Text) : Text := ((stripAddress (normalize line)).before ';').trim

def tokenize (layout : Layout) (line : Text) : List Text :=
  match content line with
  | [] => []
  | '#' :: _ => []
  | text =>
    match layout with
    | .hex => ((text.fields '|').map Text.trim).filter fun piece => !piece.isEmpty
    | .mnemonic => [text]

def tokenizeAll (layout : Layout) (lines : List Text) : List Text := lines.flatMap (tokenize layout)

end SpinWait.Log
