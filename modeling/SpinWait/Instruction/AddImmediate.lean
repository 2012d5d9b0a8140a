import SpinWait.Instruction.Word

namespace SpinWait.AddImmediate

/-! The instruction `add x8, x8, #imm`. Its immediate has twelve bits, from bit 10 on; bit 22 says
that they count in units of 4096. -/

/-- The largest delay of a counter idiom, which is one unit of 4096. -/
def maxDelay : Nat := 4096

/-- `add x8, x8, #0`. -/
def base : Nat := 0x91000108

def immediateField (word : Word) : Nat := word.val / 0x400 % 0x1000

def shiftField (word : Word) : Nat := word.val / 0x400000 % 2

/-- What is left without the two fields: the bits above them and the bits below. -/
def opcode (word : Nat) : Nat × Nat := (word / 0x800000, word % 0x400)

/-- The word for a delay; one that needs more than twelve bits is written in units of 4096. -/
def encode (delay : Nat) : Nat :=
  if delay < 0x1000 then base + delay * 0x400
  else base + 0x400000 + delay / 0x1000 * 0x400

/-- The immediate of a word, if the word is such an instruction. -/
def decode? (word : Word) : Option Nat :=
  if opcode word.val = opcode base then
    some (immediateField word * if shiftField word = 1 then 0x1000 else 1)
  else none

/-- An immediate as a disassembler writes it: digits in base 16 or 10, and whether they count in
units of 4096. -/
structure Written where
  base : Nat
  digits : List Nat
  shifted : Bool

def Written.value (immediate : Written) : Nat :=
  Numeral.ofDigits immediate.base immediate.digits * if immediate.shifted then 0x1000 else 1

/-- A decimal numeral within the limit on digits; hexadecimal has none. -/
def Written.isReadable (immediate : Written) : Bool :=
  immediate.base == 16 || immediate.digits.length ≤ Numeral.maxDigits

def decimalValue? (c : Char) : Option Nat :=
  if '0' ≤ c && c ≤ '9' then some (c.toNat - '0'.toNat) else none

/-- What follows the digits: nothing, or the unit of 4096. Behind either, one last line feed is
overlooked. -/
def unit? (rest : Text) : Option Bool :=
  if rest = [] ∨ rest = ['\n'] then some false
  else if rest = ", lsl #12".toList ∨ rest = ", lsl #12\n".toList then some true
  else none

/-- `0x` and lower-case hexadecimal digits, or decimal digits that have no leading zero. -/
def written? (text : Text) : Option Written :=
  match text with
  | '0' :: 'x' :: rest => do
    let digits ← (rest.takeWhile fun c => (Numeral.lowerHexValue? c).isSome).mapM
      Numeral.lowerHexValue?
    let shifted ← unit? (rest.dropWhile fun c => (Numeral.lowerHexValue? c).isSome)
    if digits.isEmpty then none else some ⟨16, digits, shifted⟩
  | '0' :: rest => do
    let shifted ← unit? rest
    some ⟨10, [0], shifted⟩
  | _ => do
    let digits ← (text.takeWhile fun c => (decimalValue? c).isSome).mapM decimalValue?
    let shifted ← unit? (text.dropWhile fun c => (decimalValue? c).isSome)
    if digits.isEmpty then none else some ⟨10, digits, shifted⟩

def mnemonicStart : Text := "add x8, x8, #".toList

/-- Reads the whole instruction in its normal form. -/
def ofMnemonic? (instruction : Text) : Option Written :=
  if mnemonicStart.isPrefixOf instruction then written? (instruction.drop mnemonicStart.length)
  else none

end SpinWait.AddImmediate
