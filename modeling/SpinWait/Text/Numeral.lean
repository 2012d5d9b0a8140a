import SpinWait.Text.Blank
import SpinWait.Text.Digit

namespace SpinWait.Numeral

/-! Whole numbers as text. Numerals of more than `maxDigits` decimal digits are neither read nor
written; other bases have no limit. -/

def maxDigits : Nat := 4300

def decimal (n : Nat) : Text := Nat.toDigits 10 n

def signed : Int → Text
  | .ofNat n => decimal n
  | .negSucc n => '-' :: decimal (n + 1)

def isWritable (n : Int) : Bool := (decimal n.natAbs).length ≤ maxDigits

/-- Exactly `width` hexadecimal digits; higher digits are lost. -/
def fixedHex : Nat → Nat → Text
  | 0, _ => []
  | width + 1, n => fixedHex width (n / 16) ++ [Nat.digitChar (n % 16)]

/-- The number with these digits, the highest first. -/
def ofDigits (base : Nat) (digits : List Nat) : Nat :=
  digits.foldl (fun value digit => value * base + digit) 0

/-- The value of a digit `0` to `9` or `a` to `f`. -/
def lowerHexValue? (c : Char) : Option Nat :=
  if '0' ≤ c && c ≤ '9' then some (c.toNat - '0'.toNat)
  else if 'a' ≤ c && c ≤ 'f' then some (c.toNat - 'a'.toNat + 10)
  else none

/-- The value of a hexadecimal digit, in either case. -/
def hexValue? (c : Char) : Option Nat :=
  if 'A' ≤ c && c ≤ 'F' then some (c.toNat - 'A'.toNat + 10) else lowerHexValue? c

/-- White space that may stand around a numeral: all of it but the separators U+001C to U+001F. -/
def isMargin (c : Char) : Bool :=
  c ∈ ['\t', '\n', '\x0b', '\x0c', '\r', ' '] || (128 ≤ c.toNat && Text.isBlank c)

/-- Digits of any script; one underscore may stand between two of them. -/
def digitRun : Text → Option (List Nat)
  | [] => none
  | [c] => (Text.digitValue? c).map ([·])
  | c :: '_' :: rest => do
    let digit ← Text.digitValue? c
    let digits ← digitRun rest
    pure (digit :: digits)
  | c :: rest => do
    let digit ← Text.digitValue? c
    let digits ← digitRun rest
    pure (digit :: digits)

def readUnsigned? (text : Text) : Option Nat := do
  let digits ← digitRun text
  if digits.length ≤ maxDigits then some (ofDigits 10 digits) else none

/-- Reads a number with an optional sign and white space around it. Leading zeros are allowed and
count as digits. -/
def read? (text : Text) : Option Int :=
  match ((text.dropWhile isMargin).reverse.dropWhile isMargin).reverse with
  | '-' :: digits => (readUnsigned? digits).map fun n => -(n : Int)
  | '+' :: digits => (readUnsigned? digits).map fun n => (n : Int)
  | digits => (readUnsigned? digits).map fun n => (n : Int)

end SpinWait.Numeral
