import SpinWait.Text.Numeral
import SpinWait.Text.Printable

namespace SpinWait.Text

/-! Text between quotes, on one line and without characters that cannot be seen. -/

/-- Single quotes, unless the text holds one of them and no double quote. -/
def quoteMark (text : Text) : Char :=
  if '\'' ∈ text && '"' ∉ text then '"' else '\''

/-- A character that is not shown as itself, by its code point. -/
def escapePoint (n : Nat) : Text :=
  if n < 0x100 then '\\' :: 'x' :: Numeral.fixedHex 2 n
  else if n < 0x10000 then '\\' :: 'u' :: Numeral.fixedHex 4 n
  else '\\' :: 'U' :: Numeral.fixedHex 8 n

def escapeChar (mark c : Char) : Text :=
  if c = mark || c = '\\' then ['\\', c]
  else if c = '\n' then ['\\', 'n']
  else if c = '\r' then ['\\', 'r']
  else if c = '\t' then ['\\', 't']
  else if isPrintable c then [c]
  else escapePoint c.toNat

def quoted (text : Text) : Text :=
  let mark := quoteMark text
  mark :: (text.flatMap (escapeChar mark) ++ [mark])

/-- Bytes between quotes: ASCII as itself, all else by its value. -/
def quotedBytes (bytes : List UInt8) : Text :=
  let chars := bytes.map fun byte => Char.ofNat byte.toNat
  let mark := quoteMark chars
  let escape (c : Char) : Text :=
    if c.toNat < 0x7f then escapeChar mark c else escapePoint c.toNat
  'b' :: mark :: (chars.flatMap escape ++ [mark])

end SpinWait.Text
