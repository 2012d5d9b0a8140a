import SpinWait.Text.Basic
import SpinWait.Text.CodePoints

namespace SpinWait.Text

/-! White space: the characters with the Unicode property, and the four separators U+001C to
U+001F. Neither U+200B nor U+FEFF is among them. -/

def blanks : CodePoints := [
  (0x9, 0xD), (0x1C, 0x20), (0x85, 0x85), (0xA0, 0xA0), (0x1680, 0x1680),
  (0x2000, 0x200A), (0x2028, 0x2029), (0x202F, 0x202F), (0x205F, 0x205F), (0x3000, 0x3000)]

def isBlank (c : Char) : Bool := blanks.covers c.toNat

theorem isBlank_iff {c : Char} :
    isBlank c = true ↔ ∃ range ∈ blanks, range.1 ≤ c.toNat ∧ c.toNat ≤ range.2 :=
  CodePoints.covers_iff (show CodePoints.ascendFrom 0 blanks = true by decide)

def trimStart (text : Text) : Text := text.dropWhile isBlank

def trimEnd (text : Text) : Text := (text.reverse.dropWhile isBlank).reverse

/-- Drops white space at both ends. -/
def trim (text : Text) : Text := text.trimStart.trimEnd

end SpinWait.Text
