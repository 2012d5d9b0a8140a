import SpinWait.Text.Numeral

namespace SpinWait

/-- An instruction word. -/
abbrev Word := Fin (0x100000000)

namespace Word

/-! Instruction words and their images: a log without a disassembler shows the four bytes of a word
in memory order, the lowest first, as two groups of four hexadecimal digits. -/

/-- Every whole number stands for a word, modulo 2^32. -/
def ofInt (n : Int) : Word := Fin.ofNat (0x100000000) (n % 0x100000000).toNat

/-- The byte at a position, counted from the lowest. -/
def byte (word : Word) (position : Nat) : Nat := word.val >>> (8 * position) % 0x100

theorem byte_lt (word : Word) (position : Nat) : word.byte position < 0x100 :=
  Nat.mod_lt _ (by decide)

theorem val_eq_bytes (word : Word) :
    word.val = word.byte 3 * 0x1000000 + word.byte 2 * 0x10000 + word.byte 1 * 0x100 + word.byte 0 := by
  simp only [byte]
  omega

/-- The word with these bytes, the highest first. -/
def ofBytes (a b c d : Nat) : Word :=
  Fin.ofNat (0x100000000) (a * 0x1000000 + b * 0x10000 + c * 0x100 + d)

/-- The same bytes in the opposite order. -/
def reverseBytes (word : Word) : Word :=
  ofBytes (word.byte 0) (word.byte 1) (word.byte 2) (word.byte 3)

theorem val_reverseBytes (word : Word) : word.reverseBytes.val =
    word.byte 0 * 0x1000000 + word.byte 1 * 0x10000 + word.byte 2 * 0x100 + word.byte 3 := by
  have low := word.byte_lt 0
  have second := word.byte_lt 1
  have third := word.byte_lt 2
  have high := word.byte_lt 3
  simp only [reverseBytes, ofBytes, Fin.ofNat]
  omega

theorem reverseBytes_reverseBytes (word : Word) : word.reverseBytes.reverseBytes = word := by
  have low := word.byte_lt 0
  have second := word.byte_lt 1
  have third := word.byte_lt 2
  have high := word.byte_lt 3
  apply Fin.ext
  rw [val_reverseBytes, val_eq_bytes word]
  simp only [byte, val_reverseBytes] at *
  omega

def image (word : Word) : Text :=
  let bytes := (reverseBytes word).val
  Numeral.fixedHex 4 (bytes / 0x10000) ++ ' ' :: Numeral.fixedHex 4 (bytes % 0x10000)

/-- Why a text is not the image of a word. -/
inductive ImageDefect
  | notText
  | grouping
  | width
  | digit
deriving DecidableEq, Repr

def ImageDefect.reason : ImageDefect → Text
  | notText => "not a string".toList
  | grouping => "expected two space-separated groups".toList
  | width => "each group must have four digits".toList
  | digit => "non-hex character".toList

def readGroup (group : Text) : Except ImageDefect Nat :=
  if group.length ≠ 4 then .error .width
  else match group.mapM Numeral.hexValue? with
    | some digits => .ok (Numeral.ofDigits 16 digits)
    | none => .error .digit

/-- Reads an image. The first group is judged before the second, and its width before its digits. -/
def ofImage (image : Text) : Except ImageDefect Word :=
  match image.fields ' ' with
  | [first, second] => do
    let high ← readGroup first
    let low ← readGroup second
    .ok (reverseBytes (Fin.ofNat (0x100000000) (high * 0x10000 + low)))
  | _ => .error .grouping

end Word

end SpinWait
