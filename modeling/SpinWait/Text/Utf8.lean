import SpinWait.Text.Basic

namespace SpinWait.Text

/-! Text as UTF-8 bytes. Reading never fails: each maximal beginning of a sequence that cannot be
completed, and each byte that begins none, becomes one U+FFFD. -/

def utf8 (text : Text) : List UInt8 := text.flatMap String.utf8EncodeChar

def replacement : Char := '\uFFFD'

/-- What a lead byte announces: the number of bytes that follow, its own share of the code point,
and the range of the first byte that follows. The range leaves out longer forms of a shorter
sequence, surrogates, and what lies beyond U+10FFFF. -/
structure Lead where
  follows : Nat
  share : Nat
  low : UInt8
  high : UInt8

def lead? (byte : UInt8) : Option Lead :=
  if byte < 0xC2 then none
  else if byte < 0xE0 then some ⟨1, byte.toNat - 0xC0, 0x80, 0xBF⟩
  else if byte < 0xF0 then
    some ⟨2, byte.toNat - 0xE0, if byte = 0xE0 then 0xA0 else 0x80,
      if byte = 0xED then 0x9F else 0xBF⟩
  else if byte < 0xF5 then
    some ⟨3, byte.toNat - 0xF0, if byte = 0xF0 then 0x90 else 0x80,
      if byte = 0xF4 then 0x8F else 0xBF⟩
  else none

/-- Reads the bytes that follow. At one out of range the sequence breaks off, and what was read of
it stays read. -/
def following : Nat → Nat → UInt8 → UInt8 → List UInt8 → Option Nat × List UInt8
  | 0, point, _, _, bytes => (some point, bytes)
  | _ + 1, _, _, _, [] => (none, [])
  | count + 1, point, low, high, byte :: bytes =>
    if low ≤ byte && byte ≤ high then
      following count (point * 64 + (byte.toNat - 0x80)) 0x80 0xBF bytes
    else (none, byte :: bytes)

theorem following_length (count point : Nat) (low high : UInt8) (bytes : List UInt8) :
    (following count point low high bytes).2.length ≤ bytes.length := by
  induction bytes generalizing count point low high with
  | nil => cases count <;> simp [following]
  | cons byte bytes ih =>
    cases count with
    | zero => simp [following]
    | succ count =>
      unfold following
      split
      · exact Nat.le_succ_of_le (ih ..)
      · simp

def ofUtf8 : List UInt8 → Text
  | [] => []
  | byte :: bytes =>
    if byte < 0x80 then Char.ofNat byte.toNat :: ofUtf8 bytes
    else match lead? byte with
      | none => replacement :: ofUtf8 bytes
      | some lead =>
        let read := following lead.follows lead.share lead.low lead.high bytes
        (read.1.map Char.ofNat).getD replacement :: ofUtf8 read.2
termination_by bytes => bytes.length
decreasing_by
  all_goals simp only [List.length_cons]
  · omega
  · omega
  · have := following_length lead.follows lead.share lead.low lead.high bytes
    omega

end SpinWait.Text
