import SpinWait.Proofs.Instruction.Immediate
import SpinWait.Proofs.Text.Trim

namespace SpinWait

/-! The image of a word is read as that word. -/

namespace Numeral

theorem hexValue?_digitChar {digit : Nat} (small : digit < 16) :
    hexValue? (Nat.digitChar digit) = some digit := by
  revert digit
  decide

theorem fixedHex_four (n : Nat) : fixedHex 4 n =
    [n / 4096 % 16, n / 256 % 16, n / 16 % 16, n % 16].map Nat.digitChar := by
  simp [fixedHex, Nat.div_div_eq_div_mul]

theorem not_mem_fixedHex (n : Nat) : ' ' ∉ fixedHex 4 n := by
  have visible : ∀ digit < 16, Nat.digitChar digit ≠ ' ' := by decide
  rw [fixedHex_four, List.mem_map]
  intro present
  obtain ⟨digit, member, blank⟩ := present
  have small : digit < 16 := by
    simp only [List.mem_cons, List.not_mem_nil, or_false] at member
    omega
  exact visible digit small blank

end Numeral

namespace Word

theorem readGroup_fixedHex {n : Nat} (small : n < 0x10000) :
    readGroup (Numeral.fixedHex 4 n) = .ok n := by
  have width : (Numeral.fixedHex 4 n).length = 4 := by rw [Numeral.fixedHex_four]; rfl
  have digits : (Numeral.fixedHex 4 n).mapM Numeral.hexValue? =
      some [n / 4096 % 16, n / 256 % 16, n / 16 % 16, n % 16] := by
    have bound (k : Nat) : k % 16 < 16 := Nat.mod_lt _ (by decide)
    simp [Numeral.fixedHex_four, List.mapM_cons, Numeral.hexValue?_digitChar (bound _)]
  have value : Numeral.ofDigits 16 [n / 4096 % 16, n / 256 % 16, n / 16 % 16, n % 16] = n := by
    simp only [Numeral.ofDigits, List.foldl_cons, List.foldl_nil]
    omega
  simp [readGroup, width, digits, value]

theorem ofImage_of_fields {image first second : Text} {high low : Nat}
    (parts : image.fields ' ' = [first, second]) (readHigh : readGroup first = .ok high)
    (readLow : readGroup second = .ok low) :
    ofImage image = .ok (reverseBytes (Fin.ofNat (0x100000000) (high * 0x10000 + low))) := by
  simp only [ofImage, parts, readHigh, readLow, bind, Except.bind]

theorem ofImage_image (word : Word) : ofImage word.image = .ok word := by
  obtain ⟨bytes, swapped⟩ : ∃ bytes, reverseBytes word = bytes := ⟨_, rfl⟩
  have high : bytes.val / 0x10000 < 0x10000 := by omega
  have low : bytes.val % 0x10000 < 0x10000 := Nat.mod_lt _ (by decide)
  have parts : word.image.fields ' ' =
      [Numeral.fixedHex 4 (bytes.val / 0x10000), Numeral.fixedHex 4 (bytes.val % 0x10000)] := by
    rw [image, swapped, Text.fields_append (Numeral.not_mem_fixedHex _),
      Text.fields_of_not_mem (Numeral.not_mem_fixedHex _)]
  have whole : Fin.ofNat (0x100000000) (bytes.val / 0x10000 * 0x10000 + bytes.val % 0x10000) = bytes := by
    rw [Nat.div_add_mod', Fin.ofNat_val_eq_self]
  rw [ofImage_of_fields parts (readGroup_fixedHex high) (readGroup_fixedHex low), whole, ← swapped,
    reverseBytes_reverseBytes]

end Word

namespace AddImmediate

/-- A delay is found again in the word that it is encoded in, though one unit of 4096 only if it is
all there is. -/
theorem encodes_encode {delay : Nat} (fits : delay ≤ maxDelay) :
    Encodes (Word.ofInt (encode delay)) delay := by
  have value : (Word.ofInt (encode delay)).val = encode delay := by
    have : encode delay < 0x100000000 := by
      simp only [encode, base, maxDelay] at fits ⊢
      split <;> omega
    simp only [Word.ofInt, Fin.ofNat]
    omega
  by_cases small : delay < 0x1000
  · refine ⟨delay, small, false, ?_, by simp⟩
    rw [value, encode, if_pos small]
    rfl
  · have largest : delay = 0x1000 := by
      unfold maxDelay at fits
      omega
    refine ⟨1, by decide, true, ?_, by simp [largest]⟩
    rw [value, encode, if_neg small, largest]
    rfl

end AddImmediate

end SpinWait
