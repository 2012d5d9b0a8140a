import Mathlib.Tactic.IntervalCases
import SpinWait.Text.Utf8

namespace SpinWait.Text

/-! Text that is written as UTF-8 and read again. -/

variable {point count share value : Nat} {low high byte : UInt8} {bytes : List UInt8}

/-- The byte that carries the last six bits of a value. -/
def trailer (value : Nat) : UInt8 := UInt8.ofNat (value % 64 + 128)

theorem toNat_trailer (value : Nat) : (trailer value).toNat = value % 64 + 128 := by
  have fits : value % 64 + 128 < 256 := by omega
  exact UInt8.toNat_ofNat_of_lt' fits

theorem following_trailer (lower : low.toNat ≤ value % 64 + 128)
    (upper : value % 64 + 128 ≤ high.toNat) :
    following (count + 1) point low high (trailer value :: bytes) =
      following count (point * 64 + value % 64) 0x80 0xBF bytes := by
  have inside : (low ≤ trailer value && trailer value ≤ high) = true := by
    simp only [Bool.and_eq_true, decide_eq_true_eq, UInt8.le_iff_toNat_le, toNat_trailer]
    exact ⟨lower, upper⟩
  rw [following, if_pos inside, toNat_trailer, Nat.add_sub_cancel]

/-- After the first of them, every byte that follows may be any trailer. -/
theorem following_trailer_any : following (count + 1) point 0x80 0xBF (trailer value :: bytes) =
    following count (point * 64 + value % 64) 0x80 0xBF bytes := by
  refine following_trailer ?_ ?_
  · change 128 ≤ _
    omega
  · change _ ≤ 191
    omega

/-! ### The first byte -/

theorem lead?_two (least : 2 ≤ share) (most : share < 32) :
    lead? (UInt8.ofNat (share + 0xC0)) = some ⟨1, share, 0x80, 0xBF⟩ := by
  interval_cases share <;> rfl

theorem lead?_three (most : share < 16) :
    lead? (UInt8.ofNat (share + 0xE0)) =
      some ⟨2, share, if share = 0 then 0xA0 else 0x80, if share = 13 then 0x9F else 0xBF⟩ := by
  interval_cases share <;> rfl

theorem lead?_four (most : share < 5) :
    lead? (UInt8.ofNat (share + 0xF0)) =
      some ⟨3, share, if share = 0 then 0x90 else 0x80, if share = 4 then 0x8F else 0xBF⟩ := by
  interval_cases share <;> rfl

theorem ofUtf8_lead {lead : Lead} {rest : List UInt8} (found : lead? byte = some lead)
    (followed : following lead.follows lead.share lead.low lead.high bytes = (some point, rest)) :
    ofUtf8 (byte :: bytes) = Char.ofNat point :: ofUtf8 rest := by
  have high : ¬ byte < 0x80 := by
    intro lower
    have below : byte < 0xC2 := UInt8.lt_trans lower (by decide)
    rw [lead?, if_pos below] at found
    cases found
  rw [ofUtf8, if_neg high, found]
  simp only [followed, Option.map_some, Option.getD_some]

/-! ### Characters -/

theorem ofUtf8_two (least : 0x80 ≤ point) (most : point ≤ 0x7FF) :
    ofUtf8 (UInt8.ofNat (point / 64 + 0xC0) :: trailer point :: bytes) =
      Char.ofNat point :: ofUtf8 bytes := by
  refine ofUtf8_lead (lead?_two (by omega) (by omega)) ?_
  rw [following_trailer_any, following, Nat.div_add_mod']

theorem ofUtf8_three (least : 0x800 ≤ point) (most : point ≤ 0xFFFF)
    (paired : point < 0xD800 ∨ 0xDFFF < point) :
    ofUtf8 (UInt8.ofNat (point / 4096 + 0xE0) :: trailer (point / 64) :: trailer point :: bytes) =
      Char.ofNat point :: ofUtf8 bytes := by
  refine ofUtf8_lead (lead?_three (by omega)) ?_
  have whole : (point / 4096 * 64 + point / 64 % 64) * 64 + point % 64 = point := by omega
  rw [following_trailer, following_trailer_any, following, whole]
  · -- A first byte `E0` leaves out what two bytes hold.
    split
    · change 160 ≤ _
      omega
    · change 128 ≤ _
      omega
  · -- A first byte `ED` leaves out the surrogates.
    dsimp only
    split
    · change _ ≤ 159
      omega
    · change _ ≤ 191
      omega

theorem ofUtf8_four (least : 0x10000 ≤ point) (most : point < 0x110000) :
    ofUtf8 (UInt8.ofNat (point / 262144 + 0xF0) :: trailer (point / 4096) ::
        trailer (point / 64) :: trailer point :: bytes) = Char.ofNat point :: ofUtf8 bytes := by
  refine ofUtf8_lead (lead?_four (by omega)) ?_
  have whole : ((point / 262144 * 64 + point / 4096 % 64) * 64 + point / 64 % 64) * 64 +
      point % 64 = point := by omega
  rw [following_trailer, following_trailer_any, following_trailer_any, following, whole]
  · -- A first byte `F0` leaves out what three bytes hold.
    split
    · change 144 ≤ _
      omega
    · change 128 ≤ _
      omega
  · -- A first byte `F4` leaves out what no character has.
    dsimp only
    split
    · change _ ≤ 143
      omega
    · change _ ≤ 191
      omega

/-- No character is a surrogate. -/
theorem val_range (c : Char) :
    (c.val.toNat < 0xD800 ∨ 0xDFFF < c.val.toNat) ∧ c.val.toNat < 0x110000 := by
  rcases c.valid with lower | ⟨higher, below⟩
  · exact ⟨.inl lower, Nat.lt_trans lower (by decide)⟩
  · exact ⟨.inr higher, below⟩

theorem ofUtf8_utf8EncodeChar (c : Char) (bytes : List UInt8) :
    ofUtf8 (String.utf8EncodeChar c ++ bytes) = c :: ofUtf8 bytes := by
  obtain ⟨paired, below⟩ := val_range c
  have back : Char.ofNat c.val.toNat = c := Char.ofNat_toNat c
  unfold String.utf8EncodeChar
  dsimp only
  split
  · next small =>
    have byte : (UInt8.ofNat c.val.toNat).toNat = c.val.toNat :=
      UInt8.toNat_ofNat_of_lt' (Nat.lt_of_le_of_lt small (by decide))
    have ascii : UInt8.ofNat c.val.toNat < 0x80 := by
      rw [UInt8.lt_iff_toNat_lt, byte]
      exact Nat.lt_succ_of_le small
    rw [List.singleton_append, ofUtf8, if_pos ascii, byte, back]
  · next large =>
    split
    · next most =>
      have share : c.val.toNat / 64 % 32 = c.val.toNat / 64 := Nat.mod_eq_of_lt (by omega)
      rw [share]
      exact (ofUtf8_two (by omega) most).trans (congrArg (· :: _) back)
    · next larger =>
      split
      · next most =>
        have share : c.val.toNat / 4096 % 16 = c.val.toNat / 4096 := Nat.mod_eq_of_lt (by omega)
        rw [share]
        exact (ofUtf8_three (by omega) most paired).trans (congrArg (· :: _) back)
      · next largest =>
        have share : c.val.toNat / 262144 % 8 = c.val.toNat / 262144 :=
          Nat.mod_eq_of_lt (by omega)
        rw [share]
        exact (ofUtf8_four (by omega) below).trans (congrArg (· :: _) back)

theorem ofUtf8_utf8 (text : Text) : ofUtf8 (utf8 text) = text := by
  induction text with
  | nil =>
    rw [utf8, List.flatMap_nil, ofUtf8]
  | cons c text ih =>
    rw [utf8, List.flatMap_cons, ofUtf8_utf8EncodeChar]
    exact congrArg (c :: ·) ih

end SpinWait.Text
