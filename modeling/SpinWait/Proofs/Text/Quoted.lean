import SpinWait.Proofs.Instruction.Image
import SpinWait.Proofs.Text.Delimited
import SpinWait.Proofs.Text.Numeral
import SpinWait.Text.Quoted

namespace SpinWait

/-! Quoted text is read back character by character, so that it ends where it ends, whatever the text
imitates. -/

namespace Numeral

theorem length_fixedHex (width n : Nat) : (fixedHex width n).length = width := by
  induction width generalizing n with
  | zero => rfl
  | succ width ih => simp [fixedHex, ih]

/-- The number that hexadecimal digits stand for. -/
def readHex (text : Text) : Nat := ofDigits 16 (text.filterMap hexValue?)

theorem readHex_fixedHex (width n : Nat) : readHex (fixedHex width n) = n % 16 ^ width := by
  induction width generalizing n with
  | zero => rw [Nat.pow_zero, Nat.mod_one]; rfl
  | succ width ih =>
    have last : hexValue? (Nat.digitChar (n % 16)) = some (n % 16) :=
      hexValue?_digitChar (Nat.mod_lt n (by decide))
    have higher : ofDigits 16 ((fixedHex width (n / 16)).filterMap hexValue?) =
        n / 16 % 16 ^ width := ih (n / 16)
    rw [readHex, fixedHex, List.filterMap_append, List.filterMap_cons, last, List.filterMap_nil,
      ofDigits_concat, higher, Nat.pow_succ', Nat.mod_mul, Nat.mul_comm, Nat.add_comm]

end Numeral

namespace Text

open Numeral

variable {mark c : Char} {text : Text}

/-- One character that stands between quotes, and what is left behind it. -/
def unescape : Text → Option (Char × Text)
  | '\\' :: 'n' :: rest => some ('\n', rest)
  | '\\' :: 'r' :: rest => some ('\r', rest)
  | '\\' :: 't' :: rest => some ('\t', rest)
  | '\\' :: 'x' :: rest => some (Char.ofNat (readHex (rest.take 2)), rest.drop 2)
  | '\\' :: 'u' :: rest => some (Char.ofNat (readHex (rest.take 4)), rest.drop 4)
  | '\\' :: 'U' :: rest => some (Char.ofNat (readHex (rest.take 8)), rest.drop 8)
  | '\\' :: c :: rest => some (c, rest)
  | c :: rest => some (c, rest)
  | [] => none

theorem readHex_take {width : Nat} (small : c.toNat < 16 ^ width) (rest : Text) :
    Char.ofNat (readHex ((fixedHex width c.toNat ++ rest).take width)) = c := by
  rw [List.take_left' (length_fixedHex width _), readHex_fixedHex, Nat.mod_eq_of_lt small,
    Char.ofNat_toNat]

theorem unescape_escapePoint (c : Char) (rest : Text) :
    unescape (escapePoint c.toNat ++ rest) = some (c, rest) := by
  have dropped (width : Nat) : (fixedHex width c.toNat ++ rest).drop width = rest :=
    List.drop_left' (length_fixedHex width _)
  have bounded : c.toNat < 16 ^ 8 := c.val.toNat_lt
  unfold escapePoint
  split
  · next small =>
    simp only [List.cons_append, unescape, dropped]
    rw [readHex_take (small : c.toNat < 16 ^ 2)]
  · split
    · next small =>
      simp only [List.cons_append, unescape, dropped]
      rw [readHex_take (small : c.toNat < 16 ^ 4)]
    · simp only [List.cons_append, unescape, dropped]
      rw [readHex_take bounded]

theorem quoteMark_cases (text : Text) : quoteMark text = '\'' ∨ quoteMark text = '"' := by
  unfold quoteMark
  split
  · exact .inr rfl
  · exact .inl rfl

theorem unescape_escapeChar (known : mark = '\'' ∨ mark = '"') (c : Char) (rest : Text) :
    unescape (escapeChar mark c ++ rest) = some (c, rest) := by
  unfold escapeChar
  split
  · next plain =>
    have plain : c = mark ∨ c = '\\' := by simpa using plain
    rcases plain with rfl | rfl
    · rcases known with rfl | rfl <;> rfl
    · rfl
  · next other =>
    split
    · next same => rw [same]; rfl
    · split
      · next same => rw [same]; rfl
      · split
        · next same => rw [same]; rfl
        · split
          · have slash : c ≠ '\\' := fun same => other (by simp [same])
            simp [unescape, slash]
          · exact unescape_escapePoint c rest

theorem selfDelimiting_escapeChar (known : mark = '\'' ∨ mark = '"') :
    SelfDelimiting (fun _ => True) (escapeChar mark) := by
  intro c d left right _ _ same
  have read := unescape_escapeChar known c left
  rw [same, unescape_escapeChar known d right] at read
  obtain ⟨rfl, rfl⟩ := Prod.mk.inj (Option.some.inj read)
  exact ⟨rfl, rfl⟩

/-- Between the marks the mark itself stands behind a backslash only. -/
theorem escapeChar_begins (known : mark = '\'' ∨ mark = '"') (c : Char) :
    ∃ first rest, escapeChar mark c = first :: rest ∧ first ≠ mark := by
  have slash : '\\' ≠ mark := by rcases known with rfl | rfl <;> decide
  unfold escapeChar
  split
  · exact ⟨_, _, rfl, slash⟩
  · next other =>
    split
    · exact ⟨_, _, rfl, slash⟩
    · split
      · exact ⟨_, _, rfl, slash⟩
      · split
        · exact ⟨_, _, rfl, slash⟩
        · split
          · exact ⟨c, [], rfl, fun same => other (by simp [same])⟩
          · unfold escapePoint
            split
            · exact ⟨_, _, rfl, slash⟩
            · split <;> exact ⟨_, _, rfl, slash⟩

theorem selfDelimiting_quoted : SelfDelimiting (fun _ => True) quoted := by
  intro text other left right _ _ same
  simp only [quoted, List.cons_append] at same
  obtain ⟨marks, body⟩ := List.cons.inj same
  rw [← marks] at body
  have known := quoteMark_cases text
  exact (selfDelimiting_escapeChar known).flatMap (fun c _ => escapeChar_begins known c)
    (fun _ _ => trivial) (fun _ _ => trivial) body

end Text

end SpinWait
