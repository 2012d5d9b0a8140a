import Mathlib.Data.Nat.Digits.Defs
import SpinWait.Proofs.Instruction.Image
import SpinWait.Proofs.Instruction.OfValue
import SpinWait.Proofs.Log.Rendering
import SpinWait.Proofs.Text.AsciiCase

namespace SpinWait

open Log Text

/-! The texts that are read as instruction words: the four bytes of the word, each in two digits,
the lowest byte first. -/

variable {text group : Text} {c : Char} {n : Nat} {bytes : List Nat} {word : Word}

/-! ### Digits in either case -/

namespace Numeral

theorem hexValue?_eq_toLower (c : Char) : hexValue? c = lowerHexValue? c.toLower := by
  by_cases ascii : IsAscii c
  · apply ascii.of_points
    decide
  · have large : ¬ c ≤ 'F' := fun least => ascii (Nat.lt_of_le_of_lt least (by decide))
    rw [toLower_of_not_isAscii ascii, hexValue?, if_neg (by simp [large])]

theorem mapM_hexValue?_eq_some_iff {digits : List Nat} : text.mapM hexValue? = some digits ↔
    text.map Char.toLower = digits.map Nat.digitChar ∧ ∀ digit ∈ digits, digit < 16 := by
  have lowered : text.mapM hexValue? = (text.map Char.toLower).mapM lowerHexValue? := by
    induction text with
    | nil => rfl
    | cons c others ih =>
      rw [List.map_cons, List.mapM_cons, List.mapM_cons, hexValue?_eq_toLower, ih]
  rw [lowered, mapM_eq_some_iff fun _ _ => lowerHexValue?_eq_some_iff]

end Numeral

/-! ### Bytes -/

/-- A byte in two hexadecimal digits of either case, the high one first. -/
inductive ShowsByte : Text → Nat → Prop
  | digits {c d : Char} {high low : Nat} (highSmall : high < 16) (lowSmall : low < 16)
      (first : c.toLower = Nat.digitChar high) (second : d.toLower = Nat.digitChar low) :
      ShowsByte [c, d] (high * 16 + low)

/-- Four bytes in the order of the text, two on either side of a blank. -/
inductive ShowsBytes : Text → List Nat → Prop
  | groups {a b c d : Text} {first second third fourth : Nat} (showsFirst : ShowsByte a first)
      (showsSecond : ShowsByte b second) (showsThird : ShowsByte c third)
      (showsFourth : ShowsByte d fourth) :
      ShowsBytes (a ++ b ++ ' ' :: (c ++ d)) [first, second, third, fourth]

theorem ShowsByte.lt {byte : Nat} (shows : ShowsByte text byte) : byte < 0x100 := by
  cases shows with
  | digits highSmall lowSmall => omega

theorem ShowsByte.mem_hexDigits {byte : Nat} (shows : ShowsByte text byte) :
    ∀ c ∈ text, c ∈ hexDigits := by
  cases shows with
  | digits highSmall lowSmall first second =>
    intro c member
    simp only [List.mem_cons, List.not_mem_nil, or_false] at member
    rcases member with rfl | rfl
    · exact mem_hexDigits_iff.mpr ⟨_, highSmall, first⟩
    · exact mem_hexDigits_iff.mpr ⟨_, lowSmall, second⟩

theorem ShowsByte.of_mem_hexDigits {c d : Char} (first : c ∈ hexDigits) (second : d ∈ hexDigits) :
    ∃ byte, ShowsByte [c, d] byte := by
  obtain ⟨high, highSmall, first⟩ := mem_hexDigits_iff.mp first
  obtain ⟨low, lowSmall, second⟩ := mem_hexDigits_iff.mp second
  exact ⟨_, .digits highSmall lowSmall first second⟩

theorem ShowsByte.isHexNumeral_append {other : Text} {byte otherByte : Nat}
    (shows : ShowsByte text byte) (otherShows : ShowsByte other otherByte) :
    IsHexNumeral (text ++ other) where
  nonempty := by
    cases shows with
    | digits => exact List.cons_ne_nil _ _
  digits := List.forall_mem_append.mpr ⟨shows.mem_hexDigits, otherShows.mem_hexDigits⟩

theorem ShowsByte.length_append {other : Text} {byte otherByte : Nat}
    (shows : ShowsByte text byte) (otherShows : ShowsByte other otherByte) :
    (text ++ other).length = 4 := by
  cases shows with
  | digits =>
    cases otherShows with
    | digits => rfl

namespace Word

/-- A group of four digits is two bytes, the first of which counts more. -/
theorem readGroup_append {a b : Text} {first second : Nat} (showsFirst : ShowsByte a first)
    (showsSecond : ShowsByte b second) :
    readGroup (a ++ b) = .ok (first * 0x100 + second) := by
  cases showsFirst with
  | @digits c d p q pSmall qSmall highFirst lowFirst =>
    cases showsSecond with
    | @digits e f r s rSmall sSmall highSecond lowSecond =>
      have found : [c, d, e, f].mapM Numeral.hexValue? = some [p, q, r, s] := by
        rw [Numeral.mapM_hexValue?_eq_some_iff]
        simp [highFirst, lowFirst, highSecond, lowSecond, pSmall, qSmall, rSmall, sSmall]
      have value : Numeral.ofDigits 16 [p, q, r, s] = (p * 16 + q) * 0x100 + (r * 16 + s) := by
        simp only [Numeral.ofDigits, List.foldl_cons, List.foldl_nil]
        omega
      change readGroup [c, d, e, f] = _
      simp only [readGroup, found, value]
      rfl

theorem exists_bytes_of_readGroup (read : readGroup group = .ok n) : ∃ a b first second,
    ShowsByte a first ∧ ShowsByte b second ∧ group = a ++ b ∧ n = first * 0x100 + second := by
  unfold readGroup at read
  split at read
  · cases read
  · next width =>
    rw [not_not] at width
    split at read
    · next digits found =>
      obtain rfl := Except.ok.inj read
      obtain ⟨shape, small⟩ := Numeral.mapM_hexValue?_eq_some_iff.mp found
      have many : digits.length = 4 := by
        have same := congrArg List.length shape
        rwa [List.length_map, List.length_map, width, eq_comm] at same
      obtain ⟨p, q, r, s, rfl⟩ := List.length_eq_four.mp many
      obtain ⟨c, d, e, f, rfl⟩ := List.length_eq_four.mp width
      simp only [List.map_cons, List.map_nil, List.cons.injEq, and_true] at shape
      simp only [List.forall_mem_cons] at small
      obtain ⟨highFirst, lowFirst, highSecond, lowSecond⟩ := shape
      obtain ⟨pSmall, qSmall, rSmall, sSmall, _⟩ := small
      refine ⟨[c, d], [e, f], _, _, .digits pSmall qSmall highFirst lowFirst,
        .digits rSmall sSmall highSecond lowSecond, rfl, ?_⟩
      simp only [Numeral.ofDigits, List.foldl_cons, List.foldl_nil]
      omega
    · cases read

theorem byte_ofBytes {a b c d : Nat} (aSmall : a < 0x100) (bSmall : b < 0x100) (cSmall : c < 0x100)
    (dSmall : d < 0x100) : (ofBytes a b c d).byte 0 = d ∧ (ofBytes a b c d).byte 1 = c ∧
      (ofBytes a b c d).byte 2 = b ∧ (ofBytes a b c d).byte 3 = a := by
  have small : a * 0x1000000 + b * 0x10000 + c * 0x100 + d < 0x100000000 := by omega
  have value : (ofBytes a b c d).val = a * 0x1000000 + b * 0x10000 + c * 0x100 + d :=
    Nat.mod_eq_of_lt small
  simp only [byte, value]
  omega

/-- In the opposite order, the first byte counts least. -/
theorem val_reverseBytes_ofBytes {a b c d : Nat} (aSmall : a < 0x100) (bSmall : b < 0x100)
    (cSmall : c < 0x100) (dSmall : d < 0x100) :
    (ofBytes a b c d).reverseBytes.val = Nat.ofDigits 0x100 [a, b, c, d] := by
  obtain ⟨lowest, second, third, highest⟩ := byte_ofBytes aSmall bSmall cSmall dSmall
  rw [val_reverseBytes, lowest, second, third, highest]
  simp only [Nat.ofDigits_cons, Nat.ofDigits_nil]
  omega

theorem ofNat_groups (a b c d : Nat) :
    Fin.ofNat (0x100000000) ((a * 0x100 + b) * 0x10000 + (c * 0x100 + d)) = ofBytes a b c d := by
  have sum : (a * 0x100 + b) * 0x10000 + (c * 0x100 + d) =
      a * 0x1000000 + b * 0x10000 + c * 0x100 + d := by omega
  exact congrArg (Fin.ofNat (0x100000000)) sum

theorem exists_word_of_showsBytes (shows : ShowsBytes text bytes) :
    ∃ word : Word, word.val = Nat.ofDigits 0x100 bytes := by
  cases shows with
  | groups showsFirst showsSecond showsThird showsFourth =>
    exact ⟨_, val_reverseBytes_ofBytes showsFirst.lt showsSecond.lt showsThird.lt showsFourth.lt⟩

theorem ofImage_of_showsBytes (shows : ShowsBytes text bytes)
    (value : word.val = Nat.ofDigits 0x100 bytes) : ofImage text = .ok word := by
  cases shows with
  | @groups a b c d first second third fourth showsFirst showsSecond showsThird showsFourth =>
    have apart : ∀ c ∈ hexDigits, c ≠ ' ' := by decide
    have highBlank : ' ' ∉ a ++ b := by
      rw [List.mem_append]
      rintro (member | member)
      · exact apart _ (showsFirst.mem_hexDigits _ member) rfl
      · exact apart _ (showsSecond.mem_hexDigits _ member) rfl
    have lowBlank : ' ' ∉ c ++ d := by
      rw [List.mem_append]
      rintro (member | member)
      · exact apart _ (showsThird.mem_hexDigits _ member) rfl
      · exact apart _ (showsFourth.mem_hexDigits _ member) rfl
    have parts : (a ++ b ++ ' ' :: (c ++ d)).fields ' ' = [a ++ b, c ++ d] := by
      rw [fields_append highBlank, fields_of_not_mem lowBlank]
    rw [ofImage_of_fields parts (readGroup_append showsFirst showsSecond)
      (readGroup_append showsThird showsFourth), ofNat_groups]
    refine congrArg Except.ok (Fin.ext ?_)
    rw [val_reverseBytes_ofBytes showsFirst.lt showsSecond.lt showsThird.lt showsFourth.lt, value]

theorem exists_bytes_of_ofImage (read : ofImage text = .ok word) :
    ∃ bytes, ShowsBytes text bytes ∧ word.val = Nat.ofDigits 0x100 bytes := by
  unfold ofImage at read
  split at read
  · next first second parts =>
    cases high : readGroup first with
    | error defect => simp [high, bind, Except.bind] at read
    | ok highValue =>
      cases low : readGroup second with
      | error defect => simp [high, low, bind, Except.bind] at read
      | ok lowValue =>
        obtain ⟨a, b, p, q, showsFirst, showsSecond, rfl, rfl⟩ := exists_bytes_of_readGroup high
        obtain ⟨c, d, r, s, showsThird, showsFourth, rfl, rfl⟩ := exists_bytes_of_readGroup low
        have shape : a ++ b ++ ' ' :: (c ++ d) = text := by
          rw [← intercalate_fields ' ' text, parts]
          simp [List.intercalate]
        simp only [high, low, bind, Except.bind, Except.ok.injEq] at read
        refine ⟨[p, q, r, s], shape ▸ .groups showsFirst showsSecond showsThird showsFourth, ?_⟩
        rw [← read, ofNat_groups]
        exact val_reverseBytes_ofBytes showsFirst.lt showsSecond.lt showsThird.lt showsFourth.lt
  · cases read

theorem ofImage_eq_ok_iff : ofImage text = .ok word ↔
    ∃ bytes, ShowsBytes text bytes ∧ word.val = Nat.ofDigits 0x100 bytes :=
  ⟨exists_bytes_of_ofImage, fun ⟨_, shows, value⟩ => ofImage_of_showsBytes shows value⟩

/-! ### Images -/

theorem fixedHex_bytes {a b : Text} {first second : Nat} (showsFirst : ShowsByte a first)
    (showsSecond : ShowsByte b second) :
    Numeral.fixedHex 4 (first * 0x100 + second) = (a ++ b).map Char.toLower := by
  cases showsFirst with
  | @digits c d p q pSmall qSmall highFirst lowFirst =>
    cases showsSecond with
    | @digits e f r s rSmall sSmall highSecond lowSecond =>
      have digits : [((p * 16 + q) * 0x100 + (r * 16 + s)) / 4096 % 16,
          ((p * 16 + q) * 0x100 + (r * 16 + s)) / 256 % 16,
          ((p * 16 + q) * 0x100 + (r * 16 + s)) / 16 % 16,
          ((p * 16 + q) * 0x100 + (r * 16 + s)) % 16] = [p, q, r, s] := by
        simp only [List.cons.injEq, and_true]
        omega
      rw [Numeral.fixedHex_four, digits]
      simp [highFirst, lowFirst, highSecond, lowSecond]

/-- What is read is written again in small letters. -/
theorem image_eq_map_toLower (shows : ShowsBytes text bytes)
    (value : word.val = Nat.ofDigits 0x100 bytes) : word.image = text.map Char.toLower := by
  cases shows with
  | @groups a b c d first second third fourth showsFirst showsSecond showsThird showsFourth =>
    have firstSmall := showsFirst.lt
    have secondSmall := showsSecond.lt
    have thirdSmall := showsThird.lt
    have fourthSmall := showsFourth.lt
    -- The image shows the bytes of the word turned round, which is the order of the text.
    have turned : word = (ofBytes first second third fourth).reverseBytes := by
      refine Fin.ext ?_
      rw [value, val_reverseBytes_ofBytes firstSmall secondSmall thirdSmall fourthSmall]
    have number : (ofBytes first second third fourth).val =
        (first * 0x100 + second) * 0x10000 + (third * 0x100 + fourth) := by
      rw [← ofNat_groups]
      exact Nat.mod_eq_of_lt (by omega)
    have high : ((first * 0x100 + second) * 0x10000 + (third * 0x100 + fourth)) / 0x10000 =
        first * 0x100 + second := by omega
    have low : ((first * 0x100 + second) * 0x10000 + (third * 0x100 + fourth)) % 0x10000 =
        third * 0x100 + fourth := by omega
    rw [image, turned, reverseBytes_reverseBytes, number, high, low,
      fixedHex_bytes showsFirst showsSecond, fixedHex_bytes showsThird showsFourth]
    simp only [List.map_append, List.map_cons]
    rfl

theorem exists_showsBytes_iff : (∃ bytes, ShowsBytes text bytes) ↔ IsImage text := by
  constructor
  · intro shown
    obtain ⟨bytes, shows⟩ := shown
    cases shows with
    | @groups a b c d _ _ _ _ showsFirst showsSecond showsThird showsFourth =>
      exact .groups (showsFirst.isHexNumeral_append showsSecond)
        (showsThird.isHexNumeral_append showsFourth)
        (showsFirst.length_append showsSecond) (showsThird.length_append showsFourth)
  · intro image
    cases image with
    | @groups high low highDigits lowDigits highWidth lowWidth =>
      obtain ⟨c, d, e, f, rfl⟩ := List.length_eq_four.mp highWidth
      obtain ⟨p, q, r, s, rfl⟩ := List.length_eq_four.mp lowWidth
      have highs := highDigits.digits
      have lows := lowDigits.digits
      simp only [List.forall_mem_cons] at highs lows
      obtain ⟨_, showsFirst⟩ := ShowsByte.of_mem_hexDigits highs.1 highs.2.1
      obtain ⟨_, showsSecond⟩ := ShowsByte.of_mem_hexDigits highs.2.2.1 highs.2.2.2.1
      obtain ⟨_, showsThird⟩ := ShowsByte.of_mem_hexDigits lows.1 lows.2.1
      obtain ⟨_, showsFourth⟩ := ShowsByte.of_mem_hexDigits lows.2.2.1 lows.2.2.2.1
      exact ⟨_, .groups showsFirst showsSecond showsThird showsFourth⟩

theorem exists_ofImage_iff : (∃ word, ofImage text = .ok word) ↔ IsImage text := by
  rw [← exists_showsBytes_iff]
  constructor
  · intro read
    obtain ⟨word, read⟩ := read
    obtain ⟨bytes, shows, _⟩ := exists_bytes_of_ofImage read
    exact ⟨bytes, shows⟩
  · intro shown
    obtain ⟨_, shows⟩ := shown
    obtain ⟨word, value⟩ := exists_word_of_showsBytes shows
    exact ⟨word, ofImage_of_showsBytes shows value⟩

/-! ### Numbers -/

theorem val_ofInt (n : Int) : ((ofInt n).val : Int) = n % 2 ^ 32 := by
  have small : (n % 0x100000000).toNat < 0x100000000 := by omega
  have value : (ofInt n).val = (n % 0x100000000).toNat := Nat.mod_eq_of_lt small
  rw [value]
  omega

theorem ofInt_val (word : Word) : ofInt word.val = word := by
  refine Fin.ext ?_
  have value := val_ofInt word.val
  omega

/-- Words and their images stand for one another. A text that is no image is a fault that carries
it. -/
theorem ofToken_text_exact (n : Int) (text : Text) :
    (ofToken (.text (ofInt n).image) = .ok (ofInt n) ∧ ((ofInt n).val : Int) = n % 2 ^ 32) ∧
      ((∃ word, ofToken (.text text) = .ok word) ↔ IsImage text) ∧
      (∀ word, ofToken (.text text) = .ok word ↔
        ∃ bytes, ShowsBytes text bytes ∧ word.val = Nat.ofDigits 0x100 bytes) ∧
      (∀ word, ofToken (.text text) = .ok word → word.image = text.lower) ∧
      (¬ IsImage text → ∃ reason, ofToken (.text text) =
        .error (.fault (.malformedHex (.text text) (.text reason)) none)) ∧
      (ofInt (ofInt n).reverseBytes.val).reverseBytes = ofInt n := by
  have reads : ∀ word, ofToken (.text text) = .ok word ↔ ofImage text = .ok word := by
    intro word
    constructor
    · intro read
      cases image : ofImage text with
      | ok other =>
        rw [ofToken_eq_ok image] at read
        exact congrArg Except.ok (Except.ok.inj read)
      | error defect =>
        rw [ofToken_eq_error image] at read
        cases read
    · exact ofToken_eq_ok
  refine ⟨⟨ofToken_eq_ok (ofImage_image _), val_ofInt n⟩, ?_, ?_, ?_, ?_, ?_⟩
  · simp only [reads, exists_ofImage_iff]
  · intro word
    rw [reads, ofImage_eq_ok_iff]
  · intro word read
    obtain ⟨bytes, shows, value⟩ := ofImage_eq_ok_iff.mp ((reads word).mp read)
    have image : IsImage text := exists_showsBytes_iff.mp ⟨bytes, shows⟩
    rw [image_eq_map_toLower shows value, image.lower_eq]
  · intro other
    cases image : ofImage text with
    | ok word => exact absurd (exists_ofImage_iff.mp ⟨word, image⟩) other
    | error defect => exact ⟨_, ofToken_eq_error image⟩
  · rw [ofInt_val, reverseBytes_reverseBytes]

theorem mixedImage_read :
    ofToken (.text "3D20 03d5".toList) = .ok (ofInt 0xD503203D) ∧
      (ofInt 0xD503203D).image = lower "3D20 03d5".toList ∧
      ∃ reason, ofToken (.text "3D20  03d5".toList) =
        .error (.fault (.malformedHex (.text "3D20  03d5".toList) (.text reason)) none) := by
  have shows : ShowsBytes "3D20 03d5".toList [0x3D, 0x20, 0x03, 0xD5] :=
    .groups (.digits (show 3 < 16 by decide) (show 13 < 16 by decide) (by decide) (by decide))
      (.digits (show 2 < 16 by decide) (show 0 < 16 by decide) (by decide) (by decide))
      (.digits (show 0 < 16 by decide) (show 3 < 16 by decide) (by decide) (by decide))
      (.digits (show 13 < 16 by decide) (show 5 < 16 by decide) (by decide) (by decide))
  have other : ¬ IsImage "3D20  03d5".toList := by
    have failed : (ofImage "3D20  03d5".toList).toOption = none := by decide
    rw [← exists_ofImage_iff]
    intro read
    obtain ⟨word, read⟩ := read
    rw [read] at failed
    cases failed
  obtain ⟨_, _, reads, lowers, _⟩ := ofToken_text_exact 0 "3D20 03d5".toList
  obtain ⟨_, _, _, _, refused, _⟩ := ofToken_text_exact 0 "3D20  03d5".toList
  have read := (reads (ofInt 0xD503203D)).mpr ⟨_, shows, by decide⟩
  exact ⟨read, lowers _ read, refused other⟩

end Word

end SpinWait
