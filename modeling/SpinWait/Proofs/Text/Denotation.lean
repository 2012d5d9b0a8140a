import SpinWait.Proofs.Text.Cut
import SpinWait.Proofs.Text.Numeral

namespace SpinWait

/-! What a text denotes as a whole number. The grammar stands here without the reader, which is then
shown to accept it and nothing else. -/

namespace Text

variable {starts : List Nat} {n digit : Nat} {c : Char}

/-- Scripts of ten digits each, which do not overlap. -/
theorem digitAfter_eq_some_iff (apart : starts.Pairwise fun start next => start + 10 ≤ next) :
    digitAfter starts n = some digit ↔ ∃ start ∈ starts, digit < 10 ∧ n = start + digit := by
  induction starts with
  | nil => simp [digitAfter]
  | cons first others ih =>
    obtain ⟨behind, apart⟩ := List.pairwise_cons.mp apart
    simp only [digitAfter, List.mem_cons, exists_eq_or_imp]
    by_cases before : n < first
    · rw [if_pos before]
      refine iff_of_false (by simp) ?_
      rintro (⟨_, here⟩ | ⟨start, later, _, there⟩)
      · omega
      · have far := behind start later
        omega
    · rw [if_neg before]
      by_cases inside : n < first + 10
      · rw [if_pos inside, Option.some.injEq]
        constructor
        · rintro rfl
          exact .inl ⟨by omega, by omega⟩
        · rintro (⟨_, here⟩ | ⟨start, later, _, there⟩)
          · omega
          · have far := behind start later
            omega
      · rw [if_neg inside, ih apart]
        exact (or_iff_right fun here => inside (by omega)).symm

/-- A decimal digit, by its distance from the first digit of its script. -/
def IsDigit (c : Char) (digit : Nat) : Prop :=
  ∃ start ∈ zeroPoints, digit < 10 ∧ c.toNat = start + digit

theorem digitValue?_eq_some_iff : digitValue? c = some digit ↔ IsDigit c digit :=
  digitAfter_eq_some_iff (by decide)

theorem isDigit_digitChar (small : digit < 10) : IsDigit (Nat.digitChar digit) digit := by
  have points : ∀ digit < 10, (Nat.digitChar digit).toNat = 0x30 + digit := by decide
  exact ⟨0x30, .head _, small, points digit small⟩

/-- A class without the code points of digits. -/
theorem IsDigit.outside (shown : IsDigit c digit) (among : Nat → Bool)
    (apart : ∀ start ∈ zeroPoints, ∀ digit < 10, among (start + digit) = false) :
    among c.toNat = false := by
  obtain ⟨start, member, small, point⟩ := shown
  rw [point]
  exact apart start member digit small

theorem IsDigit.isBlank_eq_false (shown : IsDigit c digit) : isBlank c = false :=
  shown.outside blanks.covers (by decide +kernel)

theorem IsDigit.ne {other : Char} (shown : IsDigit c digit)
    (apart : other ∈ ['_', '+', '-']) : c ≠ other := by
  have marks : (['_', '+', '-'].map Char.toNat).contains c.toNat = false :=
    shown.outside (['_', '+', '-'].map Char.toNat).contains (by decide +kernel)
  rintro rfl
  rw [List.contains_iff_mem.mpr (List.mem_map_of_mem apart)] at marks
  cases marks

end Text

namespace Numeral

open Text

variable {text body before after : Text} {digits : List Nat} {n : Nat} {value : Int} {c : Char}

/-! ### The grammar -/

/-- White space but the separators U+001C to U+001F. -/
def IsMargin (c : Char) : Prop := isBlank c = true ∧ ¬ (0x1C ≤ c.toNat ∧ c.toNat ≤ 0x1F)

instance : DecidablePred IsMargin := fun c =>
  inferInstanceAs (Decidable (isBlank c = true ∧ ¬ (0x1C ≤ c.toNat ∧ c.toNat ≤ 0x1F)))

/-- Digits of any script, with one underscore or none between two of them. -/
inductive ShowsDigits : Text → List Nat → Prop
  | last {c : Char} {digit : Nat} (shown : IsDigit c digit) : ShowsDigits [c] [digit]
  | more {c : Char} {digit : Nat} {rest : Text} {digits : List Nat} (shown : IsDigit c digit)
      (later : ShowsDigits rest digits) : ShowsDigits (c :: rest) (digit :: digits)
  | parted {c : Char} {digit : Nat} {rest : Text} {digits : List Nat} (shown : IsDigit c digit)
      (later : ShowsDigits rest digits) : ShowsDigits (c :: '_' :: rest) (digit :: digits)

/-- A magnitude of not too many digits. -/
inductive ShowsNat : Text → Nat → Prop
  | mk {text : Text} {digits : List Nat} (shows : ShowsDigits text digits)
      (few : digits.length ≤ maxDigits) : ShowsNat text (Nat.ofDigits 10 digits.reverse)

inductive ShowsInt : Text → Int → Prop
  | unsigned {text : Text} {n : Nat} (shows : ShowsNat text n) : ShowsInt text n
  | plus {text : Text} {n : Nat} (shows : ShowsNat text n) : ShowsInt ('+' :: text) n
  | minus {text : Text} {n : Nat} (shows : ShowsNat text n) : ShowsInt ('-' :: text) (-n)

/-- The text is a number with white space around it. -/
inductive Denotes : Text → Int → Prop
  | mk {before body after : Text} {value : Int} (front : ∀ c ∈ before, IsMargin c)
      (shows : ShowsInt body value) (rear : ∀ c ∈ after, IsMargin c) :
      Denotes (before ++ (body ++ after)) value

/-! ### Digits -/

theorem digitRun_cons (apart : c ≠ '_') {first : Char} :
    digitRun (first :: c :: text) = (do
      let digit ← digitValue? first
      let digits ← digitRun (c :: text)
      pure (digit :: digits)) := by
  rw [digitRun]
  · exact List.cons_ne_nil c text
  · intro rest same
    exact apart (List.cons.inj same).1

theorem ShowsDigits.exists_first (shows : ShowsDigits text digits) :
    ∃ first rest digit, text = first :: rest ∧ IsDigit first digit := by
  cases shows with
  | last shown => exact ⟨_, _, _, rfl, shown⟩
  | more shown => exact ⟨_, _, _, rfl, shown⟩
  | parted shown => exact ⟨_, _, _, rfl, shown⟩

theorem ShowsDigits.exists_last (shows : ShowsDigits text digits) :
    ∃ front last digit, text = front ++ [last] ∧ IsDigit last digit := by
  induction shows with
  | last shown => exact ⟨[], _, _, rfl, shown⟩
  | more _ _ ih =>
    obtain ⟨front, last, digit, rfl, shown⟩ := ih
    exact ⟨_ :: front, last, digit, rfl, shown⟩
  | parted _ _ ih =>
    obtain ⟨front, last, digit, rfl, shown⟩ := ih
    exact ⟨_ :: '_' :: front, last, digit, rfl, shown⟩

theorem digitRun_of_shows (shows : ShowsDigits text digits) : digitRun text = some digits := by
  induction shows with
  | last shown =>
    rw [digitRun, digitValue?_eq_some_iff.mpr shown]
    rfl
  | more shown later ih =>
    obtain ⟨first, rest, digit, rfl, next⟩ := later.exists_first
    rw [digitRun_cons (next.ne (.head _)), digitValue?_eq_some_iff.mpr shown, ih]
    rfl
  | parted shown _ ih =>
    rw [digitRun, digitValue?_eq_some_iff.mpr shown, ih]
    rfl

theorem showsDigits_of_run (read : digitRun text = some digits) : ShowsDigits text digits := by
  induction text using digitRun.induct generalizing digits with
  | case1 => cases read
  | case2 c =>
    obtain ⟨digit, found, rfl⟩ := Option.map_eq_some_iff.mp read
    exact .last (digitValue?_eq_some_iff.mp found)
  | case3 c rest ih =>
    simp only [digitRun, Option.bind_eq_bind, Option.bind_eq_some_iff, Option.pure_def,
      Option.some.injEq] at read
    obtain ⟨digit, found, others, later, rfl⟩ := read
    exact .parted (digitValue?_eq_some_iff.mp found) (ih later)
  | case4 c rest single parted ih =>
    rw [digitRun] at read
    · simp only [Option.bind_eq_bind, Option.bind_eq_some_iff, Option.pure_def,
        Option.some.injEq] at read
      obtain ⟨digit, found, others, later, rfl⟩ := read
      exact .more (digitValue?_eq_some_iff.mp found) (ih later)
    · exact single
    · exact parted

theorem readUnsigned?_eq_some_iff : readUnsigned? text = some n ↔ ShowsNat text n := by
  simp only [readUnsigned?, Option.bind_eq_bind, Option.bind_eq_some_iff,
    Option.ite_none_right_eq_some, Option.some.injEq]
  constructor
  · rintro ⟨digits, run, few, rfl⟩
    rw [ofDigits_eq_ofDigits_reverse]
    exact .mk (showsDigits_of_run run) few
  · rintro ⟨shows, few⟩
    exact ⟨_, digitRun_of_shows shows, few, ofDigits_eq_ofDigits_reverse 10 _⟩

/-! ### Margins -/

theorem isMargin_iff : isMargin c = true ↔ IsMargin c := by
  by_cases ascii : c.toNat < 128
  · have points : ∀ n < 128, isMargin (Char.ofNat n) = true ↔ IsMargin (Char.ofNat n) := by
      decide +kernel
    simpa only [Char.ofNat_toNat] using points c.toNat ascii
  · have listed : c ∉ ['\t', '\n', '\x0b', '\x0c', '\r', ' '] := fun member => by
      have small : ∀ c ∈ ['\t', '\n', '\x0b', '\x0c', '\r', ' '], c.toNat < 128 := by decide
      exact ascii (small c member)
    have far : ¬ (0x1C ≤ c.toNat ∧ c.toNat ≤ 0x1F) := by omega
    rw [isMargin, decide_eq_false listed, decide_eq_true (Nat.le_of_not_lt ascii), Bool.false_or,
      Bool.true_and, IsMargin, and_iff_left far]

theorem isMargin_eq_false {digit : Nat} (shown : IsDigit c digit) : isMargin c = false :=
  Bool.eq_false_iff.mpr fun margin => by
    have blank := (isMargin_iff.mp margin).1
    rw [shown.isBlank_eq_false] at blank
    cases blank

/-- What is left between the margins. -/
def inner (text : Text) : Text := ((text.dropWhile isMargin).reverse.dropWhile isMargin).reverse

/-- Neither the first nor the last character is a margin. -/
structure IsBare (text : Text) : Prop where
  first : ∃ first rest, text = first :: rest ∧ isMargin first = false
  last : ∃ front last, text = front ++ [last] ∧ isMargin last = false

theorem ShowsDigits.isBare (shows : ShowsDigits text digits) : IsBare text where
  first := by
    obtain ⟨first, rest, _, start, shown⟩ := shows.exists_first
    exact ⟨first, rest, start, isMargin_eq_false shown⟩
  last := by
    obtain ⟨front, last, _, finish, shown⟩ := shows.exists_last
    exact ⟨front, last, finish, isMargin_eq_false shown⟩

theorem IsBare.cons (bare : IsBare text) (outside : isMargin c = false) : IsBare (c :: text) where
  first := ⟨c, text, rfl, outside⟩
  last := by
    obtain ⟨front, last, rfl, shown⟩ := bare.last
    exact ⟨c :: front, last, rfl, shown⟩

theorem ShowsInt.isBare (shows : ShowsInt body value) : IsBare body := by
  cases shows with
  | unsigned shows =>
    obtain ⟨shows, _⟩ := shows
    exact shows.isBare
  | plus shows =>
    obtain ⟨shows, _⟩ := shows
    exact shows.isBare.cons (by decide)
  | minus shows =>
    obtain ⟨shows, _⟩ := shows
    exact shows.isBare.cons (by decide)

theorem inner_append (bare : IsBare body) (front : ∀ c ∈ before, IsMargin c)
    (rear : ∀ c ∈ after, IsMargin c) : inner (before ++ (body ++ after)) = body := by
  have opened : (before ++ (body ++ after)).dropWhile isMargin = body ++ after := by
    obtain ⟨first, rest, start, shown⟩ := bare.first
    refine dropWhile_append_of_boundary (fun c member => isMargin_iff.mpr (front c member)) ?_
    simpa [start] using shown
  have closed : (after.reverse ++ body.reverse).dropWhile isMargin = body.reverse := by
    obtain ⟨start, last, finish, shown⟩ := bare.last
    refine dropWhile_append_of_boundary (fun c member => ?_) (by simpa [finish] using shown)
    exact isMargin_iff.mpr (rear c (List.mem_reverse.mp member))
  rw [inner, opened, List.reverse_append, closed, List.reverse_reverse]

theorem exists_margins (text : Text) : ∃ before after, (∀ c ∈ before, IsMargin c) ∧
    (∀ c ∈ after, IsMargin c) ∧ text = before ++ (inner text ++ after) := by
  have margins (text : Text) : ∀ c ∈ text.takeWhile isMargin, IsMargin c :=
    fun c member => isMargin_iff.mp (List.mem_takeWhile_imp member)
  refine ⟨text.takeWhile isMargin, ((text.dropWhile isMargin).reverse.takeWhile isMargin).reverse,
    margins text, fun c member => margins _ c (List.mem_reverse.mp member), ?_⟩
  rw [inner, ← List.reverse_append, List.takeWhile_append_dropWhile, List.reverse_reverse,
    List.takeWhile_append_dropWhile]

/-! ### Numbers -/

/-- The number between the margins. -/
def readInner? : Text → Option Int
  | '-' :: digits => (readUnsigned? digits).map fun n => -(n : Int)
  | '+' :: digits => (readUnsigned? digits).map fun n => (n : Int)
  | digits => (readUnsigned? digits).map fun n => (n : Int)

theorem readInner?_eq_some_iff : readInner? body = some value ↔ ShowsInt body value := by
  constructor
  · intro read
    unfold readInner? at read
    split at read <;>
      simp only [Option.bind_eq_bind, Option.pure_def, Option.map_eq_some_iff,
        Option.bind_eq_some_iff, Option.some.injEq] at read <;>
      obtain ⟨_, ⟨n, found, rfl⟩, rfl⟩ := read
    · exact .minus (readUnsigned?_eq_some_iff.mp found)
    · exact .plus (readUnsigned?_eq_some_iff.mp found)
    · exact .unsigned (readUnsigned?_eq_some_iff.mp found)
  · intro shows
    cases shows with
    | unsigned shows =>
      have read := readUnsigned?_eq_some_iff.mpr shows
      obtain ⟨shows, _⟩ := shows
      obtain ⟨first, rest, _, rfl, digit⟩ := shows.exists_first
      have minus : first ≠ '-' := digit.ne (by decide)
      have plus : first ≠ '+' := digit.ne (by decide)
      rw [readInner?, read]
      · rfl
      · exact fun _ same => minus (List.cons.inj same).1
      · exact fun _ same => plus (List.cons.inj same).1
    | plus shows =>
      rw [readInner?, readUnsigned?_eq_some_iff.mpr shows]
      rfl
    | minus shows =>
      rw [readInner?, readUnsigned?_eq_some_iff.mpr shows]
      rfl

/-- A number is read from a text exactly if the text denotes it. -/
theorem read?_eq_some_iff : read? text = some value ↔ Denotes text value := by
  have inside : read? text = readInner? (inner text) := rfl
  rw [inside, readInner?_eq_some_iff]
  constructor
  · intro shows
    obtain ⟨before, after, front, rear, parts⟩ := exists_margins text
    rw [parts]
    exact .mk front shows rear
  · rintro ⟨front, shows, rear⟩
    rwa [inner_append shows.isBare front rear]

theorem read?_eq_none_iff : read? text = none ↔ ∀ value, ¬ Denotes text value := by
  simp only [Option.eq_none_iff_forall_ne_some, ne_eq, read?_eq_some_iff]

/-! ### Written numbers -/

theorem showsDigits_map_digitChar (nonempty : digits ≠ []) (small : ∀ digit ∈ digits, digit < 10) :
    ShowsDigits (digits.map Nat.digitChar) digits := by
  induction digits with
  | nil => contradiction
  | cons digit others ih =>
    obtain ⟨here, later⟩ := List.forall_mem_cons.mp small
    cases others with
    | nil => exact .last (isDigit_digitChar here)
    | cons next others => exact .more (isDigit_digitChar here) (ih (List.cons_ne_nil _ _) later)

theorem showsNat_decimal (short : IsShort n) : ShowsNat (decimal n) n := by
  obtain ⟨digits, shape, nonempty, small, folded, _⟩ := exists_digits (by decide : 1 < 10) n
  have few := short.length_le shape
  rw [decimal, shape]
  rw [ofDigits_eq_ofDigits_reverse] at folded
  exact folded ▸ .mk (showsDigits_map_digitChar nonempty small) few

/-- What is written is read back. -/
theorem denotes_signed (short : IsShort value.natAbs) : Denotes (signed value) value := by
  have whole {body : Text} (shows : ShowsInt body value) : Denotes body value := by
    have margins : Denotes ([] ++ (body ++ [])) value := .mk nofun shows nofun
    simpa using margins
  cases value with
  | ofNat n => exact whole (.unsigned (showsNat_decimal short))
  | negSucc n => exact whole (.minus (showsNat_decimal short))

end Numeral

end SpinWait
