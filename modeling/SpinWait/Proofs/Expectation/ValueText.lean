import SpinWait.Proofs.Expectation
import SpinWait.Proofs.Text.Denotation

namespace SpinWait.Expectation

/-! The expectation that the text of a value states, told from the number that the text denotes. -/

open Numeral

variable {hint : Hint} {text : Text} {outcome : Except Stop Expectation}

theorem name_ne_counterName (hint : Hint) : hint.name ≠ counterName := by
  cases hint <;> decide

/-- What comes of the text of a count. -/
inductive CountOutcome (hint : Hint) (text : Text) : Except Stop Expectation → Prop
  | count {n : Nat} (denoted : Denotes text n) : CountOutcome hint text (.ok (.repeated hint n))
  | negative {n : Int} (denoted : Denotes text n) (below : n < 0) :
      CountOutcome hint text (.error (.fault (.invalidCount (.number n)) none))
  | unread (nothing : ∀ n, ¬ Denotes text n) :
      CountOutcome hint text (.error (.fault (.invalidCount (.text text)) none))

/-- What comes of the text of a delay. -/
inductive DelayOutcome (text : Text) : Except Stop Expectation → Prop
  | delay {n : Nat} (denoted : Denotes text n) (fits : n ≤ AddImmediate.maxDelay) :
      DelayOutcome text (.ok (.counter n .yield fits))
  | outside {n : Int} (denoted : Denotes text n) (outside : n < 0 ∨ AddImmediate.maxDelay < n) :
      DelayOutcome text
        (.error (.fault (.invalidDelay (.number n) (.number AddImmediate.maxDelay)) none))
  | unread (nothing : ∀ n, ¬ Denotes text n) :
      DelayOutcome text
        (.error (.fault (.invalidDelay (.text text) (.number AddImmediate.maxDelay)) none))

/-! ### Counts -/

theorem ofInstruction_hint (hint : Hint) (value : Option Text) :
    ofInstruction (.text hint.name) value = repeatedFrom (.text hint.name) value := by
  have named : ¬ (Value.text hint.name).text? = some counterName := fun same =>
    name_ne_counterName hint (Option.some.inj same)
  rw [ofInstruction, if_neg named]

theorem hintOf_name (hint : Hint) : hintOf (.text hint.name) = .ok hint := by
  cases hint <;> rfl

theorem ofInstruction_of_count {n : Nat} (denoted : Denotes text n) :
    ofInstruction (.text hint.name) (some text) = .ok (.repeated hint n) := by
  simp only [ofInstruction_hint, repeatedFrom, read?_eq_some_iff.mpr denoted, repeatedOf, hintOf_name]
  rfl

theorem ofInstruction_of_negative {n : Int} (denoted : Denotes text n) (below : n < 0) :
    ofInstruction (.text hint.name) (some text) =
      .error (.fault (.invalidCount (.number n)) none) := by
  have read := read?_eq_some_iff.mpr denoted
  have refused := Fault.stop_invalidCount (isWritable_of_read read)
  obtain ⟨magnitude, rfl⟩ := Int.eq_negSucc_of_lt_zero below
  simp only [ofInstruction_hint, repeatedFrom, read, repeatedOf, hintOf_name, bind, Except.bind,
    countOf, Fault.raise, refused]

theorem ofInstruction_of_uncounted (nothing : ∀ n, ¬ Denotes text n) :
    ofInstruction (.text hint.name) (some text) =
      .error (.fault (.invalidCount (.text text)) none) := by
  have refused : (Fault.invalidCount (.text text)).stop none = _ := Fault.stop_invalidCount rfl
  rw [ofInstruction_hint, repeatedFrom, read?_eq_none_iff.mpr nothing]
  simp only [Fault.raise, refused]

theorem ofInstruction_hint_iff :
    ofInstruction (.text hint.name) (some text) = outcome ↔ CountOutcome hint text outcome := by
  constructor
  · rintro rfl
    by_cases denoted : ∃ n, Denotes text n
    · obtain ⟨n, denoted⟩ := denoted
      cases n with
      | ofNat n =>
        rw [ofInstruction_of_count denoted]
        exact .count denoted
      | negSucc n =>
        have below := Int.negSucc_lt_zero n
        rw [ofInstruction_of_negative denoted below]
        exact .negative denoted below
    · have nothing := not_exists.mp denoted
      rw [ofInstruction_of_uncounted nothing]
      exact .unread nothing
  · intro counted
    cases counted with
    | count denoted => exact ofInstruction_of_count denoted
    | negative denoted below => exact ofInstruction_of_negative denoted below
    | unread nothing => exact ofInstruction_of_uncounted nothing

/-! ### Delays -/

theorem ofInstruction_counter (value : Option Text) :
    ofInstruction (.text counterName) value = counterFrom value := by
  have named : (Value.text counterName).text? = some counterName := rfl
  rw [ofInstruction, if_pos named]

theorem ofInstruction_of_delay {n : Nat} (denoted : Denotes text n)
    (fits : n ≤ AddImmediate.maxDelay) :
    ofInstruction (.text counterName) (some text) = .ok (.counter n .yield fits) := by
  have judged : AddImmediate.delayOf (.number (.ofNat n)) = .ok ⟨n, fits⟩ := dif_pos fits
  rw [ofInstruction_counter, counterFrom, read?_eq_some_iff.mpr denoted]
  change counterOf (.number (.ofNat n)) (.hint .yield) = _
  rw [counterOf, judged]
  rfl

theorem ofInstruction_of_outside {n : Int} (denoted : Denotes text n)
    (outside : n < 0 ∨ AddImmediate.maxDelay < n) :
    ofInstruction (.text counterName) (some text) =
      .error (.fault (.invalidDelay (.number n) (.number AddImmediate.maxDelay)) none) := by
  have read := read?_eq_some_iff.mpr denoted
  have refused := Fault.stop_invalidDelay (isWritable_of_read read) isWritable_maxDelay
  have judged : AddImmediate.delayOf (.number n) =
      (Fault.invalidDelay (.number n) (.number AddImmediate.maxDelay)).raise := by
    cases n with
    | ofNat n =>
      have far := outside.resolve_left (Int.not_lt.mpr (Int.natCast_nonneg n))
      exact dif_neg (Nat.not_le.mpr (Int.ofNat_lt.mp far))
    | negSucc n => rfl
  simp only [ofInstruction_counter, counterFrom, read, counterOf, judged, Fault.raise, refused, bind,
    Except.bind]

theorem ofInstruction_of_undelayed (nothing : ∀ n, ¬ Denotes text n) :
    ofInstruction (.text counterName) (some text) =
      .error (.fault (.invalidDelay (.text text) (.number AddImmediate.maxDelay)) none) := by
  have written : (Value.text text).isWritable = true := rfl
  have refused := Fault.stop_invalidDelay written isWritable_maxDelay
  rw [ofInstruction_counter, counterFrom, read?_eq_none_iff.mpr nothing]
  simp only [Fault.raise, refused]

theorem ofInstruction_counterName_iff :
    ofInstruction (.text counterName) (some text) = outcome ↔ DelayOutcome text outcome := by
  constructor
  · rintro rfl
    by_cases denoted : ∃ n, Denotes text n
    · obtain ⟨n, denoted⟩ := denoted
      by_cases outside : n < 0 ∨ AddImmediate.maxDelay < n
      · rw [ofInstruction_of_outside denoted outside]
        exact .outside denoted outside
      · obtain ⟨n, rfl⟩ := Int.eq_ofNat_of_zero_le (by omega : 0 ≤ n)
        have fits : n ≤ AddImmediate.maxDelay := by omega
        rw [ofInstruction_of_delay denoted fits]
        exact .delay denoted fits
    · have nothing := not_exists.mp denoted
      rw [ofInstruction_of_undelayed nothing]
      exact .unread nothing
  · intro delayed
    cases delayed with
    | delay denoted fits => exact ofInstruction_of_delay denoted fits
    | outside denoted outside => exact ofInstruction_of_outside denoted outside
    | unread nothing => exact ofInstruction_of_undelayed nothing

/-! ### Every text -/

/-- Every text of a value has one outcome, and the count that is written with a number is that
number. -/
theorem ofInstruction_text_iff (hint : Hint) (text : Text) (outcome : Except Stop Expectation) :
    (ofInstruction (.text hint.name) (some text) = outcome ↔ CountOutcome hint text outcome) ∧
      (ofInstruction (.text counterName) (some text) = outcome ↔ DelayOutcome text outcome) ∧
      (∀ n : Nat, IsShort n →
        ofInstruction (.text hint.name) (some (signed n)) = .ok (.repeated hint n)) ∧
      ∀ n : Int, IsShort n.natAbs → n < 0 →
        ofInstruction (.text hint.name) (some (signed n)) =
          .error (.fault (.invalidCount (.number n)) none) :=
  ⟨ofInstruction_hint_iff, ofInstruction_counterName_iff,
    fun _ short => ofInstruction_of_count (denotes_signed short),
    fun _ short below => ofInstruction_of_negative (denotes_signed short) below⟩

/-- Signs, underscores, white space and the digits of two scripts in one text. -/
theorem scriptDigits_counted :
    ofInstruction (.text Hint.isb.name) (some [' ', '+', '\u0663', '_', '0', '\u00a0']) =
        .ok (.repeated .isb 30) ∧
      ofInstruction (.text Hint.isb.name) (some (signed 30)) = .ok (.repeated .isb 30) := by
  have three : Text.IsDigit '\u0663' 3 := ⟨0x660, by decide⟩
  have digits : ShowsDigits ['\u0663', '_', '0'] [3, 0] :=
    .parted three (.last (Text.isDigit_digitChar (by decide : 0 < 10)))
  have denoted : Denotes ([' '] ++ (['+', '\u0663', '_', '0'] ++ ['\u00a0'])) (30 : Nat) :=
    .mk (by decide) (.plus (.mk digits (by decide))) (by decide)
  have short : IsShort 30 := isWritable_natCast.mp (by decide)
  exact ⟨(ofInstruction_text_iff .isb _ _).1.mpr (.count denoted),
    (ofInstruction_text_iff .isb [] (.ok (.repeated .isb 30))).2.2.1 30 short⟩

end SpinWait.Expectation
