import SpinWait.Proofs.Check.CallLog
import SpinWait.Proofs.Check.Truncation

namespace SpinWait.Check

open Log Numeral

/-! What one check answers about a log fixes what the others do: at most one number of hints passes,
a wrong number is told the right one, and at most one delay and one hint pass as a loop. -/

variable {lines : List Text} {markers : Markers} {hint spin otherSpin : Hint}
  {layout otherLayout : Layout} {count other delay found : Nat} {fault : Fault}
  {cause : Option Fault}

/-- Either the lines before the call cannot be read, whatever is counted, or they show one number of
the hints. -/
theorem approach_unread_or_finds (lines : List Text) (markers : Markers) :
    (∃ unread, ApproachVerdict lines markers (.error unread)) ∨
      ∀ hint, ∃ layout found, Finds lines markers hint layout found := by
  obtain ⟨verdict, decided⟩ := exists_approachVerdict lines markers
  cases verdict with
  | error unread => exact .inl ⟨unread, decided⟩
  | ok approach =>
    right
    intro hint
    exact ⟨_, _, decided.finds (lastRun_trailingRun approach.tokens (hintToken hint approach.layout))⟩

theorem ApproachVerdict.repeated_outcome (unread : ApproachVerdict lines markers (.error fault))
    (hint : Hint) (count : Nat) : (repeated lines markers hint count).outcome = fault.raise :=
  RepeatedVerdict.outcome_eq (.unread unread)

theorem Passes.unique (passes : Passes lines markers hint count)
    (otherPasses : Passes lines markers hint other) : count = other := by
  rcases approach_unread_or_finds lines markers with ⟨unread, decided⟩ | finds
  · obtain ⟨layout, passed⟩ := passes
    rw [decided.repeated_outcome hint count] at passed
    cases passed
  · obtain ⟨layout, found, finds⟩ := finds hint
    exact (finds.passes_iff.mp passes).trans (finds.passes_iff.mp otherPasses).symm

/-- A reported number of hints is the one that is there. -/
theorem finds_of_countMismatch {instruction shown expected : Value}
    (failed : (repeated lines markers hint count).outcome =
      .error (.fault (.countMismatch instruction shown expected) cause)) :
    ∃ layout, ∃ found : Nat, Finds lines markers hint layout found ∧
      instruction = .text (hintToken hint layout) ∧ shown = .number found ∧
      expected = .number count ∧ cause = none ∧ IsShort found := by
  rcases approach_unread_or_finds lines markers with ⟨unread, decided⟩ | finds
  · rw [decided.repeated_outcome hint count] at failed
    have kind := decided.kind_ne
    rw [← Fault.eq_of_raise failed] at kind
    exact absurd rfl kind
  · obtain ⟨layout, found, finds⟩ := finds hint
    by_cases same : found = count
    · rw [finds count, if_pos same] at failed
      cases failed
    · rw [finds.outcome_of_ne same] at failed
      obtain ⟨checked, equal, rfl⟩ := Fault.raise_eq_fault failed
      cases equal
      have writable := Fault.OfLog.countMismatch.isWritable_of_check checked
      exact ⟨layout, found, finds, rfl, rfl, rfl, rfl, (Fault.isWritable_countMismatch.mp writable).1⟩

/-- The loop that a method shows has one delay and one hint. -/
theorem counter_pattern_unique {otherDelay : Nat}
    (passes : (counter lines markers delay spin).outcome = .ok layout)
    (otherPasses : (counter lines markers otherDelay otherSpin).outcome = .ok otherLayout) :
    delay = otherDelay ∧ spin = otherSpin := by
  obtain ⟨verdict, decided⟩ := exists_counterVerdict lines markers delay spin
  obtain ⟨otherVerdict, otherDecided⟩ := exists_counterVerdict lines markers otherDelay otherSpin
  rw [decided.outcome_eq] at passes
  rw [otherDecided.outcome_eq] at otherPasses
  subst passes otherPasses
  cases decided with
  | passes method first all =>
    cases otherDecided with
    | passes otherMethod otherFirst otherAll =>
      obtain ⟨rfl, rfl⟩ := method.unique otherMethod
      obtain rfl := first.unique otherFirst
      obtain ⟨add, here, adds⟩ := all .add
      obtain ⟨otherAdd, otherHere, otherAdds⟩ := otherAll .add
      obtain rfl := Option.some.inj (here.symm.trans otherHere)
      obtain ⟨shown, there, hints⟩ := all .hint
      obtain ⟨otherShown, otherThere, otherHints⟩ := otherAll .hint
      obtain rfl := Option.some.inj (there.symm.trans otherThere)
      exact ⟨Adds.unique adds otherAdds, hintToken_injective _ (hints.symm.trans otherHints)⟩

/-- At most one number of each hint passes. A fault of the count names the one that does, and for
every other number the fault is the same but for the number expected. All other faults are the same
for every hint and number. At most one delay and one hint pass as a loop, in whichever layout and
however the delay is written. -/
theorem verdicts_determine_pattern (lines : List Text) (markers : Markers) :
    (∀ hint count other, Passes lines markers hint count → Passes lines markers hint other →
        count = other) ∧
      (∀ hint count instruction shown expected cause,
        (repeated lines markers hint count).outcome =
            .error (.fault (.countMismatch instruction shown expected) cause) →
          ∃ found : Nat, shown = .number found ∧ expected = .number count ∧ cause = none ∧
            Passes lines markers hint found ∧
            ∀ other ≠ found, IsShort other → (repeated lines markers hint other).outcome =
              .error (.fault (.countMismatch instruction shown (.number other)) none)) ∧
      (∀ hint count fault cause,
        (repeated lines markers hint count).outcome = .error (.fault fault cause) →
          fault.kind ≠ .countMismatch → ∀ otherHint other,
            (repeated lines markers otherHint other).outcome = .error (.fault fault cause)) ∧
      ∀ delay spin layout otherDelay otherSpin otherLayout,
        (counter lines markers delay spin).outcome = .ok layout →
          (counter lines markers otherDelay otherSpin).outcome = .ok otherLayout →
            delay = otherDelay ∧ spin = otherSpin := by
  refine ⟨fun _ _ _ => Passes.unique, ?_, ?_, fun _ _ _ _ _ _ => counter_pattern_unique⟩
  · intro hint count instruction shown expected cause failed
    obtain ⟨layout, found, finds, rfl, rfl, rfl, rfl, short⟩ := finds_of_countMismatch failed
    refine ⟨found, rfl, rfl, rfl, finds.passes_iff.mpr rfl, fun other differs otherShort => ?_⟩
    exact finds.outcome_of_short (Ne.symm differs) short otherShort
  · intro hint count fault cause failed kind otherHint other
    rcases approach_unread_or_finds lines markers with ⟨unread, decided⟩ | finds
    · rw [decided.repeated_outcome] at failed ⊢
      exact failed
    · obtain ⟨layout, found, finds⟩ := finds hint
      by_cases same : found = count
      · rw [finds count, if_pos same] at failed
        cases failed
      · rw [finds.outcome_of_ne same] at failed
        rw [Fault.eq_of_raise failed] at kind
        exact absurd rfl kind

/-- A loop, and two more hints before a call. -/
def loopAndCall : CallLog :=
  .sample (loopLines ++ ["0x7: nop".toList]) ("0x8: nop ;".toList ++ Markers.default.callSite) []

theorem loopAndCall_pattern :
    (repeated loopAndCall.lines Markers.default .nop 5).outcome =
        .error (.fault (.countMismatch (.text Hint.nop.name) (.number 2) (.number 5)) none) ∧
      Passes loopAndCall.lines Markers.default .nop 2 ∧
      (∀ other, Passes loopAndCall.lines Markers.default .nop other → other = 2) ∧
      (counter loopAndCall.lines Markers.default 14 .yield).outcome = .ok .mnemonic ∧
      ∀ delay spin layout,
        (counter loopAndCall.lines Markers.default delay spin).outcome = .ok layout →
          delay = 14 ∧ spin = .yield := by
  have marked : loopAndCall.Marked Markers.default :=
    CallLog.sample_marked (List.suffix_append _ _).isInfix (by decide +kernel) (by decide +kernel)
  have plain : ∀ line ∈ loopAndCall.region, '|' ∉ line := by decide +kernel
  have two : trailingRun (bodyTokens .mnemonic loopAndCall.lines loopAndCall.headerIndex
      loopAndCall.callIndex ++ tokenize .mnemonic loopAndCall.call) Hint.nop.name = 2 := by
    decide +kernel
  have finds : Finds loopAndCall.lines Markers.default .nop .mnemonic 2 :=
    (marked.mnemonicsAt plain).finds_iff.mpr (two ▸ lastRun_trailingRun _ _)
  have failed := finds.outcome_of_short (show 2 ≠ 5 by decide) (isShort_of_digit (by decide))
    (isShort_of_digit (by decide))
  have loops : (counter loopAndCall.lines Markers.default 14 .yield).outcome = .ok .mnemonic := by
    have shown : (counter loopAndCall.lines Markers.default 14 .yield).outcome.toOption =
        some .mnemonic := by decide +kernel
    cases ended : (counter loopAndCall.lines Markers.default 14 .yield).outcome with
    | error stop =>
      rw [ended] at shown
      cases shown
    | ok layout =>
      rw [ended] at shown
      rw [Option.some.inj shown]
  obtain ⟨unique, reports, _, pattern⟩ :=
    verdicts_determine_pattern loopAndCall.lines Markers.default
  obtain ⟨found, equal, _, _, passes, _⟩ := reports _ _ _ _ _ _ failed
  obtain rfl : 2 = found := by injection equal with equal; omega
  refine ⟨failed, passes, fun other otherPasses => unique _ _ _ otherPasses passes, loops, ?_⟩
  intro delay spin layout otherLoops
  exact pattern _ _ _ _ _ _ otherLoops loops

end SpinWait.Check
