import SpinWait.Check.Verify
import SpinWait.Proofs.Check.Approach
import SpinWait.Proofs.Check.Loop
import SpinWait.Proofs.Trace.Recording

namespace SpinWait

/-! What a check notes on its way can be recorded, because no number in it is larger than the log. -/

open Numeral

namespace Check

open Log

variable {lines : List Text} {markers : Markers} {delay count : Nat} {spin hint : Hint}

theorem requireFrom_index_lt {start : Nat} {marker name : Text} {hit : Hit}
    (found : requireFrom lines start marker name = .ok hit) : hit.index < lines.length := by
  by_cases present : ∃ index, start ≤ index ∧ MentionedAt lines marker index
  · obtain ⟨index, reached, mentioned⟩ := present
    obtain ⟨first, lower, mentioned, earliest⟩ := exists_first mentioned reached
    obtain ⟨line, _, located⟩ := requireFrom_eq_ok name mentioned lower earliest
    obtain rfl := Except.ok.inj (located.symm.trans found)
    exact mentioned.lt_length
  · have missing := requireFrom_eq_raise name fun index reached mentioned =>
      present ⟨index, reached, mentioned⟩
    rw [missing] at found
    cases found

theorem requireUnique_index_lt {marker name : Text} {hit : Hit}
    (found : requireUnique lines marker name = .ok hit) : hit.index < lines.length := by
  obtain ⟨first, located, rest⟩ := exists_of_bind_eq_ok found
  obtain ⟨_, _, last⟩ := exists_of_bind_eq_ok rest
  obtain rfl := Except.ok.inj last
  exact requireFrom_index_lt located

theorem approach_writable (small : IsSmall lines) (markers : Markers) :
    (approach lines markers).Writable := by
  have size := length_le_weight lines
  refine Run.writable_bind (Run.writable_require _) fun header found => ?_
  have headerInside := requireUnique_index_lt found
  refine Run.writable_bind (Run.writable_note (Note.isWritable_markerFound
    (small.isShort (by omega)))) fun _ _ => ?_
  refine Run.writable_bind (Run.writable_require _) fun call found => ?_
  have callInside := requireFrom_index_lt found
  refine Run.writable_bind (Run.writable_require _) fun _ _ => ?_
  refine Run.writable_bind (Run.writable_note (Note.isWritable_markerFound
    (small.isShort (by omega)))) fun _ _ => ?_
  refine Run.writable_bind (Run.writable_note (Note.isWritable_formatDetected
    (small.isShort ?_))) fun _ _ => ?_
  · rw [List.length_take]
    omega
  refine Run.writable_bind (Run.writable_require _) fun _ _ => ?_
  refine Run.writable_bind (Run.writable_require _) fun _ _ => ?_
  exact Run.writable_pure _

/-! ### The count -/

theorem repeated_writable (small : IsSmall lines) (countShort : IsShort count)
    (markers : Markers) (hint : Hint) : (repeated lines markers hint count).Writable := by
  refine Run.writable_bind (approach_writable small markers) fun read done => ?_
  obtain ⟨verdict, decided⟩ := exists_approachVerdict lines markers
  rw [decided.outcome_eq] at done
  cases verdict with
  | error fault => cases done
  | ok other =>
    cases done
    have bound := decided.length_tokens_le
    have run := trailingRun_le read.tokens (hintToken hint read.layout)
    refine Run.writable_bind (Run.writable_note (Note.isWritable_tokensCollected
      (small.isShort (by omega)) _)) fun _ _ => ?_
    refine Run.writable_bind (Run.writable_note (Note.isWritable_runCounted
      (small.isShort (by omega)) countShort)) fun _ _ => ?_
    split
    · exact Run.writable_pure _
    · exact Run.writable_fail _

/-! ### The loop -/

theorem candidate_writable (small : IsSmall lines) (markers : Markers) :
    (candidate lines markers).Writable := by
  have size := length_le_weight lines
  refine Run.writable_bind (Run.writable_require _) fun region found => ?_
  obtain ⟨inside, kept⟩ : region.start < lines.length ∧ region.body.Sublist lines := by
    rcases method_cases lines markers with absent | ⟨layout, tokens, method⟩
    · rw [Run.outcome_require, methodRegion_eq_raise absent] at found
      cases found
    · cases method with
      | of_body method =>
        rw [Run.outcome_require, method.methodRegion_eq_ok] at found
        cases found
        obtain ⟨rest, split, _⟩ := method.split
        refine ⟨method.opened.lt_length, ?_⟩
        exact (List.sublist_append_left _ rest).trans (split ▸ List.drop_sublist _ _)
  have short := kept.length_le
  have shown := length_tokenizeAll_le (Layout.detect region.body) region.body
  have lighter := weight_le_of_sublist kept
  refine Run.writable_bind (Run.writable_note (Note.isWritable_markerFound
    (small.isShort (by omega)))) fun _ _ => ?_
  refine Run.writable_bind (Run.writable_note (Note.isWritable_formatDetected
    (small.isShort (by omega)))) fun _ _ => ?_
  refine Run.writable_bind (Run.writable_note (Note.isWritable_tokensCollected
    (small.isShort (by omega)) _)) fun _ _ => ?_
  split
  · exact Run.writable_fail _
  · exact Run.writable_bind (Run.writable_note (Note.isWritable_slotMatched
      (isShort_of_digit (by decide)))) fun _ _ => Run.writable_pure _

theorem matchSlots_writable (layout : Layout) (delay : Nat) (spin : Hint) (slots : List Slot)
    (tokens : List Text) : (matchSlots layout delay spin slots tokens).Writable := by
  induction slots generalizing tokens with
  | nil => exact Run.writable_pure _
  | cons slot slots ih =>
    cases tokens with
    | nil => exact Run.writable_fail _
    | cons token tokens =>
      refine Run.writable_bind (Run.writable_require _) fun accepted _ => ?_
      cases accepted with
      | false => exact Run.writable_fail _
      | true =>
        exact Run.writable_bind (Run.writable_note (Note.isWritable_slotMatched
          (isShort_of_digit slot.number_lt))) fun _ _ => ih tokens

theorem counter_writable (small : IsSmall lines) (markers : Markers) (delay : Nat) (spin : Hint) :
    (counter lines markers delay spin).Writable := by
  refine Run.writable_bind (candidate_writable small markers) fun found _ => ?_
  refine Run.writable_bind (matchSlots_writable _ _ _ _ _) fun _ _ => ?_
  exact Run.writable_pure _

end Check

end SpinWait
