import SpinWait.Proofs.Check.Loop
import SpinWait.Proofs.Instruction.Image
import SpinWait.Proofs.Log.Addition

namespace SpinWait.Check

open Log

/-! A log in which the loop is shown passes the check for its delay and its hint, and for no
other. -/

variable {before block rest earlier tokens : List Text} {opening add : Text}
  {markers : Markers} {layout : Layout} {delay : Nat} {spin : Hint}

/-- The instructions of the loop. The second one, `add`, shows the delay as it is encoded or in any
spelling that a disassembler may choose. -/
inductive LoopTokens : Layout → Nat → Hint → Text → List Text → Prop
  | words {delay : Nat} {spin : Hint} (fits : delay ≤ AddImmediate.maxDelay) :
      LoopTokens .hex delay spin (Word.ofInt (AddImmediate.encode delay)).image
        [anchor .hex, (Word.ofInt (AddImmediate.encode delay)).image, spin.wordText,
          Slot.readWord, Slot.compareWord, Slot.branchWord]
  | mnemonics {immediate : AddImmediate.Written} {spin : Hint} {target : Text}
      (wellFormed : immediate.WellFormed) (fits : immediate.value ≤ AddImmediate.maxDelay) :
      LoopTokens .mnemonic immediate.value spin (AddImmediate.mnemonic immediate)
        [anchorName, AddImmediate.mnemonic immediate, spin.name, Slot.readName, Slot.compareName,
          Slot.branchName ++ target]

theorem LoopTokens.adds (loop : LoopTokens layout delay spin add tokens) :
    Adds layout add delay := by
  cases loop with
  | words fits => exact .word (Word.ofImage_image _) (AddImmediate.encodes_encode fits)
  | mnemonics wellFormed fits =>
    exact .mnemonic wellFormed (AddImmediate.Written.isReadable_of_value_le wellFormed fits)

theorem LoopTokens.first (loop : LoopTokens layout delay spin add tokens) :
    tokens[0]? = some (anchor layout) := by
  cases loop <;> rfl

theorem LoopTokens.add_eq (loop : LoopTokens layout delay spin add tokens) :
    tokens[Slot.add.number]? = some add := by
  cases loop <;> rfl

theorem LoopTokens.hint_eq (loop : LoopTokens layout delay spin add tokens) :
    tokens[Slot.hint.number]? = some (hintToken spin layout) := by
  cases loop <;> rfl

/-- Each slot holds, whichever delay and hint the slots of both are judged by. -/
theorem LoopTokens.holds (loop : LoopTokens layout delay spin add tokens) (slot : Slot) :
    ∃ token, tokens[slot.number]? = some token ∧ slot.Holds layout delay spin token := by
  cases slot with
  | add => exact ⟨add, loop.add_eq, loop.adds⟩
  | hint => exact ⟨_, loop.hint_eq, rfl⟩
  | read => cases loop <;> exact ⟨_, rfl, rfl⟩
  | compare => cases loop <;> exact ⟨_, rfl, rfl⟩
  | branch =>
    cases loop with
    | words => exact ⟨_, rfl, rfl⟩
    | mnemonics => exact ⟨_, rfl, List.prefix_append _ _⟩

/-- Printed as they are, the mnemonics of the loop read as themselves. Of the branch this depends on
its target. -/
theorem LoopTokens.readsAs (loop : LoopTokens .mnemonic delay spin add tokens) :
    ∀ token ∈ tokens.take 5, ReadsAs token token ∧ '|' ∉ token := by
  cases loop with
  | @mnemonics immediate _ target wellFormed fits =>
    intro token member
    have among : token ∈ [anchorName, AddImmediate.mnemonic immediate, spin.name, Slot.readName,
      Slot.compareName] := member
    simp only [List.mem_cons, List.not_mem_nil, or_false] at among
    rcases among with rfl | rfl | rfl | rfl | rfl
    · exact readsAs_of_isInstructionText (by decide)
    · exact ⟨readsAs_mnemonic wellFormed, bar_not_mem_mnemonic wellFormed⟩
    · cases spin <;> exact readsAs_of_isInstructionText (by decide)
    · exact readsAs_of_isInstructionText (by decide)
    · exact readsAs_of_isInstructionText (by decide)

/-- The loop among the instructions of a method: it begins at the first place where its first
instruction stands. -/
structure LoopIn (tokens : List Text) (layout : Layout) (delay : Nat) (spin : Hint) (add : Text)
    (position : Nat) : Prop where
  first : FirstAt tokens (anchor layout) position
  second : tokens[position + Slot.add.number]? = some add
  third : tokens[position + Slot.hint.number]? = some (hintToken spin layout)
  adds : Adds layout add delay
  holds : ∀ slot : Slot, ∃ token, tokens[position + slot.number]? = some token ∧
    slot.Holds layout delay spin token

theorem LoopTokens.loopIn {loop : List Text} (shown : LoopTokens layout delay spin add loop)
    (fresh : anchor layout ∉ earlier) (later : List Text) :
    LoopIn (earlier ++ (loop ++ later)) layout delay spin add earlier.length := by
  have within {index : Nat} {token : Text} (found : loop[index]? = some token) :
      (earlier ++ (loop ++ later))[earlier.length + index]? = some token := by
    rw [List.getElem?_append_right (Nat.le_add_right _ _), Nat.add_sub_cancel_left,
      List.getElem?_append_left (List.getElem?_eq_some_iff.mp found).1, found]
  refine ⟨⟨within shown.first, fun before lower same => ?_⟩, within shown.add_eq,
    within shown.hint_eq, shown.adds, fun slot => ?_⟩
  · rw [List.getElem?_append_left lower] at same
    exact fresh (List.mem_of_getElem? same)
  · obtain ⟨token, found, holds⟩ := shown.holds slot
    exact ⟨token, within found, holds⟩

variable {lines : List Text} {position : Nat}

theorem LoopIn.verdict (loop : LoopIn tokens layout delay spin add position)
    (method : MethodTokens lines markers layout tokens) :
    CounterVerdict lines markers delay spin (.ok layout) :=
  .passes method loop.first loop.holds

/-- Another delay fails at the second instruction. -/
theorem LoopIn.verdict_of_delay (loop : LoopIn tokens layout delay spin add position)
    (method : MethodTokens lines markers layout tokens) {other : Nat} (differs : other ≠ delay) :
    CounterVerdict lines markers other spin
      (.error (.fault (Slot.add.mismatch other spin add) none)) := by
  have stops : Slot.add.Stops layout other spin tokens[position + Slot.add.number]?
      (.fault (Slot.add.mismatch other spin add) none) := by
    rw [loop.second]
    exact .differs (fun holds => differs (Adds.unique holds loop.adds))
      fun _ cause => loop.adds.not_unread cause
  refine .stops method loop.first (fun slot lower => ?_) stops
  cases slot <;> exact absurd lower (by decide)

/-- Another hint fails at the third. -/
theorem LoopIn.verdict_of_hint (loop : LoopIn tokens layout delay spin add position)
    (method : MethodTokens lines markers layout tokens) {other : Hint} (differs : other ≠ spin) :
    CounterVerdict lines markers delay other
      (.error (.fault (Slot.hint.mismatch delay other (hintToken spin layout)) none)) := by
  have stops : Slot.hint.Stops layout delay other tokens[position + Slot.hint.number]?
      (.fault (Slot.hint.mismatch delay other (hintToken spin layout)) none) := by
    rw [loop.third]
    exact .differs (fun holds => differs (hintToken_injective layout holds.symm)) nofun
  refine .stops method loop.first (fun slot lower => ?_) stops
  cases slot with
  | add => exact ⟨add, loop.second, loop.adds⟩
  | hint => exact absurd lower (by decide)
  | read => exact absurd lower (by decide)
  | compare => exact absurd lower (by decide)
  | branch => exact absurd lower (by decide)

/-- A method whose lines show the loop, with any instructions before it but its first one and any
behind it. The check finds the delay and the hint that are shown and says of others where they
differ. Mnemonics may be shown as they are. -/
theorem counter_outcome_of_shows {loop later : List Text}
    (unnamed : ∀ line ∈ before, ¬ markers.qualifiedName <:+: line)
    (named : markers.qualifiedName <:+: opening)
    (shows : Shows layout (earlier ++ (loop ++ later)) block)
    (bar : layout = .hex → ∃ line ∈ block, '|' ∈ line)
    (shown : LoopTokens layout delay spin add loop) (fresh : anchor layout ∉ earlier)
    (inside : ∀ line ∈ block, endsRegion markers.regionEnd line = false)
    (ends : ∀ line ∈ rest.head?, endsRegion markers.regionEnd line = true) :
    (counter (before ++ opening :: (block ++ rest)) markers delay spin).outcome = .ok layout ∧
      (∀ other ≠ delay,
        (counter (before ++ opening :: (block ++ rest)) markers other spin).outcome =
          .error (.fault (Slot.add.mismatch other spin add) none)) ∧
      (∀ other ≠ spin,
        (counter (before ++ opening :: (block ++ rest)) markers delay other).outcome =
          .error (.fault (Slot.hint.mismatch delay other (hintToken spin layout)) none)) ∧
      (layout = .mnemonic → ∀ token ∈ loop.take 5, ReadsAs token token ∧ '|' ∉ token) := by
  have method : MethodTokens (before ++ opening :: (block ++ rest)) markers layout
      (earlier ++ (loop ++ later)) := by
    have method := MethodTokens.of_body (MethodBody.of_split unnamed named inside ends)
    rwa [shows.detect_eq bar, shows.tokenizeAll_eq] at method
  have found := shown.loopIn fresh later
  refine ⟨(found.verdict method).outcome_eq, ?_, ?_, ?_⟩
  · intro other differs
    exact (found.verdict_of_delay method differs).outcome_eq
  · intro other differs
    exact (found.verdict_of_hint method differs).outcome_eq
  · intro mnemonics
    subst mnemonics
    exact shown.readsAs

/-- The words of a loop with delay 14, as they stand between bars. -/
def wordsOfFourteen : List Text :=
  ["48e0 3bd5".toList, "0839 0091".toList, "3f20 03d5".toList, "49e0 3bd5".toList,
    "3f01 08eb".toList, "abff ff54".toList]

theorem counter_outcome_of_wordsOfFourteen :
    (counter ["Launcher".toList, addressed [] "7f".toList (bars wordsOfFourteen)]
        ⟨[], "Launcher".toList, [], [], []⟩ 14 .yield).outcome = .ok .hex ∧
      (∀ other ≠ 14, (counter ["Launcher".toList, addressed [] "7f".toList (bars wordsOfFourteen)]
        ⟨[], "Launcher".toList, [], [], []⟩ other .yield).outcome =
          .error (.fault (Slot.add.mismatch other .yield "0839 0091".toList) none)) ∧
      ∀ other ≠ .yield,
        (counter ["Launcher".toList, addressed [] "7f".toList (bars wordsOfFourteen)]
          ⟨[], "Launcher".toList, [], [], []⟩ 14 other).outcome =
          .error (.fault (Slot.hint.mismatch 14 other "3f20 03d5".toList) none) := by
  have fits : 14 ≤ AddImmediate.maxDelay := by decide
  have image : (Word.ofInt (AddImmediate.encode 14)).image = "0839 0091".toList := by
    decide +kernel
  have shown : LoopTokens .hex 14 .yield _ _ := .words fits
  rw [image] at shown
  have images : ∀ word ∈ wordsOfFourteen, IsImage word := by
    intro word member
    refine IsImage.of_digits ?_ ?_ ?_ <;> revert word <;> decide
  have numeral : IsHexNumeral "7f".toList := ⟨by decide, by decide⟩
  have shows : Shows .hex (wordsOfFourteen.map Text.lower ++ [])
      [addressed [] "7f".toList (bars wordsOfFourteen)] :=
    .words nofun numeral (by decide) images .nil
  have lowered : wordsOfFourteen.map Text.lower ++ [] = [] ++ (wordsOfFourteen ++ []) := by decide
  rw [lowered] at shows
  have bar : '|' ∈ addressed [] "7f".toList (bars wordsOfFourteen) := by decide
  have inside : ∀ line ∈ [addressed [] "7f".toList (bars wordsOfFourteen)],
      endsRegion [] line = false := fun _ _ => rfl
  have found := @counter_outcome_of_shows [] _ [] [] "Launcher".toList _
    ⟨[], "Launcher".toList, [], [], []⟩ _ _ _ _ _ nofun List.infix_rfl shows
    (fun _ => ⟨_, .head _, bar⟩) shown nofun inside nofun
  simp only [List.nil_append, List.append_nil] at found
  obtain ⟨passes, delays, hints, _⟩ := found
  exact ⟨passes, delays, hints⟩

end SpinWait.Check
