import SpinWait.Check.Counter
import SpinWait.Proofs.Check.Outcome
import SpinWait.Proofs.Instruction.OfValue

namespace SpinWait.Check

open Log

/-! The instructions of the loop one by one: which token is accepted in which slot, what is reported
of a token that is not, and the walk along the slots that stops at the first such token. -/

variable {layout : Layout} {delay : Nat} {spin : Hint} {slot : Slot} {token : Text}

/-- The token is `add x8, x8` with this immediate. -/
inductive Adds : Layout → Text → Nat → Prop
  | word {token : Text} {word : Word} {immediate : Nat} (read : Word.ofImage token = .ok word)
      (encodes : AddImmediate.Encodes word immediate) : Adds .hex token immediate
  | mnemonic {immediate : AddImmediate.Written} (wellFormed : immediate.WellFormed)
      (readable : immediate.isReadable = true) :
      Adds .mnemonic (AddImmediate.mnemonic immediate) immediate.value

/-- The token stands where an immediate is read and has none that can be: it is no word, or another
instruction, or a decimal numeral too long to be read. Of words the fault is known. -/
inductive Unread : Layout → Text → Option Fault → Prop
  | image {token : Text} {defect : Word.ImageDefect} (failed : Word.ofImage token = .error defect) :
      Unread .hex token (some (.malformedHex (.text token) (.text defect.reason)))
  | instruction {token : Text} {word : Word} (read : Word.ofImage token = .ok word)
      (other : ∀ immediate, ¬ AddImmediate.Encodes word immediate) :
      Unread .hex token (some (.malformedHex (.text word.image) (.text AddImmediate.defect)))
  | numeral {immediate : AddImmediate.Written} (wellFormed : immediate.WellFormed)
      (long : immediate.isReadable = false) :
      Unread .mnemonic (AddImmediate.mnemonic immediate) none

namespace Slot

/-- The token is the instruction of the slot. Of a branch shown by its mnemonic only the beginning
counts. -/
def Holds (layout : Layout) (delay : Nat) (spin : Hint) (slot : Slot) (token : Text) : Prop :=
  match slot, layout with
  | add, layout => Adds layout token delay
  | hint, layout => token = hintToken spin layout
  | read, .hex => token = readWord
  | read, .mnemonic => token = readName
  | compare, .hex => token = compareWord
  | compare, .mnemonic => token = compareName
  | branch, .hex => token = branchWord
  | branch, .mnemonic => branchName <+: token

/-- The fault of a slot with this text in it. -/
def mismatch (delay : Nat) (spin : Hint) (slot : Slot) (actual : Text) : Fault :=
  .idiomMismatch (.number slot.number) (.text (slot.expected delay spin)) (.text actual)

/-- Why the walk along the slots stops at this one, given the token that stands in it. -/
inductive Stops (layout : Layout) (delay : Nat) (spin : Hint) :
    Slot → Option Text → Stop → Prop
  | ended {slot : Slot} :
      Stops layout delay spin slot none (.fault (slot.mismatch delay spin endOfRegion) none)
  | differs {slot : Slot} {token : Text} (differs : ¬ slot.Holds layout delay spin token)
      (read : slot = add → ∀ cause, ¬ Unread layout token cause) :
      Stops layout delay spin slot (some token) (.fault (slot.mismatch delay spin token) none)
  | malformed {token : Text} {cause : Fault} (unread : Unread layout token (some cause)) :
      Stops layout delay spin add (some token) (.fault (add.mismatch delay spin token) (some cause))
  | oversized {token : Text} (unread : Unread layout token none) :
      Stops layout delay spin add (some token) (.refused .oversized)

theorem number_lt (slot : Slot) : slot.number < 10 := by
  cases slot <;> decide

theorem expected_ne_nil (slot : Slot) : slot.expected delay spin ≠ [] := by
  cases slot with
  | add => exact List.append_ne_nil_of_left_ne_nil (by decide) _
  | hint =>
    change spin.name ≠ []
    cases spin <;> decide
  | read => exact (by decide : readName ≠ [])
  | compare => exact (by decide : compareName ≠ [])
  | branch => exact (by decide : branchName ≠ [])

theorem stop_mismatch (slot : Slot) (actual : Text) (cause : Option Fault) :
    (slot.mismatch delay spin actual).stop cause =
      .fault (slot.mismatch delay spin actual) cause :=
  Fault.stop_idiomMismatch slot.number_lt slot.expected_ne_nil cause

theorem eq_of_mismatch {other : Slot} {actual otherActual : Text}
    (same : slot.mismatch delay spin actual = other.mismatch delay spin otherActual) :
    slot = other := by
  cases slot <;> cases other <;> first | rfl | cases same

theorem raise_mismatch {α : Type} (slot : Slot) (actual : Text) :
    ((slot.mismatch delay spin actual).raise : Except Stop α) =
      .error (.fault (slot.mismatch delay spin actual) none) := by
  rw [Fault.raise, stop_mismatch]

end Slot

/-- Each hint is shown in its own way. -/
theorem hintToken_injective {left right : Hint} (layout : Layout)
    (equal : hintToken left layout = hintToken right layout) : left = right := by
  cases layout with
  | hex => exact Hint.wordText_injective equal
  | mnemonic => exact Hint.name_injective equal

/-! ### The immediate -/

theorem wordImmediate_eq_ok {word : Word} {immediate : Nat} (read : Word.ofImage token = .ok word)
    (encodes : AddImmediate.Encodes word immediate) : wordImmediate delay token = .ok immediate := by
  simp only [wordImmediate, Word.ofToken_eq_ok read, AddImmediate.decode_eq_ok encodes, bind,
    Except.bind]

theorem wordImmediate_eq_error {cause : Fault} (unread : Unread .hex token (some cause)) :
    wordImmediate delay token =
      .error (.fault (Slot.add.mismatch delay spin token) (some cause)) := by
  rw [← Slot.stop_mismatch]
  cases unread with
  | image failed =>
    simp only [wordImmediate, Word.ofToken_eq_error failed, bind, Except.bind]
    rfl
  | instruction read other =>
    simp only [wordImmediate, Word.ofToken_eq_ok read, AddImmediate.decode_eq_error other, bind,
      Except.bind]
    rfl

/-- A token among words is read, or the fault of reading it is known. -/
theorem word_cases (token : Text) :
    (∃ word immediate, Word.ofImage token = .ok word ∧ AddImmediate.Encodes word immediate) ∨
      ∃ cause, Unread .hex token (some cause) := by
  cases read : Word.ofImage token with
  | error defect => exact .inr ⟨_, .image read⟩
  | ok word =>
    by_cases encodes : ∃ immediate, AddImmediate.Encodes word immediate
    · rcases encodes with ⟨immediate, encodes⟩
      exact .inl ⟨word, immediate, rfl, encodes⟩
    · exact .inr ⟨_, .instruction read (not_exists.mp encodes)⟩

theorem mnemonicImmediate?_eq_some {immediate : AddImmediate.Written}
    (wellFormed : immediate.WellFormed) (readable : immediate.isReadable = true) :
    mnemonicImmediate? (AddImmediate.mnemonic immediate) = .ok (some immediate.value) := by
  simp only [mnemonicImmediate?, AddImmediate.ofMnemonic?_mnemonic wellFormed, readable, if_true]

theorem mnemonicImmediate?_eq_error (unread : Unread .mnemonic token none) :
    mnemonicImmediate? token = .error (.refused .oversized) := by
  cases unread with
  | numeral wellFormed long =>
    simp only [mnemonicImmediate?, AddImmediate.ofMnemonic?_mnemonic wellFormed, long,
      Bool.false_eq_true, if_false]

theorem adds_hex_iff {immediate : Nat} : Adds .hex token immediate ↔
    ∃ word, Word.ofImage token = .ok word ∧ AddImmediate.Encodes word immediate := by
  constructor
  · intro adds
    cases adds with
    | word read encodes => exact ⟨_, read, encodes⟩
  · intro found
    obtain ⟨word, read, encodes⟩ := found
    exact .word read encodes

theorem Adds.exists_written {value : Nat} (adds : Adds .mnemonic token value) :
    ∃ immediate, AddImmediate.ofMnemonic? token = some immediate ∧ immediate.isReadable = true ∧
      immediate.value = value := by
  cases adds with
  | mnemonic wellFormed readable =>
    exact ⟨_, AddImmediate.ofMnemonic?_mnemonic wellFormed, readable, rfl⟩

/-- A token has one immediate at most. -/
theorem Adds.unique {left right : Nat} (leftAdds : Adds layout token left)
    (rightAdds : Adds layout token right) : left = right := by
  cases layout with
  | hex =>
    obtain ⟨word, read, encodes⟩ := adds_hex_iff.mp leftAdds
    obtain ⟨other, otherRead, otherEncodes⟩ := adds_hex_iff.mp rightAdds
    rw [read] at otherRead
    cases otherRead
    rw [← AddImmediate.decode?_eq_some_iff] at encodes otherEncodes
    exact Option.some.inj (encodes.symm.trans otherEncodes)
  | mnemonic =>
    obtain ⟨immediate, found, _, rfl⟩ := leftAdds.exists_written
    obtain ⟨other, otherFound, _, rfl⟩ := rightAdds.exists_written
    rw [Option.some.inj (found.symm.trans otherFound)]

theorem Adds.not_unread {immediate : Nat} (adds : Adds layout token immediate)
    (cause : Option Fault) : ¬ Unread layout token cause := by
  intro unread
  cases unread with
  | image failed =>
    obtain ⟨word, read, _⟩ := adds_hex_iff.mp adds
    rw [failed] at read
    cases read
  | instruction read other =>
    obtain ⟨word, otherRead, encodes⟩ := adds_hex_iff.mp adds
    rw [read] at otherRead
    cases otherRead
    exact other _ encodes
  | numeral wellFormed long =>
    obtain ⟨immediate, found, readable, _⟩ := adds.exists_written
    rw [AddImmediate.ofMnemonic?_mnemonic wellFormed] at found
    cases found
    rw [long] at readable
    cases readable

/-! ### One slot -/

theorem accepts_eq_true (holds : slot.Holds layout delay spin token) :
    accepts layout delay spin slot token = .ok true := by
  cases slot with
  | add =>
    cases holds with
    | word read encodes =>
      simp only [accepts, wordImmediate_eq_ok read encodes, bind, Except.bind, BEq.rfl]
    | mnemonic wellFormed readable =>
      simp only [accepts, mnemonicImmediate?_eq_some wellFormed readable, bind, Except.bind,
        BEq.rfl]
  | hint => exact congrArg Except.ok (beq_iff_eq.mpr holds)
  | read => cases layout <;> exact congrArg Except.ok (beq_iff_eq.mpr holds)
  | compare => cases layout <;> exact congrArg Except.ok (beq_iff_eq.mpr holds)
  | branch =>
    cases layout with
    | hex => exact congrArg Except.ok (beq_iff_eq.mpr holds)
    | mnemonic => exact congrArg Except.ok (List.isPrefixOf_iff_prefix.mpr holds)

theorem accepts_add_eq_false (trimmed : layout = .mnemonic → Text.IsTrimmed token)
    (differs : ¬ Adds layout token delay) (read : ∀ cause, ¬ Unread layout token cause) :
    accepts layout delay spin .add token = .ok false := by
  cases layout with
  | hex =>
    rcases word_cases token with ⟨word, immediate, found, encodes⟩ | ⟨cause, unread⟩
    · have other : immediate ≠ delay := fun same => differs (.word found (same ▸ encodes))
      simp only [accepts, wordImmediate_eq_ok found encodes, bind, Except.bind,
        beq_eq_false_iff_ne.mpr other]
    · exact absurd unread (read _)
  | mnemonic =>
    cases found : AddImmediate.ofMnemonic? token with
    | none =>
      simp only [accepts, mnemonicImmediate?, found, bind, Except.bind]
      rfl
    | some immediate =>
      obtain ⟨wellFormed, rfl⟩ := AddImmediate.eq_mnemonic_of_isTrimmed (trimmed rfl) found
      have readable : immediate.isReadable = true :=
        eq_true_of_ne_false fun long => read none (.numeral wellFormed long)
      have other : some immediate.value ≠ some delay := fun same =>
        differs (Option.some.inj same ▸ .mnemonic wellFormed readable)
      simp only [accepts, mnemonicImmediate?_eq_some wellFormed readable, bind, Except.bind,
        beq_eq_false_iff_ne.mpr other]

theorem accepts_eq_false (trimmed : layout = .mnemonic → Text.IsTrimmed token)
    (differs : ¬ slot.Holds layout delay spin token)
    (read : slot = .add → ∀ cause, ¬ Unread layout token cause) :
    accepts layout delay spin slot token = .ok false := by
  cases slot with
  | add => exact accepts_add_eq_false trimmed differs (read rfl)
  | hint => exact congrArg Except.ok (beq_eq_false_iff_ne.mpr differs)
  | read => cases layout <;> exact congrArg Except.ok (beq_eq_false_iff_ne.mpr differs)
  | compare => cases layout <;> exact congrArg Except.ok (beq_eq_false_iff_ne.mpr differs)
  | branch =>
    cases layout with
    | hex => exact congrArg Except.ok (beq_eq_false_iff_ne.mpr differs)
    | mnemonic =>
      refine congrArg Except.ok (Bool.eq_false_iff.mpr fun starts => differs ?_)
      exact List.isPrefixOf_iff_prefix.mp starts

theorem accepts_eq_malformed {cause : Fault} (unread : Unread layout token (some cause)) :
    accepts layout delay spin .add token =
      .error (.fault (Slot.add.mismatch delay spin token) (some cause)) := by
  cases layout with
  | hex =>
    have failed : wordImmediate delay token =
        .error (.fault (Slot.add.mismatch delay spin token) (some cause)) :=
      wordImmediate_eq_error unread
    simp only [accepts, failed, bind, Except.bind]
  | mnemonic => cases unread

theorem accepts_eq_oversized (unread : Unread layout token none) :
    accepts layout delay spin .add token = .error (.refused .oversized) := by
  cases layout with
  | hex => cases unread
  | mnemonic => simp only [accepts, mnemonicImmediate?_eq_error unread, bind, Except.bind]

/-- A slot holds or there is a reason to stop at it. -/
theorem slot_cases (layout : Layout) (delay : Nat) (spin : Hint) (slot : Slot)
    (found : Option Text) :
    (∃ token, found = some token ∧ slot.Holds layout delay spin token) ∨
      ∃ stop, slot.Stops layout delay spin found stop := by
  cases found with
  | none => exact .inr ⟨_, .ended⟩
  | some token =>
    by_cases holds : slot.Holds layout delay spin token
    · exact .inl ⟨token, rfl, holds⟩
    · by_cases unread : slot = .add ∧ ∃ cause, Unread layout token cause
      · rcases unread with ⟨rfl, cause, unread⟩
        cases cause with
        | none => exact .inr ⟨_, .oversized unread⟩
        | some cause => exact .inr ⟨_, .malformed unread⟩
      · exact .inr ⟨_, .differs holds fun add cause found => unread ⟨add, cause, found⟩⟩

/-- The instruction adds a decimal number with more digits than are read. -/
def IsOverlong (token : Text) : Prop :=
  ∃ immediate : AddImmediate.Written, immediate.WellFormed ∧ immediate.base = 10 ∧
    Numeral.maxDigits < immediate.digits.length ∧ token = AddImmediate.mnemonic immediate

theorem unread_none_iff : Unread layout token none ↔ layout = .mnemonic ∧ IsOverlong token := by
  constructor
  · intro unread
    cases unread with
    | numeral wellFormed long =>
      rw [AddImmediate.Written.isReadable, Bool.or_eq_false_iff, beq_eq_false_iff_ne,
        decide_eq_false_iff_not] at long
      have decimal := (wellFormed.known.resolve_left long.1).1
      exact ⟨rfl, _, wellFormed, decimal, Nat.lt_of_not_le long.2, rfl⟩
  · intro overlong
    obtain ⟨rfl, immediate, wellFormed, decimal, long, rfl⟩ := overlong
    refine .numeral wellFormed ?_
    rw [AddImmediate.Written.isReadable, decimal, decide_eq_false (Nat.not_le_of_lt long)]
    rfl

/-- The fault of a slot names the slot. -/
theorem Slot.Stops.exists_mismatch {found : Option Text} {fault : Fault} {cause : Option Fault}
    (stops : slot.Stops layout delay spin found (.fault fault cause)) :
    ∃ actual, fault = slot.mismatch delay spin actual := by
  cases stops with
  | ended => exact ⟨_, rfl⟩
  | differs => exact ⟨_, rfl⟩
  | malformed => exact ⟨_, rfl⟩

/-- Without a fault the walk stops only at an immediate that is too long to be read. -/
theorem Slot.Stops.exists_unread {found : Option Text} {refusal : Refusal}
    (stops : slot.Stops layout delay spin found (.refused refusal)) :
    slot = .add ∧ refusal = .oversized ∧ ∃ token, found = some token ∧ Unread layout token none := by
  cases stops with
  | oversized unread => exact ⟨rfl, rfl, _, rfl, unread⟩

/-! ### The walk -/

variable {slots : List Slot} {tokens : List Text}

/-- One step of the walk, with a slot that holds. -/
theorem matchSlots_outcome_cons (holds : slot.Holds layout delay spin token) :
    (matchSlots layout delay spin (slot :: slots) (token :: tokens)).outcome =
      (matchSlots layout delay spin slots tokens).outcome := by
  simp only [matchSlots, Run.outcome_bind, Run.outcome_require, accepts_eq_true holds, if_true,
    Run.outcome_note]

/-- One step of the walk, with a slot that stops it. -/
theorem matchSlots_outcome_of_stops {stop : Stop}
    (trimmed : layout = .mnemonic → ∀ token ∈ tokens, Text.IsTrimmed token)
    (stops : slot.Stops layout delay spin tokens.head? stop) :
    (matchSlots layout delay spin (slot :: slots) tokens).outcome = .error stop := by
  cases tokens with
  | nil =>
    cases stops with
    | ended => exact Slot.raise_mismatch slot endOfRegion
  | cons token tokens =>
    cases stops with
    | differs differs read =>
      simp only [matchSlots, Run.outcome_bind, Run.outcome_require,
        accepts_eq_false (fun shown => trimmed shown token (.head tokens)) differs read,
        Bool.false_eq_true, if_false]
      exact Slot.raise_mismatch slot token
    | malformed unread =>
      simp only [matchSlots, Run.outcome_bind, Run.outcome_require, accepts_eq_malformed unread]
    | oversized unread =>
      simp only [matchSlots, Run.outcome_bind, Run.outcome_require, accepts_eq_oversized unread]

theorem matchSlots_outcome_eq_ok
    (all : ∀ (index : Nat) (slot : Slot), slots[index]? = some slot →
      ∃ token, tokens[index]? = some token ∧ slot.Holds layout delay spin token) :
    (matchSlots layout delay spin slots tokens).outcome = .ok () := by
  induction slots generalizing tokens with
  | nil => rfl
  | cons slot slots ih =>
    obtain ⟨token, first, holds⟩ := all 0 slot rfl
    cases tokens with
    | nil => simp at first
    | cons other tokens =>
      obtain rfl : other = token := by simpa using first
      rw [matchSlots_outcome_cons holds]
      refine ih fun index slot found => ?_
      simpa using all (index + 1) slot (by simpa using found)

/-- The walk stops at the first slot that gives it a reason to. -/
theorem matchSlots_outcome_eq_error {index : Nat} {stop : Stop}
    (trimmed : layout = .mnemonic → ∀ token ∈ tokens, Text.IsTrimmed token)
    (found : slots[index]? = some slot)
    (earlier : ∀ other < index, ∀ slot : Slot, slots[other]? = some slot →
      ∃ token, tokens[other]? = some token ∧ slot.Holds layout delay spin token)
    (stops : slot.Stops layout delay spin tokens[index]? stop) :
    (matchSlots layout delay spin slots tokens).outcome = .error stop := by
  induction slots generalizing tokens index with
  | nil => simp at found
  | cons first slots ih =>
    cases index with
    | zero =>
      obtain rfl : first = slot := by simpa using found
      exact matchSlots_outcome_of_stops trimmed (List.head?_eq_getElem? ▸ stops)
    | succ index =>
      obtain ⟨token, here, holds⟩ := earlier 0 (Nat.succ_pos index) first rfl
      cases tokens with
      | nil => simp at here
      | cons other tokens =>
        obtain rfl : other = token := by simpa using here
        rw [matchSlots_outcome_cons holds]
        refine ih (fun shown token member => trimmed shown token (.tail other member))
          (by simpa using found) (fun before lower slot among => ?_) (by simpa using stops)
        simpa using earlier (before + 1) (Nat.succ_lt_succ lower) slot (by simpa using among)

end SpinWait.Check
