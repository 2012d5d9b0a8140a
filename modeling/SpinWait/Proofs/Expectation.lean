import SpinWait.Expectation
import SpinWait.Proofs.Fault.Wording

namespace SpinWait.Expectation

/-! What comes of an instruction name and the text of a value: an expectation whose count can be
written, or a fault. -/

open Numeral

variable {instruction : Value} {expectation : Expectation}

/-- A count, if there is one, is short enough to be written. -/
def HasShortCount : Expectation → Prop
  | repeated _ count => IsShort count
  | counter .. => True

theorem isWritable_maxDelay : (Value.number AddImmediate.maxDelay).isWritable = true := by
  have power : 10 ^ 4 ≤ 10 ^ maxDigits := Nat.pow_le_pow_right (by decide) (by decide)
  have fewer : AddImmediate.maxDelay < 10 ^ 4 := by decide
  exact isWritable_natCast.mpr (Nat.lt_of_lt_of_le fewer power)

theorem isWritable_one : (Value.number 1).isWritable = true :=
  isWritable_natCast.mpr (isShort_of_digit (by decide))

/-! ### The parts -/

theorem hintOf_answered (writable : instruction.isWritable = true) :
    Answered (hintOf instruction) := by
  unfold hintOf
  split
  · exact .ok _
  · rw [Fault.raise, Fault.stop_unknownHint writable]
    exact .fault _ _

theorem countOf_answered {count : Value} (writable : count.isWritable = true) :
    Answered (countOf count) := by
  unfold countOf
  split
  · exact .ok _
  · rw [Fault.raise, Fault.stop_invalidCount writable]
    exact .fault _ _

theorem countOf_eq_ok {count : Value} {n : Nat} (read : countOf count = .ok n) :
    count = .number n := by
  unfold countOf at read
  split at read
  · exact congrArg (Value.number ∘ Int.ofNat) (Except.ok.inj read)
  · cases read

theorem delayOf_answered {delay : Value} (writable : delay.isWritable = true) :
    Answered (AddImmediate.delayOf delay) := by
  unfold AddImmediate.delayOf
  split
  · split
    · exact .ok _
    · rw [Fault.raise, Fault.stop_invalidDelay writable isWritable_maxDelay]
      exact .fault _ _
  · rw [Fault.raise, Fault.stop_invalidDelay writable isWritable_maxDelay]
    exact .fault _ _

theorem repeatedOf_answered {count : Value} (instructionWritable : instruction.isWritable = true)
    (countWritable : count.isWritable = true) : Answered (repeatedOf instruction count) :=
  .bind (hintOf_answered instructionWritable) fun _ _ =>
    .bind (countOf_answered countWritable) fun _ _ => .ok _

theorem repeatedOf_hasShortCount {count : Value} (writable : count.isWritable = true)
    (stated : repeatedOf instruction count = .ok expectation) : expectation.HasShortCount := by
  obtain ⟨hint, _, rest⟩ := exists_of_bind_eq_ok stated
  obtain ⟨n, counted, last⟩ := exists_of_bind_eq_ok rest
  obtain rfl := Except.ok.inj last
  obtain rfl := countOf_eq_ok counted
  exact isWritable_natCast.mp writable

theorem counterOf_answered {delay : Value} (delayWritable : delay.isWritable = true)
    (instructionWritable : instruction.isWritable = true) :
    Answered (counterOf delay instruction) :=
  .bind (delayOf_answered delayWritable) fun _ _ =>
    .bind (hintOf_answered instructionWritable) fun _ _ => .ok _

theorem counterOf_hasShortCount {delay : Value}
    (stated : counterOf delay instruction = .ok expectation) : expectation.HasShortCount := by
  obtain ⟨fitting, _, rest⟩ := exists_of_bind_eq_ok stated
  obtain ⟨hint, _, last⟩ := exists_of_bind_eq_ok rest
  obtain rfl := Except.ok.inj last
  trivial

/-! ### The whole -/

theorem isWritable_of_read {text : Text} {n : Int} (read : Numeral.read? text = some n) :
    (Value.number n).isWritable = true := isWritable_iff.mpr (read?_isShort read)

/-- What is done with an instruction name and the text of a value: without a number that is read,
there is nothing left to judge. -/
inductive Judged (instruction : Value) : Except Stop Expectation → Prop
  | noDelay : Judged instruction (Fault.invalidDelay .absent (.number AddImmediate.maxDelay)).raise
  | unreadDelay {text : Text} :
      Judged instruction (Fault.invalidDelay (.text text) (.number AddImmediate.maxDelay)).raise
  | unreadCount {text : Text} : Judged instruction (Fault.invalidCount (.text text)).raise
  | delay {number : Int} (writable : (Value.number number).isWritable = true) :
      Judged instruction (counterOf (.number number) (.hint .yield))
  | count {number : Int} (writable : (Value.number number).isWritable = true) :
      Judged instruction (repeatedOf instruction (.number number))

theorem judged_ofInstruction (instruction : Value) (value : Option Text) :
    Judged instruction (ofInstruction instruction value) := by
  unfold ofInstruction
  split
  · unfold counterFrom
    split
    · exact .noDelay
    · split
      · exact .unreadDelay
      · next read => exact .delay (isWritable_of_read read)
  · unfold repeatedFrom
    split
    · exact .count isWritable_one
    · split
      · exact .unreadCount
      · next read => exact .count (isWritable_of_read read)

variable {outcome : Except Stop Expectation}

theorem Judged.answered (judged : Judged instruction outcome)
    (writable : instruction.isWritable = true) : Answered outcome := by
  cases judged with
  | noDelay =>
    rw [Fault.raise, Fault.stop_invalidDelay rfl isWritable_maxDelay]
    exact .fault _ _
  | unreadDelay =>
    rw [Fault.raise, Fault.stop_invalidDelay rfl isWritable_maxDelay]
    exact .fault _ _
  | unreadCount =>
    rw [Fault.raise, Fault.stop_invalidCount rfl]
    exact .fault _ _
  | delay numberWritable => exact counterOf_answered numberWritable rfl
  | count numberWritable => exact repeatedOf_answered writable numberWritable

theorem Judged.hasShortCount (judged : Judged instruction outcome)
    (stated : outcome = .ok expectation) : expectation.HasShortCount := by
  cases judged with
  | noDelay => cases stated
  | unreadDelay => cases stated
  | unreadCount => cases stated
  | delay => exact counterOf_hasShortCount stated
  | count writable => exact repeatedOf_hasShortCount writable stated

theorem ofInstruction_answered (writable : instruction.isWritable = true) (value : Option Text) :
    Answered (ofInstruction instruction value) :=
  (judged_ofInstruction instruction value).answered writable

theorem ofInstruction_hasShortCount {value : Option Text}
    (stated : ofInstruction instruction value = .ok expectation) : expectation.HasShortCount :=
  (judged_ofInstruction instruction value).hasShortCount stated

/-! ### The kind of expectation -/

theorem repeatedOf_eq_ok {count : Value} (stated : repeatedOf instruction count = .ok expectation) :
    ∃ hint number, expectation = .repeated hint number := by
  obtain ⟨hint, _, rest⟩ := exists_of_bind_eq_ok stated
  obtain ⟨number, _, last⟩ := exists_of_bind_eq_ok rest
  exact ⟨hint, number, (Except.ok.inj last).symm⟩

theorem counterOf_eq_ok {delay : Value} (stated : counterOf delay instruction = .ok expectation) :
    ∃ number spin fits, expectation = .counter number spin fits := by
  obtain ⟨fitting, _, rest⟩ := exists_of_bind_eq_ok stated
  obtain ⟨spin, _, last⟩ := exists_of_bind_eq_ok rest
  exact ⟨fitting.1, spin, fitting.2, (Except.ok.inj last).symm⟩

theorem repeatedFrom_eq_ok {value : Option Text}
    (stated : repeatedFrom instruction value = .ok expectation) :
    ∃ hint number, expectation = .repeated hint number := by
  unfold repeatedFrom at stated
  split at stated
  · exact repeatedOf_eq_ok stated
  · split at stated
    · cases stated
    · exact repeatedOf_eq_ok stated

theorem counterFrom_eq_ok {value : Option Text} (stated : counterFrom value = .ok expectation) :
    ∃ number spin fits, expectation = .counter number spin fits := by
  unfold counterFrom at stated
  split at stated
  · cases stated
  · split at stated
    · cases stated
    · exact counterOf_eq_ok stated

/-- The counter loop is expected exactly if its name is given. -/
theorem ofInstruction_counter_iff {value : Option Text}
    (stated : ofInstruction instruction value = .ok expectation) :
    (∃ number spin fits, expectation = .counter number spin fits) ↔
      instruction.text? = some counterName := by
  unfold ofInstruction at stated
  by_cases named : instruction.text? = some counterName
  · rw [if_pos named] at stated
    exact iff_of_true (counterFrom_eq_ok stated) named
  · rw [if_neg named] at stated
    refine iff_of_false (fun counter => ?_) named
    obtain ⟨hint, count, rfl⟩ := repeatedFrom_eq_ok stated
    obtain ⟨_, _, _, other⟩ := counter
    cases other

/-! ### The fault -/

/-- What is given for a number: nothing, a text that is none, or the number that was read. -/
inductive Given : Value → Prop
  | absent : Given .absent
  | text {text : Text} : Given (.text text)
  | number {number : Int} : Given (.number number)

/-- The faults of a caller. Each quotes what it was given. -/
inductive CallerFault (instruction : Value) : Fault → Prop
  | unknownHint : CallerFault instruction (.unknownHint instruction)
  | invalidDelay {delay : Value} (given : Given delay) :
      CallerFault instruction (.invalidDelay delay (.number AddImmediate.maxDelay))
  | invalidCount {count : Value} (given : Given count) :
      CallerFault instruction (.invalidCount count)

theorem CallerFault.contract_mem_lineage {fault : Fault} (blamed : CallerFault instruction fault) :
    .contract ∈ fault.kind.lineage := by
  cases blamed <;> exact .tail _ (.head _)

/-- If there is a fault, it is one of the caller. -/
def BlamesCaller {α : Type} (instruction : Value) (outcome : Except Stop α) : Prop :=
  ∀ fault cause, outcome = .error (.fault fault cause) → CallerFault instruction fault

namespace BlamesCaller

variable {α β : Type}

theorem ok (result : α) : BlamesCaller instruction (.ok result) := nofun

theorem raise {fault : Fault} (blamed : CallerFault instruction fault) :
    BlamesCaller instruction (fault.raise : Except Stop α) := by
  intro other cause raised
  rwa [Fault.eq_of_raise raised]

theorem bind {outcome : Except Stop α} {next : α → Except Stop β}
    (first : BlamesCaller instruction outcome)
    (later : ∀ result, BlamesCaller instruction (next result)) :
    BlamesCaller instruction (outcome >>= next) := by
  cases outcome with
  | error stop =>
    intro fault cause ended
    obtain rfl := Except.error.inj ended
    exact first fault cause rfl
  | ok result => exact later result

end BlamesCaller

theorem hintOf_blamesCaller (name : Value) : BlamesCaller name (hintOf name) := by
  unfold hintOf
  split
  · exact .ok _
  · exact .raise .unknownHint

theorem countOf_blamesCaller {count : Value} (given : Given count) :
    BlamesCaller instruction (countOf count) := by
  unfold countOf
  split
  · exact .ok _
  · exact .raise (.invalidCount given)

theorem delayOf_blamesCaller {delay : Value} (given : Given delay) :
    BlamesCaller instruction (AddImmediate.delayOf delay) := by
  unfold AddImmediate.delayOf
  split
  · split
    · exact .ok _
    · exact .raise (.invalidDelay given)
  · exact .raise (.invalidDelay given)

theorem repeatedOf_blamesCaller {count : Value} (given : Given count) :
    BlamesCaller instruction (repeatedOf instruction count) :=
  .bind (hintOf_blamesCaller instruction) fun _ =>
    .bind (countOf_blamesCaller given) fun _ => .ok _

/-- The hint of the loop is not the caller's to choose. -/
theorem counterOf_blamesCaller {delay : Value} (given : Given delay) :
    BlamesCaller instruction (counterOf delay (.hint .yield)) :=
  have known : hintOf (.hint .yield) = .ok .yield := rfl
  .bind (delayOf_blamesCaller given) fun _ => known ▸ .ok _

theorem Judged.blamesCaller (judged : Judged instruction outcome) :
    BlamesCaller instruction outcome := by
  cases judged with
  | noDelay => exact .raise (.invalidDelay .absent)
  | unreadDelay => exact .raise (.invalidDelay .text)
  | unreadCount => exact .raise (.invalidCount .text)
  | delay => exact counterOf_blamesCaller .number
  | count => exact repeatedOf_blamesCaller .number

end SpinWait.Expectation
