import SpinWait.Proofs.Check.Slot
import SpinWait.Proofs.Log.MethodBody
import SpinWait.Proofs.Log.Token

namespace SpinWait.Check

open Log

/-! Recognising the counter loop, as a table of cases over the instructions of the method. -/

variable {lines body tokens : List Text} {markers : Markers} {layout : Layout} {delay : Nat}
  {spin : Hint} {start position : Nat} {target : Text}

/-- The first position at which the target stands. -/
structure FirstAt (tokens : List Text) (target : Text) (position : Nat) : Prop where
  here : tokens[position]? = some target
  earliest : ∀ earlier < position, tokens[earlier]? ≠ some target

theorem exists_firstAt (member : target ∈ tokens) : ∃ position, FirstAt tokens target position := by
  induction tokens with
  | nil => simp at member
  | cons token others ih =>
    by_cases same : token = target
    · exact ⟨0, by simp [same], fun earlier lower => absurd lower (Nat.not_lt_zero _)⟩
    · obtain ⟨position, here, earliest⟩ := ih (List.mem_of_ne_of_mem (Ne.symm same) member)
      refine ⟨position + 1, by simpa using here, fun earlier lower => ?_⟩
      cases earlier with
      | zero => simpa using same
      | succ earlier => simpa using earliest earlier (Nat.lt_of_succ_lt_succ lower)

theorem FirstAt.unique {other : Nat} (first : FirstAt tokens target position)
    (otherFirst : FirstAt tokens target other) : position = other := by
  apply Nat.le_antisymm
  · exact Nat.le_of_not_lt fun lower => first.earliest other lower otherFirst.here
  · exact Nat.le_of_not_lt fun lower => otherFirst.earliest position lower first.here

/-- A token that is there stays where it is. -/
theorem getElem?_append_of_eq_some {index : Nat} {token : Text} (here : tokens[index]? = some token)
    (more : List Text) : (tokens ++ more)[index]? = some token := by
  rw [List.getElem?_append_left (List.getElem?_eq_some_iff.mp here).1]
  exact here

theorem FirstAt.append (first : FirstAt tokens target position) (more : List Text) :
    FirstAt (tokens ++ more) target position where
  here := getElem?_append_of_eq_some first.here more
  earliest := by
    intro earlier lower
    obtain ⟨reached, _⟩ := List.getElem?_eq_some_iff.mp first.here
    rw [List.getElem?_append_left (Nat.lt_trans lower reached)]
    exact first.earliest earlier lower

theorem FirstAt.dropWhile_eq (first : FirstAt tokens target position) :
    tokens.dropWhile (· != target) = target :: tokens.drop (position + 1) := by
  induction tokens generalizing position with
  | nil => simpa using first.here
  | cons token others ih =>
    cases position with
    | zero =>
      obtain rfl : token = target := by simpa using first.here
      simp
    | succ position =>
      have differs : token ≠ target := by simpa using first.earliest 0 (Nat.succ_pos position)
      have later : FirstAt others target position := by
        refine ⟨by simpa using first.here, fun earlier lower => ?_⟩
        simpa using first.earliest (earlier + 1) (Nat.succ_lt_succ lower)
      simp [differs, ih later]

theorem dropWhile_eq_nil_of_not_mem (absent : target ∉ tokens) :
    tokens.dropWhile (· != target) = [] := by
  rw [List.dropWhile_eq_nil_iff]
  intro token member
  exact bne_iff_ne.mpr fun same => absent (same ▸ member)

/-- The instructions of a method, in the layout in which its lines show them. -/
inductive MethodTokens (lines : List Text) (markers : Markers) : Layout → List Text → Prop
  | of_body {start : Nat} {body : List Text} (method : MethodBody lines markers start body) :
      MethodTokens lines markers (Layout.detect body) (tokenizeAll (Layout.detect body) body)

theorem MethodTokens.unique {otherLayout : Layout} {otherTokens : List Text}
    (method : MethodTokens lines markers layout tokens)
    (other : MethodTokens lines markers otherLayout otherTokens) :
    layout = otherLayout ∧ tokens = otherTokens := by
  cases method with
  | of_body method =>
    cases other with
    | of_body other =>
      obtain ⟨_, rfl⟩ := method.unique other
      exact ⟨rfl, rfl⟩

theorem MethodTokens.isTrimmed {token : Text} (method : MethodTokens lines markers layout tokens)
    (member : token ∈ tokens) : Text.IsTrimmed token := by
  cases method with
  | of_body => exact isTrimmed_of_mem_tokenizeAll member

/-- Whether the loop stands in the method at the first place where its first instruction does. The
cases exclude one another. -/
inductive CounterVerdict (lines : List Text) (markers : Markers) (delay : Nat) (spin : Hint) :
    Except Stop Layout → Prop
  | methodMissing (absent : ∀ index, ¬ MentionedAt lines markers.qualifiedName index) :
      CounterVerdict lines markers delay spin (.error (.fault
        (.markerNotFound (.text "method".toList) (.text markers.qualifiedName) (.number 0)) none))
  | anchorMissing {layout : Layout} {tokens : List Text}
      (method : MethodTokens lines markers layout tokens) (absent : anchor layout ∉ tokens) :
      CounterVerdict lines markers delay spin (.error (.fault
        (.idiomMismatch (.number 0) (.text anchorName) (.text endOfRegion)) none))
  | stops {layout : Layout} {tokens : List Text} {position : Nat} {slot : Slot} {stop : Stop}
      (method : MethodTokens lines markers layout tokens)
      (first : FirstAt tokens (anchor layout) position)
      (earlier : ∀ other : Slot, other.number < slot.number →
        ∃ token, tokens[position + other.number]? = some token ∧
          other.Holds layout delay spin token)
      (stops : slot.Stops layout delay spin tokens[position + slot.number]? stop) :
      CounterVerdict lines markers delay spin (.error stop)
  | passes {layout : Layout} {tokens : List Text} {position : Nat}
      (method : MethodTokens lines markers layout tokens)
      (first : FirstAt tokens (anchor layout) position)
      (all : ∀ slot : Slot, ∃ token, tokens[position + slot.number]? = some token ∧
        slot.Holds layout delay spin token) :
      CounterVerdict lines markers delay spin (.ok layout)

theorem method_cases (lines : List Text) (markers : Markers) :
    (∀ index, ¬ MentionedAt lines markers.qualifiedName index) ∨
      ∃ layout tokens, MethodTokens lines markers layout tokens := by
  by_cases named : ∃ index, MentionedAt lines markers.qualifiedName index
  · obtain ⟨index, named⟩ := named
    obtain ⟨start, body, method⟩ := exists_methodBody named
    exact .inr ⟨_, _, .of_body method⟩
  · exact .inl (not_exists.mp named)

theorem Slot.exists_least {property : Slot → Prop} (present : ∃ slot, property slot) :
    ∃ least, property least ∧ ∀ other : Slot, other.number < least.number → ¬ property other := by
  obtain ⟨slot, holds⟩ := present
  induction height : slot.number using Nat.strongRecOn generalizing slot with
  | ind number ih =>
    by_cases smaller : ∃ other : Slot, other.number < number ∧ property other
    · obtain ⟨other, lower, holds⟩ := smaller
      exact ih other.number lower other holds rfl
    · exact ⟨slot, holds, fun other lower holds => smaller ⟨other, height ▸ lower, holds⟩⟩

theorem exists_counterVerdict (lines : List Text) (markers : Markers) (delay : Nat) (spin : Hint) :
    ∃ verdict, CounterVerdict lines markers delay spin verdict := by
  rcases method_cases lines markers with absent | ⟨layout, tokens, method⟩
  · exact ⟨_, .methodMissing absent⟩
  · by_cases member : anchor layout ∈ tokens
    · obtain ⟨position, first⟩ := exists_firstAt member
      have decided := fun slot : Slot =>
        slot_cases layout delay spin slot tokens[position + slot.number]?
      by_cases some : ∃ slot : Slot, ∃ stop,
          slot.Stops layout delay spin tokens[position + slot.number]? stop
      · obtain ⟨slot, ⟨stop, stops⟩, least⟩ := Slot.exists_least some
        refine ⟨_, .stops method first (fun other lower => ?_) stops⟩
        exact (decided other).resolve_right (least other lower)
      · refine ⟨_, .passes method first fun slot => ?_⟩
        exact (decided slot).resolve_right (not_exists.mp some slot)
    · exact ⟨_, .anchorMissing method member⟩

/-! ### What the check answers -/

theorem candidate_outcome_of_first (method : MethodTokens lines markers layout tokens)
    (first : FirstAt tokens (anchor layout) position) :
    (candidate lines markers).outcome = .ok ⟨layout, tokens.drop (position + 1)⟩ := by
  cases method with
  | of_body method =>
    simp only [candidate, Run.outcome_bind, Run.outcome_require, Run.outcome_note,
      method.methodRegion_eq_ok, first.dropWhile_eq, Run.outcome_pure]

theorem candidate_outcome_of_absent (method : MethodTokens lines markers layout tokens)
    (absent : anchor layout ∉ tokens) :
    (candidate lines markers).outcome = .error (.fault
      (.idiomMismatch (.number 0) (.text anchorName) (.text endOfRegion)) none) := by
  have named : anchorName ≠ [] := by decide
  cases method with
  | of_body method =>
    simp only [candidate, Run.outcome_bind, Run.outcome_require, Run.outcome_note,
      method.methodRegion_eq_ok, dropWhile_eq_nil_of_not_mem absent, Run.outcome_fail]
    exact congrArg Except.error (Fault.stop_idiomMismatch (by decide : 0 < 10) named none)

/-- Nothing but the instructions of the method and their layout counts. -/
theorem counter_outcome_congr {other : List Text} (method : MethodTokens lines markers layout tokens)
    (otherMethod : MethodTokens other markers layout tokens) :
    (counter other markers delay spin).outcome = (counter lines markers delay spin).outcome := by
  have same : (candidate other markers).outcome = (candidate lines markers).outcome := by
    by_cases member : anchor layout ∈ tokens
    · obtain ⟨position, first⟩ := exists_firstAt member
      rw [candidate_outcome_of_first method first, candidate_outcome_of_first otherMethod first]
    · rw [candidate_outcome_of_absent method member, candidate_outcome_of_absent otherMethod member]
  simp only [counter, Run.outcome_bind, same]

theorem getElem?_all_iff {index : Nat} {slot : Slot} :
    Slot.all[index]? = some slot ↔ slot.number = index + 1 := by
  constructor
  · intro found
    rcases index with _ | _ | _ | _ | _ | index <;> cases found <;> rfl
  · intro number
    cases slot <;> obtain rfl := Nat.succ.inj number.symm <;> rfl

/-- Behind the first instruction, the slots are those with the numbers from 1 on. -/
theorem getElem?_drop_slot {index : Nat} {slot : Slot} (number : slot.number = index + 1) :
    (tokens.drop (position + 1))[index]? = tokens[position + slot.number]? := by
  rw [List.getElem?_drop, number]
  congr 1
  omega

theorem CounterVerdict.outcome_eq {verdict : Except Stop Layout}
    (decided : CounterVerdict lines markers delay spin verdict) :
    (counter lines markers delay spin).outcome = verdict := by
  cases decided with
  | methodMissing absent =>
    have named : "method".toList ≠ [] := by decide
    have unread : (candidate lines markers).outcome = .error ((Fault.markerNotFound
        (.text "method".toList) (.text markers.qualifiedName) (.number 0)).stop none) :=
      Run.outcome_bind_of_raise (methodRegion_eq_raise absent)
    simp only [counter, Run.outcome_bind, unread]
    exact congrArg Except.error (Fault.stop_markerNotFound (by decide : 0 < 10) named)
  | anchorMissing method absent =>
    simp only [counter, Run.outcome_bind, candidate_outcome_of_absent method absent]
  | @stops layout tokens position slot stop method first earlier stops =>
    obtain ⟨index, number⟩ : ∃ index, slot.number = index + 1 := by cases slot <;> exact ⟨_, rfl⟩
    have walk : (matchSlots layout delay spin Slot.all (tokens.drop (position + 1))).outcome =
        .error stop := by
      refine matchSlots_outcome_eq_error
        (fun _ token member => method.isTrimmed (List.mem_of_mem_drop member))
        (getElem?_all_iff.mpr number) ?_ ?_
      · intro before lower other among
        have otherNumber := getElem?_all_iff.mp among
        rw [getElem?_drop_slot otherNumber]
        exact earlier other (by omega)
      · rw [getElem?_drop_slot number]
        exact stops
    simp only [counter, Run.outcome_bind, candidate_outcome_of_first method first, walk]
  | @passes layout tokens position method first all =>
    have walk : (matchSlots layout delay spin Slot.all (tokens.drop (position + 1))).outcome =
        .ok () := by
      refine matchSlots_outcome_eq_ok fun index slot among => ?_
      rw [getElem?_drop_slot (getElem?_all_iff.mp among)]
      exact all slot
    simp only [counter, Run.outcome_bind, candidate_outcome_of_first method first, walk,
      Run.outcome_pure]

/-- A fault of the table is one of a log. -/
theorem CounterVerdict.ofLog {fault : Fault} {cause : Option Fault}
    (decided : CounterVerdict lines markers delay spin (.error (.fault fault cause))) :
    fault.OfLog := by
  cases decided with
  | methodMissing => exact .markerNotFound (by decide)
  | anchorMissing => exact .idiomMismatch (by decide)
  | @stops layout tokens position slot _ method first earlier stops =>
    have expected : slot.expected delay spin ≠ [] := slot.expected_ne_nil
    generalize tokens[position + slot.number]? = found at stops
    cases stops with
    | ended => exact .idiomMismatch expected
    | differs => exact .idiomMismatch expected
    | malformed => exact .idiomMismatch expected

theorem MethodTokens.exists_line {token : Text} (method : MethodTokens lines markers layout tokens)
    (member : token ∈ tokens) : ∃ line ∈ lines, token ∈ tokenize layout line := by
  cases method with
  | of_body method =>
    obtain ⟨line, inside, shows⟩ := List.mem_flatMap.mp member
    exact ⟨line, method.mem_lines inside, shows⟩

/-- Only a decimal numeral that is too long to be read keeps the check from a layout or a fault. -/
theorem CounterVerdict.exists_overlong {refusal : Refusal}
    (decided : CounterVerdict lines markers delay spin (.error (.refused refusal))) :
    ∃ line ∈ lines, ∃ token ∈ tokenize .mnemonic line, IsOverlong token := by
  cases decided with
  | stops method first earlier stops =>
    obtain ⟨_, _, token, found, unread⟩ := stops.exists_unread
    obtain ⟨rfl, overlong⟩ := unread_none_iff.mp unread
    obtain ⟨line, member, shows⟩ := method.exists_line (List.mem_of_getElem? found)
    exact ⟨line, member, token, shows, overlong⟩

/-- On every log the check answers what the table says. With decimal immediates of at most
`Numeral.maxDigits` digits this is a layout or a fault. -/
theorem counter_outcome_eq_iff (lines : List Text) (markers : Markers) (delay : Nat) (spin : Hint) :
    (∀ verdict, (counter lines markers delay spin).outcome = verdict ↔
        CounterVerdict lines markers delay spin verdict) ∧
      ((∀ line ∈ lines, ∀ immediate : AddImmediate.Written, immediate.WellFormed →
          AddImmediate.mnemonic immediate ∈ tokenize .mnemonic line → immediate.base = 10 →
            immediate.digits.length ≤ Numeral.maxDigits) →
        ∀ refusal, (counter lines markers delay spin).outcome ≠ .error (.refused refusal)) := by
  have answers : ∀ verdict, (counter lines markers delay spin).outcome = verdict ↔
      CounterVerdict lines markers delay spin verdict := by
    intro verdict
    constructor
    · intro outcome
      obtain ⟨other, decided⟩ := exists_counterVerdict lines markers delay spin
      rw [← outcome, decided.outcome_eq]
      exact decided
    · exact CounterVerdict.outcome_eq
  refine ⟨answers, fun short refusal refused => ?_⟩
  obtain ⟨line, member, _, shows, immediate, wellFormed, decimal, long, rfl⟩ :=
    ((answers _).mp refused).exists_overlong
  exact Nat.not_le_of_lt long (short line member immediate wellFormed shows decimal)

end SpinWait.Check
