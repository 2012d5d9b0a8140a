import SpinWait.Proofs.Check.Answer

namespace SpinWait.Check

open Log

/-! What a check notes on its way, beside how it ends: a table with one case for each way out. The
notes tell how far the check came, so their number tells how it ended. -/

variable {lines body tokens : List Text} {markers : Markers} {hint spin : Hint}
  {layout : Layout} {slot : Slot} {count delay header call start position : Nat} {notes : List Note}
  {expectation : Expectation}

/-! ### The lines before a call -/

/-- The marker of this name is missing, or not the only one. -/
inductive Concerns (name : String) : Fault → Prop
  | missing {marker : Text} {start : Nat} : Concerns name (markerMissing name marker start)
  | repeated {marker : Text} {occurrences : Nat} :
      Concerns name (markerRepeated name marker occurrences)

/-- The notes on a header, a call site, and the layout of the lines between them. -/
def callNotes (header call : Nat) (layout : Layout) : List Note :=
  [.markerFound "method header".toList header, .markerFound "call site".toList call,
    .formatDetected layout (call - (header + 1))]

/-- Notes are taken up to the first marker that is missing. -/
inductive ApproachCourse (lines : List Text) (markers : Markers) :
    List Note → Except Fault Approach → Prop
  | header {fault : Fault} (unread : ApproachVerdict lines markers (.error fault))
      (about : Concerns "method header" fault) : ApproachCourse lines markers [] (.error fault)
  | callSite {header : Nat} {fault : Fault} (headed : OnlyAt lines markers.header header)
      (unread : ApproachVerdict lines markers (.error fault)) (about : Concerns "call site" fault) :
      ApproachCourse lines markers [.markerFound "method header".toList header] (.error fault)
  | behindCall {header call start : Nat} {name : String} {marker : Text}
      (headed : OnlyAt lines markers.header header) (called : OnlyAt lines markers.callSite call)
      (unread : ApproachVerdict lines markers (.error (markerMissing name marker start)))
      (about : name = "call-site frame" ∨ name = "instructions after call site") :
      ApproachCourse lines markers
        (callNotes header call (Layout.detect (between lines (header + 1) (call + 3))))
        (.error (markerMissing name marker start))
  | read {header call : Nat} {approach : Approach} (headed : OnlyAt lines markers.header header)
      (called : OnlyAt lines markers.callSite call)
      (read : ApproachVerdict lines markers (.ok approach)) :
      ApproachCourse lines markers (callNotes header call approach.layout) (.ok approach)

theorem approach_notes_of_called (headed : OnlyAt lines markers.header header)
    (later : header < call) (called : OnlyAt lines markers.callSite call) :
    (approach lines markers).notes =
      callNotes header call (Layout.detect (between lines (header + 1) (call + 3))) := by
  obtain ⟨headerLine, _, headerFound⟩ := headed.requireUnique_eq_ok "method header".toList
  obtain ⟨line, here, callFound⟩ := called.requireFrom_eq_ok "call site".toList
    (show header + 1 ≤ call from later)
  have single := checkUnique_eq_ok "call site".toList (Nat.le_of_eq called.countMentions_eq_one)
  have inside := called.mentionedAt.lt_length
  have width : ((lines.drop (header + 1)).take (call - (header + 1))).length =
      call - (header + 1) := by
    rw [List.length_take, List.length_drop]
    omega
  rw [Int.natCast_add, Int.natCast_one] at callFound
  simp only [approach, Run.notes_bind, Run.outcome_require, Run.outcome_note, Run.notes_require,
    Run.notes_note, Run.notes_pure, headerFound, callFound, single, width, between, callNotes]
  cases requireFrame lines markers (call + 1) with
  | error stop => rfl
  | ok _ => cases lastTokens lines ⟨call, line⟩ _ <;> rfl

theorem ApproachVerdict.course {verdict : Except Fault Approach}
    (decided : ApproachVerdict lines markers verdict) :
    ApproachCourse lines markers (approach lines markers).notes verdict := by
  cases decided with
  | headerMissing absent =>
    have nothing : (approach lines markers).notes = [] := by
      simp [approach, requireUnique_eq_raise_notFound _ absent, Fault.raise]
    rw [nothing]
    exact .header (.headerMissing absent) .missing
  | headerRepeated several =>
    have nothing : (approach lines markers).notes = [] := by
      simp [approach, requireUnique_eq_raise_duplicate _ several, Fault.raise]
    rw [nothing]
    exact .header (.headerRepeated several) .repeated
  | @callMissing header headed absent =>
    obtain ⟨line, _, found⟩ := headed.requireUnique_eq_ok "method header".toList
    have missing := requireFrom_eq_raise "call site".toList fun index (reached : header + 1 ≤ index) =>
      absent index reached
    rw [Int.natCast_add, Int.natCast_one] at missing
    have first : (approach lines markers).notes =
        [.markerFound "method header".toList header] := by
      simp only [approach, Run.notes_bind, Run.outcome_require, Run.outcome_note,
        Run.notes_require, Run.notes_note, found, missing, Fault.raise, List.nil_append,
        List.append_nil]
    rw [first]
    exact .callSite headed (.callMissing headed absent) .missing
  | @callRepeated header index headed later called several =>
    obtain ⟨line, _, found⟩ := headed.requireUnique_eq_ok "method header".toList
    obtain ⟨first, lower, present, earliest⟩ := exists_first called (Nat.succ_le_of_lt later)
    obtain ⟨callLine, _, callFound⟩ := requireFrom_eq_ok "call site".toList present lower earliest
    rw [Nat.succ_eq_add_one, Int.natCast_add, Int.natCast_one] at callFound
    have notes : (approach lines markers).notes =
        [.markerFound "method header".toList header] := by
      simp only [approach, Run.notes_bind, Run.outcome_require, Run.outcome_note,
        Run.notes_require, Run.notes_note, found, callFound, checkUnique_eq_raise _ several,
        Fault.raise, List.nil_append, List.append_nil]
    rw [notes]
    exact .callSite headed (.callRepeated headed later called several) .repeated
  | frameMissing headed later called absent =>
    rw [approach_notes_of_called headed later called]
    exact .behindCall headed called (.frameMissing headed later called absent) (.inl rfl)
  | instructionsMissing headed later called framed bar absent =>
    rw [approach_notes_of_called headed later called]
    exact .behindCall headed called (.instructionsMissing headed later called framed bar absent)
      (.inr rfl)
  | amongWords headed later called framed bar next instructions =>
    rw [approach_notes_of_called headed later called, Layout.detect_eq_hex bar]
    exact .read headed called (.amongWords headed later called framed bar next instructions)
  | amongMnemonics headed later called framed plain here =>
    have unbarred := Layout.detect_eq_mnemonic fun line member shown => plain ⟨line, member, shown⟩
    rw [approach_notes_of_called headed later called, unbarred]
    exact .read headed called (.amongMnemonics headed later called framed plain here)

/-! ### The count -/

/-- The count is noted before it is judged. -/
inductive RepeatedCourse (lines : List Text) (markers : Markers) (hint : Hint) (count : Nat) :
    List Note → Except Stop Layout → Prop
  | unread {notes : List Note} {fault : Fault}
      (course : ApproachCourse lines markers notes (.error fault)) :
      RepeatedCourse lines markers hint count notes (.error (fault.stop none))
  | miscounted {notes : List Note} {approach : Approach} {found : Nat}
      (course : ApproachCourse lines markers notes (.ok approach))
      (run : LastRun approach.tokens (hintToken hint approach.layout) found)
      (differs : found ≠ count) :
      RepeatedCourse lines markers hint count
        (notes ++ [.tokensCollected approach.tokens.length (some (hintToken hint approach.layout)),
          .runCounted (hintToken hint approach.layout) found count])
        (.error ((Fault.countMismatch (.text (hintToken hint approach.layout)) (.number found)
          (.number count)).stop none))
  | counted {notes : List Note} {approach : Approach}
      (course : ApproachCourse lines markers notes (.ok approach))
      (run : LastRun approach.tokens (hintToken hint approach.layout) count) :
      RepeatedCourse lines markers hint count
        (notes ++ [.tokensCollected approach.tokens.length (some (hintToken hint approach.layout)),
          .runCounted (hintToken hint approach.layout) count count])
        (.ok approach.layout)

theorem repeated_course (lines : List Text) (markers : Markers) (hint : Hint) (count : Nat) :
    RepeatedCourse lines markers hint count (repeated lines markers hint count).notes
      (repeated lines markers hint count).outcome := by
  obtain ⟨verdict, decided⟩ := exists_repeatedVerdict lines markers hint count
  rw [decided.outcome_eq]
  cases decided with
  | unread unread =>
    have notes : (repeated lines markers hint count).notes = (approach lines markers).notes := by
      simp [repeated, unread.outcome_eq, Except.mapError]
    rw [notes]
    exact .unread unread.course
  | @miscounted approach found read run differs =>
    have notes : (repeated lines markers hint count).notes = (Check.approach lines markers).notes ++
        [.tokensCollected approach.tokens.length (some (hintToken hint approach.layout)),
          .runCounted (hintToken hint approach.layout) found count] := by
      simp [repeated, read.outcome_eq, Except.mapError, countHints, run.eq_trailingRun, differs]
    rw [notes]
    exact .miscounted read.course run differs
  | @counted approach read run =>
    have notes : (repeated lines markers hint count).notes = (Check.approach lines markers).notes ++
        [.tokensCollected approach.tokens.length (some (hintToken hint approach.layout)),
          .runCounted (hintToken hint approach.layout) count count] := by
      simp [repeated, read.outcome_eq, Except.mapError, countHints, run.eq_trailingRun]
    rw [notes]
    exact .counted read.course run

/-! ### The loop -/

/-- What the lines of a method show, in the layout they are in. -/
abbrev shownTokens (body : List Text) : List Text := tokenizeAll (Layout.detect body) body

/-- The notes on a method and on what its lines show. -/
def methodNotes (start : Nat) (body : List Text) : List Note :=
  [.markerFound "method".toList start, .formatDetected (Layout.detect body) body.length,
    .tokensCollected (shownTokens body).length none]

/-- The notes on instructions of the loop, from its first one on. -/
def slotNotes (tokens : List Text) : List Note := tokens.mapIdx .slotMatched

theorem matchSlots_notes_cons {slots : List Slot} {token : Text}
    (holds : slot.Holds layout delay spin token) :
    (matchSlots layout delay spin (slot :: slots) (token :: tokens)).notes =
      .slotMatched slot.number token :: (matchSlots layout delay spin slots tokens).notes := by
  simp [matchSlots, accepts_eq_true holds]

theorem matchSlots_notes_of_stops {slots : List Slot} {stop : Stop}
    (trimmed : layout = .mnemonic → ∀ token ∈ tokens, Text.IsTrimmed token)
    (stops : slot.Stops layout delay spin tokens.head? stop) :
    (matchSlots layout delay spin (slot :: slots) tokens).notes = [] := by
  cases tokens with
  | nil => rfl
  | cons token tokens =>
    cases stops with
    | differs differs read =>
      simp [matchSlots, accepts_eq_false (fun shown => trimmed shown token (.head tokens)) differs
        read]
    | malformed unread => simp [matchSlots, accepts_eq_malformed unread]
    | oversized unread => simp [matchSlots, accepts_eq_oversized unread]

/-- The walk notes the tokens that hold, up to the slot that stops it. -/
theorem matchSlots_notes {slots : List Slot} {first : Nat}
    (trimmed : layout = .mnemonic → ∀ token ∈ tokens, Text.IsTrimmed token)
    (numbered : ∀ index slot, slots[index]? = some slot → slot.number = first + index)
    (held : ∀ index < count, ∀ slot, slots[index]? = some slot →
      ∃ token, tokens[index]? = some token ∧ slot.Holds layout delay spin token)
    (ended : ∀ slot, slots[count]? = some slot →
      ∃ stop, slot.Stops layout delay spin tokens[count]? stop)
    (bounded : count ≤ slots.length) :
    (matchSlots layout delay spin slots tokens).notes =
      (tokens.take count).mapIdx fun index token => .slotMatched (first + index) token := by
  induction slots generalizing tokens first count with
  | nil =>
    obtain rfl : count = 0 := Nat.le_zero.mp bounded
    simp [matchSlots]
  | cons slot slots ih =>
    cases count with
    | zero =>
      obtain ⟨stop, stops⟩ := ended slot rfl
      rw [matchSlots_notes_of_stops trimmed (List.head?_eq_getElem? ▸ stops)]
      simp
    | succ count =>
      obtain ⟨token, here, holds⟩ := held 0 (Nat.succ_pos count) slot rfl
      cases tokens with
      | nil => simp at here
      | cons other tokens =>
        obtain rfl : other = token := by simpa using here
        have later : (matchSlots layout delay spin slots tokens).notes =
            (tokens.take count).mapIdx fun index token =>
              .slotMatched (first + 1 + index) token := by
          refine ih (fun shown token member => trimmed shown token (.tail other member))
            (fun index slot found => ?_)
            (fun index lower slot found => held (index + 1) (Nat.succ_lt_succ lower) slot found)
            (fun slot found => ended slot found) (Nat.le_of_succ_le_succ bounded)
          have := numbered (index + 1) slot found
          omega
        have number : slot.number = first := numbered 0 slot rfl
        rw [matchSlots_notes_cons holds, later, number, List.take_succ_cons, List.mapIdx_cons]
        simp [Nat.add_assoc, Nat.add_comm 1]

/-- The first instruction of the loop is noted with the ones that follow it. -/
theorem FirstAt.slotNotes_take {target : Text} (first : FirstAt tokens target position)
    (count : Nat) :
    slotNotes ((tokens.drop position).take (count + 1)) = .slotMatched 0 target ::
      ((tokens.drop (position + 1)).take count).mapIdx fun index token =>
        .slotMatched (1 + index) token := by
  obtain ⟨inside, here⟩ := List.getElem?_eq_some_iff.mp first.here
  rw [List.drop_eq_getElem_cons inside, here, List.take_succ_cons, slotNotes, List.mapIdx_cons]
  simp [Nat.add_comm 1]

theorem candidate_notes_of_first (method : MethodBody lines markers start body)
    (first : FirstAt (shownTokens body) (anchor (Layout.detect body))
      position) :
    (candidate lines markers).notes =
      methodNotes start body ++ [.slotMatched 0 (anchor (Layout.detect body))] := by
  simp only [candidate, Run.notes_bind, Run.outcome_require, Run.outcome_note, Run.notes_require,
    Run.notes_note, method.methodRegion_eq_ok, first.dropWhile_eq, Run.notes_pure, methodNotes]
  rfl

theorem candidate_notes_of_absent (method : MethodBody lines markers start body)
    (absent : anchor (Layout.detect body) ∉ shownTokens body) :
    (candidate lines markers).notes = methodNotes start body := by
  simp only [candidate, Run.notes_bind, Run.outcome_require, Run.outcome_note, Run.notes_require,
    Run.notes_note, method.methodRegion_eq_ok, dropWhile_eq_nil_of_not_mem absent, Run.notes_fail,
    methodNotes]
  rfl

/-- Each instruction of the loop is noted once it holds. -/
inductive CounterCourse (lines : List Text) (markers : Markers) (delay : Nat) (spin : Hint) :
    List Note → Except Stop Layout → Prop
  | methodMissing (absent : ∀ index, ¬ MentionedAt lines markers.qualifiedName index) :
      CounterCourse lines markers delay spin []
        (.error (.fault (markerMissing "method" markers.qualifiedName 0) none))
  | anchorMissing {start : Nat} {body : List Text} (method : MethodBody lines markers start body)
      (absent : anchor (Layout.detect body) ∉ shownTokens body) :
      CounterCourse lines markers delay spin (methodNotes start body) (.error (.fault
        (.idiomMismatch (.number 0) (.text anchorName) (.text endOfRegion)) none))
  | stops {start position : Nat} {body : List Text} {slot : Slot} {stop : Stop}
      (method : MethodBody lines markers start body)
      (first : FirstAt (shownTokens body) (anchor (Layout.detect body)) position)
      (reached : position + slot.number ≤ (shownTokens body).length)
      (stops : slot.Stops (Layout.detect body) delay spin
        (shownTokens body)[position + slot.number]? stop) :
      CounterCourse lines markers delay spin
        (methodNotes start body ++ slotNotes (((shownTokens body).drop position).take slot.number))
        (.error stop)
  | passes {start position : Nat} {body : List Text}
      (method : MethodBody lines markers start body)
      (first : FirstAt (shownTokens body) (anchor (Layout.detect body)) position)
      (reached : position + 6 ≤ (shownTokens body).length) :
      CounterCourse lines markers delay spin
        (methodNotes start body ++ slotNotes (((shownTokens body).drop position).take 6))
        (.ok (Layout.detect body))

theorem exists_slot (bounded : count < Slot.all.length) : ∃ slot : Slot, slot.number = count + 1 :=
  ⟨Slot.all[count], getElem?_all_iff.mp (List.getElem?_eq_getElem bounded)⟩

theorem slot_ext {other : Slot} (same : other.number = slot.number) : other = slot := by
  revert same
  cases other <;> cases slot <;> decide

/-- Where a slot holds there is a token. -/
theorem FirstAt.reached {target : Text} (first : FirstAt tokens target position)
    (held : ∀ other : Slot, other.number ≤ count →
      ∃ token, tokens[position + other.number]? = some token ∧ other.Holds layout delay spin token)
    (bounded : count ≤ Slot.all.length) : position + (count + 1) ≤ tokens.length := by
  cases count with
  | zero => exact (List.getElem?_eq_some_iff.mp first.here).1
  | succ count =>
    obtain ⟨slot, number⟩ := exists_slot (Nat.lt_of_succ_le bounded)
    obtain ⟨token, here, _⟩ := held slot (Nat.le_of_eq number)
    have inside := (List.getElem?_eq_some_iff.mp here).1
    omega

theorem numbered_all (index : Nat) (slot : Slot) (found : Slot.all[index]? = some slot) :
    slot.number = 1 + index := by
  rw [getElem?_all_iff.mp found, Nat.add_comm]

theorem counter_notes_of_first (method : MethodBody lines markers start body)
    (first : FirstAt (shownTokens body) (anchor (Layout.detect body)) position)
    (held : ∀ other : Slot, other.number ≤ count →
      ∃ token, (shownTokens body)[position + other.number]? = some token ∧
        other.Holds (Layout.detect body) delay spin token)
    (ended : ∀ slot : Slot, slot.number = count + 1 → ∃ stop,
      slot.Stops (Layout.detect body) delay spin
        (shownTokens body)[position + slot.number]? stop)
    (bounded : count ≤ Slot.all.length) :
    (counter lines markers delay spin).notes = methodNotes start body ++
      slotNotes (((shownTokens body).drop position).take (count + 1)) := by
  have walk : (matchSlots (Layout.detect body) delay spin Slot.all
      ((shownTokens body).drop (position + 1))).notes =
      (((shownTokens body).drop (position + 1)).take count).mapIdx fun index token =>
        .slotMatched (1 + index) token := by
    refine matchSlots_notes
      (fun _ token member => isTrimmed_of_mem_tokenizeAll (List.mem_of_mem_drop member))
      numbered_all (fun index lower slot found => ?_)
      (fun slot found => ?_) bounded
    · have number := getElem?_all_iff.mp found
      rw [getElem?_drop_slot number]
      exact held slot (by omega)
    · have number := getElem?_all_iff.mp found
      rw [getElem?_drop_slot number]
      exact ended slot number
  rw [first.slotNotes_take, ← walk]
  simp only [counter, Run.notes_bind, candidate_outcome_of_first (.of_body method) first,
    candidate_notes_of_first method first, Run.notes_pure, List.append_assoc,
    List.singleton_append]
  split <;> simp

theorem counter_course (lines : List Text) (markers : Markers) (delay : Nat) (spin : Hint) :
    CounterCourse lines markers delay spin (counter lines markers delay spin).notes
      (counter lines markers delay spin).outcome := by
  obtain ⟨verdict, decided⟩ := exists_counterVerdict lines markers delay spin
  rw [decided.outcome_eq]
  cases decided with
  | methodMissing absent =>
    have nothing : (counter lines markers delay spin).notes = [] := by
      simp [counter, candidate, methodRegion_eq_raise absent, Fault.raise]
    rw [nothing]
    exact .methodMissing absent
  | anchorMissing method absent =>
    have unread := candidate_outcome_of_absent method absent
    cases method with
    | @of_body start body method =>
      have notes : (counter lines markers delay spin).notes = methodNotes start body := by
        simp [counter, unread, candidate_notes_of_absent method absent]
      rw [notes]
      exact .anchorMissing method absent
  | @stops layout tokens position slot stop method first earlier stops =>
    obtain ⟨index, number⟩ : ∃ index, slot.number = index + 1 := by cases slot <;> exact ⟨_, rfl⟩
    have bounded : index ≤ Slot.all.length :=
      Nat.le_of_lt (List.getElem?_eq_some_iff.mp (getElem?_all_iff.mpr number)).1
    have held : ∀ other : Slot, other.number ≤ index →
        ∃ token, tokens[position + other.number]? = some token ∧
          other.Holds layout delay spin token := fun other lower => earlier other (by omega)
    cases method with
    | of_body method =>
      have reached := first.reached held bounded
      rw [← number] at reached
      rw [counter_notes_of_first method first held
        (fun other same => ⟨stop, slot_ext (same.trans number.symm) ▸ stops⟩) bounded, ← number]
      exact .stops method first reached stops
  | @passes layout tokens position method first all =>
    cases method with
    | of_body method =>
      have bounded : 5 ≤ Slot.all.length := Nat.le_refl 5
      rw [counter_notes_of_first method first (fun other _ => all other)
        (fun other beyond => by cases other <;> cases beyond) bounded]
      exact .passes method first (first.reached (fun other _ => all other) bounded)

end SpinWait.Check
