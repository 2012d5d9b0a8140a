import SpinWait.Proofs.Check.Found
import SpinWait.Proofs.Log.Surroundings

namespace SpinWait.Check

open Log

/-! Logs that are put together around a call. -/

/-- A log, taken apart at the lines that the check looks for. -/
structure CallLog where
  before : List Text
  header : Text
  body : List Text
  call : Text
  frame : Text
  rest : List Text

namespace CallLog

def lines (log : CallLog) : List Text :=
  log.before ++ log.header :: (log.body ++ log.call :: log.frame :: log.rest)

/-- The lines by which the layout is told. -/
def region (log : CallLog) : List Text :=
  log.body ++ log.call :: log.frame :: log.rest.take 1

def headerIndex (log : CallLog) : Nat := log.before.length

def callIndex (log : CallLog) : Nat := log.before.length + 1 + log.body.length

/-- The markers stand where they belong, and header and call site nowhere else. -/
structure Marked (log : CallLog) (markers : Markers) : Prop where
  headed : markers.header <:+: log.header
  called : markers.callSite <:+: log.call
  framed : markers.callSiteFrame <:+: log.frame
  unheaded : ∀ line ∈ log.before ++ (log.body ++ log.call :: log.frame :: log.rest),
    ¬ markers.header <:+: line
  uncalled : ∀ line ∈ log.before ++ log.header :: (log.body ++ log.frame :: log.rest),
    ¬ markers.callSite <:+: line

variable {log : CallLog} {markers : Markers} {next : Text} {others : List Text}

/-- Everything in front of the call is as long as its position. -/
theorem length_front (log : CallLog) :
    (log.before ++ log.header :: log.body).length = log.callIndex := by
  simp only [callIndex, List.length_append, List.length_cons]
  omega

theorem lines_eq_of_front (log : CallLog) : log.lines =
    (log.before ++ log.header :: log.body) ++ log.call :: log.frame :: log.rest := by
  simp [lines]

theorem getElem?_call (log : CallLog) (offset : Nat) :
    log.lines[log.callIndex + offset]? = (log.call :: log.frame :: log.rest)[offset]? := by
  rw [lines_eq_of_front, ← length_front, List.getElem?_append_right (Nat.le_add_right _ _),
    Nat.add_sub_cancel_left]

theorem between_body (log : CallLog) :
    between log.lines (log.headerIndex + 1) log.callIndex = log.body := by
  have width : log.callIndex - (log.headerIndex + 1) = log.body.length := by
    simp [callIndex, headerIndex]
  rw [between, width, lines, headerIndex, ← List.drop_drop, List.drop_left, List.drop_one,
    List.tail_cons, List.take_left]

theorem between_region (log : CallLog) :
    between log.lines (log.headerIndex + 1) (log.callIndex + 3) = log.region := by
  have width : log.callIndex + 3 - (log.headerIndex + 1) = log.body.length + 3 := by
    simp only [callIndex, headerIndex]
    omega
  rw [between, width, lines, headerIndex, ← List.drop_drop, List.drop_left, List.drop_one,
    List.tail_cons, region, List.take_length_add_append, List.take_succ_cons, List.take_succ_cons]

theorem onlyAt_of_split {before after : List Text} {line marker : Text}
    (named : marker <:+: line) (unnamed : ∀ other ∈ before ++ after, ¬ marker <:+: other) :
    OnlyAt (before ++ line :: after) marker before.length := by
  have alone : OnlyAt [line] marker 0 := fun other => by cases other <;> simp [named]
  have among := alone.surrounded unnamed
  rwa [List.append_assoc, List.singleton_append, Nat.add_zero] at among

theorem Marked.callAt (marked : log.Marked markers) :
    CallAt log.lines markers log.headerIndex log.callIndex where
  headed := onlyAt_of_split marked.headed marked.unheaded
  later := by
    simp only [headerIndex, callIndex]
    omega
  called := by
    rw [lines_eq_of_front, ← length_front]
    refine onlyAt_of_split marked.called fun line member => marked.uncalled line ?_
    simpa using member
  framed := ⟨log.frame, by rw [getElem?_call]; rfl, marked.framed⟩

theorem Marked.wordsAt (marked : log.Marked markers) (bar : ∃ line ∈ log.region, '|' ∈ line)
    (behind : log.rest = next :: others) (instructions : isInstructionLine next = true) :
    WordsAt log.lines markers log.headerIndex log.callIndex next where
  toCallAt := marked.callAt
  bar := by rwa [ShowsBar, between_region]
  next := by rw [getElem?_call, behind]; rfl
  instructions := instructions

theorem Marked.mnemonicsAt (marked : log.Marked markers) (plain : ∀ line ∈ log.region, '|' ∉ line) :
    MnemonicsAt log.lines markers log.headerIndex log.callIndex log.call where
  toCallAt := marked.callAt
  plain := by
    rw [ShowsBar, between_region]
    exact fun shown => shown.elim fun line inside => plain line inside.1 inside.2
  here := getElem?_call log 0

theorem bodyTokens_eq (layout : Layout) (log : CallLog) :
    bodyTokens layout log.lines log.headerIndex log.callIndex =
      tokenizeAll layout (log.body.filter isInstructionLine) := by
  rw [bodyTokens, between_body]

/-! ### The default method -/

/-- The lines of the default method do not mention one another. -/
theorem default_apart : ¬ Markers.default.header <:+: Markers.default.callSiteFrame ∧
    ¬ Markers.default.callSite <:+: Markers.default.header ∧
    ¬ Markers.default.callSite <:+: Markers.default.callSiteFrame := by decide +kernel

/-- A log in which the header and the frame of the method stand alone on their lines. -/
def plain (markers : Markers) (body : List Text) (call : Text) (rest : List Text) : CallLog where
  before := []
  header := markers.header
  body := body
  call := call
  frame := markers.callSiteFrame
  rest := rest

theorem plain_marked {body rest : List Text} {call : Text}
    (apart : ¬ markers.header <:+: markers.callSiteFrame ∧ ¬ markers.callSite <:+: markers.header ∧
      ¬ markers.callSite <:+: markers.callSiteFrame)
    (called : markers.callSite <:+: call)
    (unheaded : ∀ line ∈ call :: (body ++ rest), ¬ markers.header <:+: line)
    (uncalled : ∀ line ∈ body ++ rest, ¬ markers.callSite <:+: line) :
    (plain markers body call rest).Marked markers where
  headed := List.infix_rfl
  called := called
  framed := List.infix_rfl
  unheaded line member := by
    simp only [plain, List.nil_append, List.mem_append, List.mem_cons] at member unheaded
    obtain inside | rfl | rfl | behind := member
    · exact unheaded line (.inr (.inl inside))
    · exact unheaded line (.inl rfl)
    · exact apart.1
    · exact unheaded line (.inr (.inr behind))
  uncalled line member := by
    simp only [plain, List.nil_append, List.mem_append, List.mem_cons] at member uncalled
    obtain rfl | inside | rfl | behind := member
    · exact apart.2.1
    · exact uncalled line (.inl inside)
    · exact apart.2.2
    · exact uncalled line (.inr behind)

/-- A log of the default method. -/
def sample (body : List Text) (call : Text) (rest : List Text) : CallLog :=
  plain .default body call rest

theorem sample_marked {body rest : List Text} {call : Text}
    (called : Markers.default.callSite <:+: call)
    (unheaded : ∀ line ∈ call :: (body ++ rest), ¬ Markers.default.header <:+: line)
    (uncalled : ∀ line ∈ body ++ rest, ¬ Markers.default.callSite <:+: line) :
    (sample body call rest).Marked Markers.default :=
  plain_marked default_apart called unheaded uncalled

end CallLog

end SpinWait.Check
