import SpinWait.Proofs.Check.Approach

namespace SpinWait.Check

open Log

/-! The number of hints that the check finds in a log. It does not depend on the number that is
expected. -/

variable {lines : List Text} {markers : Markers} {hint : Hint} {layout : Layout}
  {approach : Approach} {found count : Nat}

/-- The check passes for this number, and names it as the one found for every other. -/
def Finds (lines : List Text) (markers : Markers) (hint : Hint) (layout : Layout) (found : Nat) :
    Prop :=
  ∀ count, (repeated lines markers hint count).outcome =
    if found = count then .ok layout
    else (Fault.countMismatch (.text (hintToken hint layout)) (.number found)
      (.number count)).raise

/-- The check passes. -/
def Passes (lines : List Text) (markers : Markers) (hint : Hint) (count : Nat) : Prop :=
  ∃ layout, (repeated lines markers hint count).outcome = .ok layout

theorem Finds.passes_iff (finds : Finds lines markers hint layout found) :
    Passes lines markers hint count ↔ count = found := by
  rw [Passes, finds count]
  by_cases same : found = count
  · simp [same]
  · rw [if_neg same]
    refine iff_of_false (fun passes => ?_) (Ne.symm same)
    obtain ⟨_, raised⟩ := passes
    cases raised

theorem Finds.outcome_of_ne (finds : Finds lines markers hint layout found)
    (differs : found ≠ count) : (repeated lines markers hint count).outcome =
      (Fault.countMismatch (.text (hintToken hint layout)) (.number found) (.number count)).raise := by
  rw [finds count, if_neg differs]

theorem Finds.outcome_of_short (finds : Finds lines markers hint layout found)
    (differs : found ≠ count) (short : Numeral.IsShort found) (countShort : Numeral.IsShort count) :
    (repeated lines markers hint count).outcome = .error (.fault
      (.countMismatch (.text (hintToken hint layout)) (.number found) (.number count)) none) := by
  rw [finds.outcome_of_ne differs, Fault.raise, Fault.OfLog.countMismatch.stop_eq,
    Fault.isWritable_countMismatch.mpr ⟨short, countShort⟩]
  rfl

theorem ApproachVerdict.finds (read : ApproachVerdict lines markers (.ok approach))
    (run : LastRun approach.tokens (hintToken hint approach.layout) found) :
    Finds lines markers hint approach.layout found := by
  intro count
  by_cases same : found = count
  · subst same
    rw [if_pos rfl, (RepeatedVerdict.counted read run).outcome_eq]
    rfl
  · rw [if_neg same, (RepeatedVerdict.miscounted read run same).outcome_eq]
    rfl

theorem ApproachVerdict.finds_iff (read : ApproachVerdict lines markers (.ok approach)) :
    Finds lines markers hint approach.layout found ↔
      LastRun approach.tokens (hintToken hint approach.layout) found := by
  constructor
  · intro finds
    have run := lastRun_trailingRun approach.tokens (hintToken hint approach.layout)
    have passes := finds.passes_iff.mpr rfl
    rwa [(read.finds run).passes_iff.mp passes]
  · exact read.finds

/-! ### The checks of the structure -/

/-- The log passes the checks of its structure up to the frame. -/
structure CallAt (lines : List Text) (markers : Markers) (header call : Nat) : Prop where
  headed : OnlyAt lines markers.header header
  later : header < call
  called : OnlyAt lines markers.callSite call
  framed : MentionedAt lines markers.callSiteFrame (call + 1)

/-- It shows instruction words, and `line` is the one after the frame. -/
structure WordsAt (lines : List Text) (markers : Markers) (header call : Nat) (line : Text) : Prop
    extends CallAt lines markers header call where
  bar : ShowsBar lines header call
  next : lines[call + 2]? = some line
  instructions : isInstructionLine line = true

/-- It shows mnemonics, and `line` is the one of the call site. -/
structure MnemonicsAt (lines : List Text) (markers : Markers) (header call : Nat) (line : Text) :
    Prop extends CallAt lines markers header call where
  plain : ¬ ShowsBar lines header call
  here : lines[call]? = some line

variable {header call : Nat} {line : Text}

theorem WordsAt.finds_iff (shown : WordsAt lines markers header call line) :
    Finds lines markers hint .hex found ↔
      LastRun (bodyTokens .hex lines header call ++ tokenize .hex line) hint.wordText found :=
  (ApproachVerdict.amongWords shown.headed shown.later shown.called shown.framed shown.bar
    shown.next shown.instructions).finds_iff

theorem MnemonicsAt.finds_iff (shown : MnemonicsAt lines markers header call line) :
    Finds lines markers hint .mnemonic found ↔
      LastRun (bodyTokens .mnemonic lines header call ++ tokenize .mnemonic line) hint.name
        found :=
  (ApproachVerdict.amongMnemonics shown.headed shown.later shown.called shown.framed shown.plain
    shown.here).finds_iff

end SpinWait.Check
