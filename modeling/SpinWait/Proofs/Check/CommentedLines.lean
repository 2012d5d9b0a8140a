import SpinWait.Proofs.Check.CallLog
import SpinWait.Proofs.Log.Address

namespace SpinWait.Check

open Log

/-! Among mnemonics, which lines of the body take part in the run: those that mention an address and
carry no comment. -/

variable {log : CallLog} {markers : Markers} {hint : Hint} {lines front back body : List Text}
  {line : Text} {header call found count : Nat}

/-- An address is mentioned, with a small `x`, and there is no comment. -/
def TakesPart (line : Text) : Prop := "0x".toList <:+: line ∧ ';' ∉ line

instance : DecidablePred TakesPart := fun line =>
  inferInstanceAs (Decidable ("0x".toList <:+: line ∧ ';' ∉ line))

theorem isInstructionLine_eq (line : Text) : isInstructionLine line = decide (TakesPart line) := by
  rw [Bool.eq_iff_iff, decide_eq_true_iff]
  exact isInstructionLine_iff

namespace CallLog

/-- The log with another body. -/
def withBody (log : CallLog) (body : List Text) : CallLog := { log with body := body }

theorem Marked.withBody (marked : log.Marked markers) (fewer : body ⊆ log.body) :
    (log.withBody body).Marked markers where
  headed := marked.headed
  called := marked.called
  framed := marked.framed
  unheaded line member := by
    refine marked.unheaded line ?_
    simp only [CallLog.withBody, List.mem_append] at member ⊢
    exact member.imp_right (.imp_left (@fewer line))
  uncalled line member := by
    refine marked.uncalled line ?_
    simp only [CallLog.withBody, List.mem_append, List.mem_cons] at member ⊢
    exact member.imp_right (.imp_right (.imp_left (@fewer line)))

theorem region_withBody (fewer : body ⊆ log.body) : (log.withBody body).region ⊆ log.region := by
  intro line member
  simp only [region, withBody, List.mem_append] at member ⊢
  exact member.imp_left (@fewer line)

end CallLog

/-- A commented line shows nothing that is counted. -/
theorem filter_append_commented (commented : ';' ∈ line) :
    (front ++ line :: back).filter isInstructionLine = (front ++ back).filter isInstructionLine := by
  have skipped : isInstructionLine line = false := by
    rw [isInstructionLine_eq, decide_eq_false_iff_not]
    exact fun takesPart => takesPart.2 commented
  rw [List.filter_append, List.filter_cons_of_neg (Bool.eq_false_iff.mp skipped),
    List.filter_append]

theorem repeated_outcome_withBody (marked : log.Marked markers)
    (plain : ∀ line ∈ log.region, '|' ∉ line) (shape : log.body = front ++ line :: back)
    (commented : ';' ∈ line) :
    (repeated (log.withBody (front ++ back)).lines markers hint count).outcome =
      (repeated log.lines markers hint count).outcome := by
  have fewer : front ++ back ⊆ log.body := by
    rw [shape]
    exact ((List.sublist_cons_self line back).append_left front).subset
  have less := (marked.withBody fewer).mnemonicsAt fun other member =>
    plain other (CallLog.region_withBody fewer member)
  have whole := marked.mnemonicsAt plain
  have same : bodyTokens .mnemonic (log.withBody (front ++ back)).lines
      (log.withBody (front ++ back)).headerIndex (log.withBody (front ++ back)).callIndex =
      bodyTokens .mnemonic log.lines log.headerIndex log.callIndex := by
    rw [CallLog.bodyTokens_eq, CallLog.bodyTokens_eq, shape, filter_append_commented commented]
    rfl
  obtain ⟨found, run⟩ : ∃ found, LastRun (bodyTokens .mnemonic log.lines log.headerIndex
      log.callIndex ++ tokenize .mnemonic log.call) hint.name found := ⟨_, lastRun_trailingRun _ _⟩
  have finds := whole.finds_iff.mpr run
  rw [← same] at run
  rw [finds count, less.finds_iff.mpr run count]

/-! ### Sample logs -/

/-- A log whose call site shows a `nop`. -/
def nopLog (body : List Text) : CallLog :=
  .sample body ("0x9: nop ;".toList ++ Markers.default.callSite) []

theorem nopLog_marked (unmarked : ∀ line ∈ body, ¬ Markers.default.header <:+: line ∧
    ¬ Markers.default.callSite <:+: line) : (nopLog body).Marked Markers.default := by
  have call : ¬ Markers.default.header <:+: "0x9: nop ;".toList ++ Markers.default.callSite := by
    decide +kernel
  refine CallLog.sample_marked (List.suffix_append _ _).isInfix ?_ ?_
  · rw [List.append_nil]
    exact List.forall_mem_cons.mpr ⟨call, fun line member => (unmarked line member).1⟩
  · rw [List.append_nil]
    exact fun line member => (unmarked line member).2

/-! ### What takes part -/

/-- The check finds the last run among the instructions of these lines and the one of the call site.
A line with a comment may be taken out of the body, or put in: the check ends as before. -/
theorem finds_iff_lastRun_takesPart (markers : Markers) (hint : Hint) :
    (∀ lines header call line, MnemonicsAt lines markers header call line → ∀ found,
      (Finds lines markers hint .mnemonic found ↔
        LastRun (tokenizeAll .mnemonic
            ((between lines (header + 1) call).filter (decide <| TakesPart ·)) ++
          tokenize .mnemonic line) hint.name found)) ∧
      ∀ (log : CallLog) (front back : List Text) (line : Text), log.Marked markers →
        (∀ line ∈ log.region, '|' ∉ line) → log.body = front ++ line :: back → ';' ∈ line →
        ∀ count, (repeated (log.withBody (front ++ back)).lines markers hint count).outcome =
          (repeated log.lines markers hint count).outcome := by
  refine ⟨fun lines header call line shown found => ?_, fun log front back line marked plain shape
    commented count => repeated_outcome_withBody marked plain shape commented⟩
  rw [shown.finds_iff, bodyTokens, funext isInstructionLine_eq]

/-- A log with a commented instruction between hints. -/
def commentedLog : CallLog :=
  nopLog ["0x1: nop".toList, "0x2: stp x29, x30 ;*synchronization entry".toList, "0x3: nop".toList]

theorem finds_three_of_commentedLog :
    MnemonicsAt commentedLog.lines Markers.default commentedLog.headerIndex commentedLog.callIndex
        commentedLog.call ∧
      Finds commentedLog.lines Markers.default .nop .mnemonic 3 ∧
      ∀ count, (repeated (commentedLog.withBody ["0x1: nop".toList, "0x3: nop".toList]).lines
          Markers.default .nop count).outcome =
        (repeated commentedLog.lines Markers.default .nop count).outcome := by
  have marked : commentedLog.Marked Markers.default := nopLog_marked (by decide +kernel)
  have plain : ∀ line ∈ commentedLog.region, '|' ∉ line := by decide
  have shown := marked.mnemonicsAt plain
  obtain ⟨lastRun, takenOut⟩ := finds_iff_lastRun_takesPart Markers.default .nop
  refine ⟨shown, (lastRun _ _ _ _ shown 3).mpr ?_, fun count => ?_⟩
  · have counted : trailingRun (tokenizeAll .mnemonic (commentedLog.body.filter
        (decide <| TakesPart ·)) ++ tokenize .mnemonic commentedLog.call) Hint.nop.name = 3 := by
      decide +kernel
    rw [CallLog.between_body, ← counted]
    exact lastRun_trailingRun _ _
  · exact takenOut commentedLog ["0x1: nop".toList] ["0x3: nop".toList] _ marked plain rfl
      (by decide) count

/-! ### Other readings of the body -/

/-- The normal form of the line begins with an address and a blank. -/
def isAddressed (line : Text) : Bool :=
  match normalize line with
  | '0' :: 'x' :: first :: rest =>
    isAddressDigit first && ": ".toList.isPrefixOf (rest.dropWhile isAddressDigit)
  | _ => false

/-- All addressed lines of the body, commented or not, would make a run of `counted` hints, and the
check finds `found`. -/
structure Differs (log : CallLog) (hint : Hint) (counted found : Nat) : Prop where
  shown : MnemonicsAt log.lines Markers.default log.headerIndex log.callIndex log.call
  addressed : LastRun (tokenizeAll .mnemonic ((between log.lines (log.headerIndex + 1)
    log.callIndex).filter isAddressed) ++ tokenize .mnemonic log.call) hint.name counted
  finds : Finds log.lines Markers.default hint .mnemonic found

theorem nopLog_differs {counted : Nat}
    (unmarked : ∀ line ∈ body, ¬ Markers.default.header <:+: line ∧
      ¬ Markers.default.callSite <:+: line)
    (plain : ∀ line ∈ (nopLog body).region, '|' ∉ line)
    (addressed : trailingRun (tokenizeAll .mnemonic (body.filter isAddressed) ++
      tokenize .mnemonic (nopLog body).call) Hint.nop.name = counted)
    (finds : trailingRun (tokenizeAll .mnemonic (body.filter isInstructionLine) ++
      tokenize .mnemonic (nopLog body).call) Hint.nop.name = found) :
    Differs (nopLog body) .nop counted found where
  shown := (nopLog_marked unmarked).mnemonicsAt plain
  addressed := by
    rw [CallLog.between_body, ← addressed]
    exact lastRun_trailingRun _ _
  finds := by
    rw [((nopLog_marked unmarked).mnemonicsAt plain).finds_iff, CallLog.bodyTokens_eq, ← finds]
    exact lastRun_trailingRun _ _

/-- A commented instruction between hints does not separate them, a commented hint is not counted, a
line without an address separates them if it mentions one, and a capital `X` hides an address. -/
theorem nopLogs_differ :
    Differs commentedLog .nop 2 3 ∧
      Differs (nopLog ["0x1: nop ;*synchronization entry".toList]) .nop 2 1 ∧
      Differs (nopLog ["0x1: nop".toList, "b.lt 0x1".toList]) .nop 2 1 ∧
      Differs (nopLog ["0X1: nop".toList]) .nop 2 1 :=
  ⟨nopLog_differs (by decide +kernel) (by decide) (by decide +kernel) (by decide +kernel),
    nopLog_differs (by decide +kernel) (by decide) (by decide +kernel) (by decide +kernel),
    nopLog_differs (by decide +kernel) (by decide) (by decide +kernel) (by decide +kernel),
    nopLog_differs (by decide +kernel) (by decide) (by decide +kernel) (by decide +kernel)⟩

end SpinWait.Check
