import SpinWait.Proofs.Check.CallLog
import SpinWait.Proofs.Text.Cut

namespace SpinWait.Check

open Log

/-! The run that a call site belongs to, among words. A log shows the words at the call behind its
frame, together with the code that follows the call. -/

variable {before after : List Text} {target : Text} {count : Nat}

/-- The run that ends nearest the call: it comes from before the call and goes on behind it as long
as no other instruction comes between. If none stands right behind the call, it is the last run
before it. -/
inductive CallRun (before after : List Text) (target : Text) : Nat → Prop
  | continued {earlier later : List Text} {leading trailing : Nat}
      (ahead : before = earlier ++ List.replicate trailing target)
      (bounded : earlier.getLast? ≠ some target)
      (behind : after = List.replicate leading target ++ later)
      (stops : later.head? ≠ some target) (some : 0 < leading) :
      CallRun before after target (leading + trailing)
  | ended {count : Nat} (apart : after.head? ≠ some target) (run : LastRun before target count) :
      CallRun before after target count

/-- The instructions behind the leading copies of the target. -/
def afterLeading (target : Text) (after : List Text) : List Text :=
  after.dropWhile (· == target)

theorem exists_leading (target : Text) (after : List Text) :
    ∃ leading, after = List.replicate leading target ++ afterLeading target after := by
  refine ⟨(after.takeWhile (· == target)).length, ?_⟩
  rw [← takeWhile_eq_replicate, afterLeading, List.takeWhile_append_dropWhile]

theorem afterLeading_replicate {leading : Nat} {later : List Text}
    (stops : later.head? ≠ some target) :
    afterLeading target (List.replicate leading target ++ later) = later := by
  refine dropWhile_append_of_boundary (fun token member => ?_) fun token first => ?_
  · simpa using List.eq_of_mem_replicate member
  · have differs : token ≠ target := fun same => stops (same ▸ first)
    simpa using differs

theorem exists_trailing (target : Text) (before : List Text) :
    ∃ earlier trailing, before = earlier ++ List.replicate trailing target ∧
      earlier.getLast? ≠ some target := by
  obtain ⟨trailing, turned⟩ := exists_leading target before.reverse
  refine ⟨(afterLeading target before.reverse).reverse, trailing, ?_, ?_⟩
  · simpa using congrArg List.reverse turned
  · rw [List.getLast?_reverse]
    exact head?_dropWhile_ne before.reverse target

theorem exists_callRun (before after : List Text) (target : Text) :
    ∃ count, CallRun before after target count := by
  obtain ⟨leading, behind⟩ := exists_leading target after
  obtain ⟨earlier, trailing, ahead, bounded⟩ := exists_trailing target before
  cases leading with
  | zero =>
    have apart : after.head? ≠ some target := by
      rw [behind]
      exact head?_dropWhile_ne after target
    exact ⟨_, .ended apart (lastRun_trailingRun before target)⟩
  | succ leading =>
    exact ⟨_, .continued ahead bounded behind (head?_dropWhile_ne after target)
      (Nat.succ_pos leading)⟩

/-- The target stands behind the call only in the run of the call. -/
theorem CallRun.lastRun (run : CallRun before after target count)
    (absent : target ∉ afterLeading target after) : LastRun (before ++ after) target count := by
  cases run with
  | continued ahead bounded behind stops some =>
    subst ahead behind
    rw [afterLeading_replicate stops] at absent
    exact .of_continued bounded absent some
  | ended apart run =>
    have whole : afterLeading target (List.replicate 0 target ++ after) = after :=
      afterLeading_replicate apart
    rw [List.replicate_zero, List.nil_append] at whole
    exact run.append_of_not_mem (whole ▸ absent)

/-- The target stands once more behind another instruction. -/
theorem lastRun_of_afterLeading (member : target ∈ afterLeading target after)
    (run : LastRun (afterLeading target after) target count) :
    LastRun (before ++ after) target count := by
  obtain ⟨leading, behind⟩ := exists_leading target after
  have apart := head?_dropWhile_ne after target
  rw [behind, ← List.append_assoc]
  exact run.append_left member apart

variable {lines : List Text} {markers : Markers} {header call found : Nat} {line : Text}

/-- Every log has one run of the call. The check finds that run exactly if no copy of the hint stands
behind another instruction on the line after the frame, or if those copies happen to end in a run of
the same length: it is their last run that is found. -/
theorem finds_callRun_iff (shown : WordsAt lines markers header call line) (hint : Hint) :
    (∃ count, CallRun (bodyTokens .hex lines header call) (tokenize .hex line) hint.wordText
        count) ∧
      (∀ count, CallRun (bodyTokens .hex lines header call) (tokenize .hex line) hint.wordText
          count →
        (Finds lines markers hint .hex count ↔
          (hint.wordText ∈ afterLeading hint.wordText (tokenize .hex line) →
            LastRun (afterLeading hint.wordText (tokenize .hex line)) hint.wordText count))) ∧
      ∀ found, hint.wordText ∈ afterLeading hint.wordText (tokenize .hex line) →
        LastRun (afterLeading hint.wordText (tokenize .hex line)) hint.wordText found →
        Finds lines markers hint .hex found := by
  refine ⟨exists_callRun _ _ _, fun count run => ?_, fun found member run => ?_⟩
  · rw [shown.finds_iff]
    by_cases member : hint.wordText ∈ afterLeading hint.wordText (tokenize .hex line)
    · have last := lastRun_trailingRun (afterLeading hint.wordText (tokenize .hex line))
        hint.wordText
      have whole : LastRun (bodyTokens .hex lines header call ++ tokenize .hex line) hint.wordText
        (trailingRun (afterLeading hint.wordText (tokenize .hex line)) hint.wordText) :=
      lastRun_of_afterLeading member last
      constructor
      · intro found _
        rwa [found.unique whole]
      · intro same
        rwa [(same member).unique last]
    · exact iff_of_true (run.lastRun member) fun inside => absurd inside member
  · rw [shown.finds_iff]
    exact lastRun_of_afterLeading member run

/-! ### A run that goes on behind the call -/

/-- Two of three hints stand before the call. -/
def continuedLog : CallLog :=
  .sample ["0x1: 1f20 03d5 | fd7b 03a9 | 1f20 03d5 | 1f20 03d5".toList] Markers.default.callSite
    ["0x9: 1f20 03d5 | fd7b 43a9".toList]

theorem continuedLog_wordsAt : WordsAt continuedLog.lines Markers.default continuedLog.headerIndex
    continuedLog.callIndex "0x9: 1f20 03d5 | fd7b 43a9".toList := by
  have marked : continuedLog.Marked Markers.default :=
    CallLog.sample_marked List.infix_rfl (by decide +kernel) (by decide +kernel)
  exact marked.wordsAt (by decide +kernel) rfl (by decide)

theorem finds_three_of_continuedLog :
    WordsAt continuedLog.lines Markers.default continuedLog.headerIndex continuedLog.callIndex
        "0x9: 1f20 03d5 | fd7b 43a9".toList ∧
      Finds continuedLog.lines Markers.default .nop .hex 3 := by
  refine ⟨continuedLog_wordsAt, ?_⟩
  have body : bodyTokens .hex continuedLog.lines continuedLog.headerIndex continuedLog.callIndex =
      ["1f20 03d5".toList, "fd7b 03a9".toList] ++ List.replicate 2 Hint.nop.wordText := by
    rw [CallLog.bodyTokens_eq]
    decide +kernel
  have line : tokenize .hex "0x9: 1f20 03d5 | fd7b 43a9".toList =
      List.replicate 1 Hint.nop.wordText ++ ["fd7b 43a9".toList] := by decide +kernel
  have run : CallRun (bodyTokens .hex continuedLog.lines continuedLog.headerIndex
      continuedLog.callIndex) (tokenize .hex "0x9: 1f20 03d5 | fd7b 43a9".toList)
      Hint.nop.wordText (1 + 2) :=
    .continued body (by decide) line (by decide) Nat.one_pos
  have single : Hint.nop.wordText ∉ afterLeading Hint.nop.wordText
      (tokenize .hex "0x9: 1f20 03d5 | fd7b 43a9".toList) := by decide +kernel
  exact ((finds_callRun_iff continuedLog_wordsAt .nop).2.1 _ run).mpr
    fun member => absurd member single

/-! ### A copy behind another instruction -/

/-- Two hints before the call, and one in the code behind it. -/
def paddedLog : CallLog :=
  .sample ["0x1: 1f20 03d5 | 1f20 03d5".toList] Markers.default.callSite
    ["0x9: fd7b 43a9 | 1f20 03d5".toList]

/-- The run of the call has two hints, and the check finds the one behind it. -/
theorem paddedLog_miscounted :
    WordsAt paddedLog.lines Markers.default paddedLog.headerIndex paddedLog.callIndex
        "0x9: fd7b 43a9 | 1f20 03d5".toList ∧
      CallRun (bodyTokens .hex paddedLog.lines paddedLog.headerIndex paddedLog.callIndex)
        (tokenize .hex "0x9: fd7b 43a9 | 1f20 03d5".toList) Hint.nop.wordText 2 ∧
      Finds paddedLog.lines Markers.default .nop .hex 1 ∧
      ¬ Finds paddedLog.lines Markers.default .nop .hex 2 := by
  have marked : paddedLog.Marked Markers.default :=
    CallLog.sample_marked List.infix_rfl (by decide +kernel) (by decide +kernel)
  have shown : WordsAt paddedLog.lines Markers.default paddedLog.headerIndex paddedLog.callIndex
      "0x9: fd7b 43a9 | 1f20 03d5".toList := marked.wordsAt (by decide +kernel) rfl (by decide)
  have body : bodyTokens .hex paddedLog.lines paddedLog.headerIndex paddedLog.callIndex =
      List.replicate 2 Hint.nop.wordText := by
    rw [CallLog.bodyTokens_eq]
    decide +kernel
  have line : tokenize .hex "0x9: fd7b 43a9 | 1f20 03d5".toList =
      ["fd7b 43a9".toList, Hint.nop.wordText] := by decide +kernel
  have found : Finds paddedLog.lines Markers.default .nop .hex 1 := by
    rw [shown.finds_iff, body, line]
    exact ⟨⟨List.replicate 2 Hint.nop.wordText ++ ["fd7b 43a9".toList], [], rfl, by decide,
      List.not_mem_nil⟩, fun _ => Nat.one_pos⟩
  refine ⟨shown, ?_, found, fun other => ?_⟩
  · rw [body, line]
    exact .ended (by decide) ⟨⟨[], [], rfl, nofun, List.not_mem_nil⟩, fun _ => Nat.two_pos⟩
  · exact absurd (other.passes_iff.mp (found.passes_iff.mpr rfl)) (by decide)

end SpinWait.Check
