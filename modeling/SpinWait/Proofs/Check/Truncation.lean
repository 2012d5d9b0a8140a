import SpinWait.Proofs.Check.Loop

namespace SpinWait.Check

open Log

/-! A log that breaks off. What is said of an instruction that is still there holds of the whole log,
and all else that is said is that instructions are missing. -/

variable {lines shorter more tokens : List Text} {markers : Markers} {layout : Layout}
  {delay number : Nat} {spin : Hint}

/-- Where both logs have the method, its lines show it in the same layout. -/
def SameLayout (lines other : List Text) (markers : Markers) : Prop :=
  ∀ region otherRegion, methodRegion lines markers = .ok region →
    methodRegion other markers = .ok otherRegion →
      Layout.detect region.body = Layout.detect otherRegion.body

/-- The method has an instruction with this number, counted from the first place where the loop can
begin. -/
inductive Reaches (lines : List Text) (markers : Markers) (number : Nat) : Prop
  | intro {layout : Layout} {tokens : List Text} {position : Nat} {token : Text}
      (method : MethodTokens lines markers layout tokens)
      (first : FirstAt tokens (anchor layout) position)
      (here : tokens[position + number]? = some token) : Reaches lines markers number

/-- The check stops for want of lines: none of them names the method, or its instructions end before
the one asked for. -/
inductive RunsOut (lines : List Text) (markers : Markers) : Stop → Prop
  | unnamed (absent : ∀ index, ¬ MentionedAt lines markers.qualifiedName index) :
      RunsOut lines markers (.fault
        (.markerNotFound (.text "method".toList) (.text markers.qualifiedName) (.number 0)) none)
  | ended {number : Nat} {expected : Text} (short : ¬ Reaches lines markers number) :
      RunsOut lines markers (.fault
        (.idiomMismatch (.number number) (.text expected) (.text endOfRegion)) none)

theorem SameLayout.eq {other body otherBody : List Text} {start otherStart : Nat}
    (same : SameLayout lines other markers) (method : MethodBody lines markers start body)
    (otherMethod : MethodBody other markers otherStart otherBody) :
    Layout.detect body = Layout.detect otherBody :=
  same _ _ method.methodRegion_eq_ok otherMethod.methodRegion_eq_ok

theorem SameLayout.of_bodies {other body otherBody : List Text} {start otherStart : Nat}
    (method : MethodBody lines markers start body)
    (otherMethod : MethodBody other markers otherStart otherBody)
    (same : Layout.detect body = Layout.detect otherBody) : SameLayout lines other markers := by
  intro region otherRegion found otherFound
  rw [method.methodRegion_eq_ok] at found
  rw [otherMethod.methodRegion_eq_ok] at otherFound
  cases found
  cases otherFound
  exact same

/-- The instructions of the method that are still there are the first of those of the whole log. -/
theorem MethodTokens.append (method : MethodTokens lines markers layout tokens)
    (same : SameLayout lines (lines ++ more) markers) :
    ∃ longer, MethodTokens (lines ++ more) markers layout (tokens ++ longer) := by
  cases method with
  | @of_body start body method =>
    obtain ⟨longer, otherMethod⟩ := method.append more
    have layouts := same.eq method otherMethod
    have shown := MethodTokens.of_body otherMethod
    rw [← layouts, tokenizeAll, List.flatMap_append] at shown
    exact ⟨_, shown⟩

theorem Reaches.exists_token {position : Nat} (reaches : Reaches lines markers number)
    (method : MethodTokens lines markers layout tokens)
    (first : FirstAt tokens (anchor layout) position) :
    ∃ token, tokens[position + number]? = some token := by
  cases reaches with
  | intro otherMethod otherFirst here =>
    obtain ⟨rfl, rfl⟩ := method.unique otherMethod
    obtain rfl := first.unique otherFirst
    exact ⟨_, here⟩

theorem Reaches.anchor_mem (reaches : Reaches lines markers number)
    (method : MethodTokens lines markers layout tokens) : anchor layout ∈ tokens := by
  cases reaches with
  | intro otherMethod first _ =>
    obtain ⟨rfl, rfl⟩ := method.unique otherMethod
    exact List.mem_of_getElem? first.here

theorem Reaches.append (reaches : Reaches lines markers number)
    (same : SameLayout lines (lines ++ more) markers) : Reaches (lines ++ more) markers number := by
  cases reaches with
  | intro method first here =>
    obtain ⟨longer, shown⟩ := method.append same
    exact .intro shown (first.append longer) (getElem?_append_of_eq_some here longer)

/-- The table answers for the whole log what it answers for the part, unless lines are wanting
there. -/
theorem CounterVerdict.append {verdict : Except Stop Layout}
    (decided : CounterVerdict lines markers delay spin verdict)
    (same : SameLayout lines (lines ++ more) markers) :
    CounterVerdict (lines ++ more) markers delay spin verdict ∨
      ∃ stop, verdict = .error stop ∧ RunsOut lines markers stop := by
  cases decided with
  | methodMissing absent => exact .inr ⟨_, rfl, .unnamed absent⟩
  | anchorMissing method absent =>
    exact .inr ⟨_, rfl, .ended fun reaches => absent (reaches.anchor_mem method)⟩
  | @stops layout tokens position slot stop method first earlier stops =>
    cases found : tokens[position + slot.number]? with
    | none =>
      right
      rw [found] at stops
      cases stops with
      | ended =>
        refine ⟨_, rfl, .ended fun reaches => ?_⟩
        obtain ⟨token, here⟩ := reaches.exists_token method first
        rw [found] at here
        cases here
    | some token =>
      left
      obtain ⟨longer, shown⟩ := method.append same
      rw [found, ← getElem?_append_of_eq_some found longer] at stops
      refine .stops shown (first.append longer) (fun other lower => ?_) stops
      obtain ⟨token, here, holds⟩ := earlier other lower
      exact ⟨token, getElem?_append_of_eq_some here longer, holds⟩
  | passes method first all =>
    left
    obtain ⟨longer, shown⟩ := method.append same
    refine .passes shown (first.append longer) fun slot => ?_
    obtain ⟨token, here, holds⟩ := all slot
    exact ⟨token, getElem?_append_of_eq_some here longer, holds⟩

theorem RunsOut.not_reaches {expected actual : Value} {cause : Option Fault}
    (ends : RunsOut lines markers
      (.fault (.idiomMismatch (.number number) expected actual) cause)) :
    ¬ Reaches lines markers number := by
  cases ends with
  | ended short => exact short

/-- A log that breaks off without a change of layout passes only for what the whole log passes for,
and what it says of an instruction that is there the whole log says too. Where the whole log passes,
it fails only because the name of the method or instructions are cut off. -/
theorem counter_outcome_of_prefix (cut : shorter <+: lines)
    (same : SameLayout shorter lines markers) (delay : Nat) (spin : Hint) :
    (∀ layout, (counter shorter markers delay spin).outcome = .ok layout →
        (counter lines markers delay spin).outcome = .ok layout) ∧
      (∀ number expected actual cause, Reaches shorter markers number →
        (counter shorter markers delay spin).outcome =
            .error (.fault (.idiomMismatch (.number number) expected actual) cause) →
          Reaches lines markers number ∧ (counter lines markers delay spin).outcome =
            .error (.fault (.idiomMismatch (.number number) expected actual) cause)) ∧
      ∀ layout stop, (counter lines markers delay spin).outcome = .ok layout →
        (counter shorter markers delay spin).outcome = .error stop →
          RunsOut shorter markers stop := by
  obtain ⟨more, rfl⟩ := cut
  obtain ⟨verdict, decided⟩ := exists_counterVerdict shorter markers delay spin
  rw [decided.outcome_eq]
  rcases decided.append same with whole | ⟨stop, rfl, ends⟩
  · rw [whole.outcome_eq]
    refine ⟨fun layout passes => passes, ?_, ?_⟩
    · intro number expected actual cause reaches blamed
      exact ⟨reaches.append same, blamed⟩
    · intro layout stop passes stopped
      rw [passes] at stopped
      cases stopped
  · refine ⟨nofun, ?_, ?_⟩
    · intro number expected actual cause reaches blamed
      cases blamed
      exact absurd reaches ends.not_reaches
    · intro layout other passes stopped
      cases stopped
      exact ends

/-- The lines of a loop with delay 14. -/
def loopLines : List Text :=
  ["0x1: mrs x8, cntvct_el0".toList, "0x2: add x8, x8, #14".toList, "0x3: yield".toList,
    "0x4: mrs x9, cntvct_el0".toList, "0x5: cmp x9, x8".toList, "0x6: b.lt 0x3".toList]

def loopLog : List Text := Markers.default.header :: loopLines

/-- The log breaks off behind the hint. -/
def brokenLoopLog : List Text := Markers.default.header :: loopLines.take 3

theorem counter_outcome_of_brokenLoopLog :
    brokenLoopLog <+: loopLog ∧ SameLayout brokenLoopLog loopLog Markers.default ∧
      (∀ layout, (counter brokenLoopLog Markers.default 14 .yield).outcome = .ok layout →
          (counter loopLog Markers.default 14 .yield).outcome = .ok layout) ∧
      (∀ number expected actual cause, Reaches brokenLoopLog Markers.default number →
        (counter brokenLoopLog Markers.default 14 .yield).outcome =
            .error (.fault (.idiomMismatch (.number number) expected actual) cause) →
          Reaches loopLog Markers.default number ∧
            (counter loopLog Markers.default 14 .yield).outcome =
              .error (.fault (.idiomMismatch (.number number) expected actual) cause)) ∧
      ∀ layout stop, (counter loopLog Markers.default 14 .yield).outcome = .ok layout →
        (counter brokenLoopLog Markers.default 14 .yield).outcome = .error stop →
          RunsOut brokenLoopLog Markers.default stop := by
  have named : Markers.default.qualifiedName <:+: Markers.default.header := by decide +kernel
  have whole : MethodBody ([] ++ Markers.default.header :: (loopLines ++ [])) Markers.default 0
      loopLines := .of_split nofun named (by decide +kernel) nofun
  have part : MethodBody ([] ++ Markers.default.header :: (loopLines.take 3 ++ []))
      Markers.default 0 (loopLines.take 3) := .of_split nofun named (by decide +kernel) nofun
  rw [List.nil_append, List.append_nil] at whole part
  have cut : brokenLoopLog <+: loopLog :=
    List.cons_prefix_cons.mpr ⟨rfl, List.take_prefix 3 loopLines⟩
  have same : SameLayout brokenLoopLog loopLog Markers.default :=
    .of_bodies part whole (by decide +kernel)
  exact ⟨cut, same, counter_outcome_of_prefix cut same 14 .yield⟩

end SpinWait.Check
