import Mathlib.Data.List.Basic
import SpinWait.Log.Scan
import SpinWait.Log.Token

namespace SpinWait.Log

/-! What a search for a marker finds, said by positions in the log. -/

variable {lines : List Text} {marker : Text} {start index : Nat} {hit : Hit}

/-- The line at a position mentions the marker. -/
def MentionedAt (lines : List Text) (marker : Text) (index : Nat) : Prop :=
  ∃ line, lines[index]? = some line ∧ marker <:+: line

/-- The marker is mentioned at this position and at no other. -/
def OnlyAt (lines : List Text) (marker : Text) (index : Nat) : Prop :=
  ∀ other, MentionedAt lines marker other ↔ other = index

/-- The lines from position `first` on and before position `last`. -/
def between (lines : List Text) (first last : Nat) : List Text :=
  (lines.drop first).take (last - first)

@[simp] theorem mentionedAt_nil : ¬ MentionedAt [] marker index := by
  simp [MentionedAt]

@[simp] theorem mentionedAt_zero {line : Text} :
    MentionedAt (line :: lines) marker 0 ↔ marker <:+: line := by
  simp [MentionedAt]

@[simp] theorem mentionedAt_succ (line : Text) :
    MentionedAt (line :: lines) marker (index + 1) ↔ MentionedAt lines marker index := by
  simp [MentionedAt]

theorem mentionedAt_drop :
    MentionedAt (lines.drop start) marker index ↔ MentionedAt lines marker (start + index) := by
  simp [MentionedAt]

theorem mentionedAt_append_left {more : List Text} (reached : index < lines.length) :
    MentionedAt (lines ++ more) marker index ↔ MentionedAt lines marker index := by
  rw [MentionedAt, List.getElem?_append_left reached, MentionedAt]

theorem MentionedAt.lt_length (mentioned : MentionedAt lines marker index) :
    index < lines.length := by
  obtain ⟨line, found, _⟩ := mentioned
  exact (List.getElem?_eq_some_iff.mp found).1

theorem MentionedAt.getElem? (mentioned : MentionedAt lines marker index) :
    ∃ line, lines[index]? = some line := by
  obtain ⟨line, found, _⟩ := mentioned
  exact ⟨line, found⟩

theorem OnlyAt.mentionedAt (only : OnlyAt lines marker index) : MentionedAt lines marker index :=
  (only index).mpr rfl

/-! ### The first hit -/

theorem findAt_eq_none {base : Nat} (absent : ∀ index, ¬ MentionedAt lines marker index) :
    findAt marker base lines = none := by
  induction lines generalizing base with
  | nil => rfl
  | cons line others ih =>
    have here : line.mentions marker = false := by
      simpa [← Text.mentions_iff] using absent 0
    have later : ∀ index, ¬ MentionedAt others marker index :=
      fun index => by simpa using absent (index + 1)
    simp [findAt, here, ih later]

/-- The position that is answered counts on from the one given for the first line. -/
theorem findAt_eq_some (base : Nat) (mentioned : MentionedAt lines marker index)
    (first : ∀ earlier < index, ¬ MentionedAt lines marker earlier) :
    ∃ line, lines[index]? = some line ∧ findAt marker base lines = some ⟨base + index, line⟩ := by
  induction lines generalizing base index with
  | nil => simp at mentioned
  | cons line others ih =>
    cases index with
    | zero =>
      have here : line.mentions marker = true := Text.mentions_iff.mpr (by simpa using mentioned)
      exact ⟨line, rfl, by simp [findAt, here]⟩
    | succ index =>
      have here : line.mentions marker = false := by
        simpa [← Text.mentions_iff] using first 0 (by omega)
      obtain ⟨found, position, result⟩ := ih (base + 1) (by simpa using mentioned)
        fun earlier before => by simpa using first (earlier + 1) (by omega)
      refine ⟨found, by simpa using position, ?_⟩
      simp only [findAt, here, Bool.false_eq_true, if_false, result]
      congr 2
      omega

theorem findFrom_eq_none (absent : ∀ index, start ≤ index → ¬ MentionedAt lines marker index) :
    findFrom lines start marker = none :=
  findAt_eq_none fun index => mentionedAt_drop.not.mpr (absent _ (by omega))

theorem findFrom_eq_some (mentioned : MentionedAt lines marker index) (reached : start ≤ index)
    (first : ∀ earlier, start ≤ earlier → earlier < index → ¬ MentionedAt lines marker earlier) :
    ∃ line, lines[index]? = some line ∧ findFrom lines start marker = some ⟨index, line⟩ := by
  obtain ⟨offset, rfl⟩ := Nat.exists_eq_add_of_le reached
  obtain ⟨line, position, result⟩ := findAt_eq_some start
    (mentionedAt_drop.mpr mentioned)
    fun earlier before => mentionedAt_drop.not.mpr (first _ (by omega) (by omega))
  exact ⟨line, by simpa using position, result⟩

/-- A search answers unless the marker is absent from the start on, and what it answers is the first
mention. -/
theorem exists_first (mentioned : MentionedAt lines marker index) (reached : start ≤ index) :
    ∃ first, start ≤ first ∧ MentionedAt lines marker first ∧
      ∀ earlier, start ≤ earlier → earlier < first → ¬ MentionedAt lines marker earlier := by
  induction index using Nat.strongRecOn with
  | ind index ih =>
    by_cases earlier : ∃ other, start ≤ other ∧ other < index ∧ MentionedAt lines marker other
    · obtain ⟨other, lower, upper, present⟩ := earlier
      exact ih other upper present lower
    · exact ⟨index, reached, mentioned,
        fun other lower upper present => earlier ⟨other, lower, upper, present⟩⟩

/-! ### How many lines mention a marker -/

theorem countMentions_cons {line : Text} :
    countMentions (line :: lines) marker =
      countMentions lines marker + if line.mentions marker then 1 else 0 := by
  simp [countMentions, List.countP_cons]

theorem countMentions_eq_zero_iff :
    countMentions lines marker = 0 ↔ ∀ index, ¬ MentionedAt lines marker index := by
  simp only [countMentions, List.countP_eq_zero, Text.mentions_iff, MentionedAt,
    List.mem_iff_getElem?]
  constructor
  · intro absent index present
    obtain ⟨line, found, mentioned⟩ := present
    exact absent line ⟨index, found⟩ mentioned
  · intro absent line member mentioned
    obtain ⟨index, found⟩ := member
    exact absent index ⟨line, found, mentioned⟩

theorem countMentions_pos_iff :
    0 < countMentions lines marker ↔ ∃ index, MentionedAt lines marker index := by
  rw [Nat.pos_iff_ne_zero, ne_eq, countMentions_eq_zero_iff]
  simp

theorem countMentions_le_length : countMentions lines marker ≤ lines.length :=
  List.countP_le_length

theorem OnlyAt.countMentions_eq_one (only : OnlyAt lines marker index) :
    countMentions lines marker = 1 := by
  induction lines generalizing index with
  | nil => simpa using only.mentionedAt
  | cons line others ih =>
    cases index with
    | zero =>
      have here : line.mentions marker = true :=
        Text.mentions_iff.mpr (mentionedAt_zero.mp only.mentionedAt)
      have later : countMentions others marker = 0 :=
        countMentions_eq_zero_iff.mpr fun other mentioned => by
          have := (only (other + 1)).mp ((mentionedAt_succ line).mpr mentioned)
          omega
      simp [countMentions_cons, here, later]
    | succ index =>
      have here : line.mentions marker = false := by
        have : ¬ MentionedAt (line :: others) marker 0 := (only 0).not.mpr (by omega)
        simpa [← Text.mentions_iff] using this
      have later : OnlyAt others marker index := fun other => by
        rw [← mentionedAt_succ line, only (other + 1)]
        omega
      simp [countMentions_cons, here, ih later]

theorem onlyAt_of_countMentions_le_one (mentioned : MentionedAt lines marker index)
    (few : countMentions lines marker ≤ 1) : OnlyAt lines marker index := by
  induction lines generalizing index with
  | nil => simp at mentioned
  | cons line others ih =>
    rw [countMentions_cons] at few
    cases index with
    | zero =>
      have here : line.mentions marker = true :=
        Text.mentions_iff.mpr (mentionedAt_zero.mp mentioned)
      have later := countMentions_eq_zero_iff.mp (show countMentions others marker = 0 by
        simp only [here, if_true] at few
        omega)
      intro other
      cases other with
      | zero => simpa using mentioned
      | succ other => simpa using later other
    | succ index =>
      rw [mentionedAt_succ] at mentioned
      have some : 0 < countMentions others marker := countMentions_pos_iff.mpr ⟨index, mentioned⟩
      have here : line.mentions marker = false := by
        cases present : line.mentions marker with
        | false => rfl
        | true =>
          rw [present, if_pos rfl] at few
          omega
      have later := ih mentioned (by omega)
      intro other
      cases other with
      | zero => simp [← Text.mentions_iff, here]
      | succ other => simpa using later other

/-- No mention, one, or several. -/
theorem mention_cases (lines : List Text) (marker : Text) :
    (∀ index, ¬ MentionedAt lines marker index) ∨ (∃ index, OnlyAt lines marker index) ∨
      2 ≤ countMentions lines marker := by
  by_cases several : 2 ≤ countMentions lines marker
  · exact .inr (.inr several)
  · by_cases present : ∃ index, MentionedAt lines marker index
    · obtain ⟨index, mentioned⟩ := present
      exact .inr (.inl ⟨index, onlyAt_of_countMentions_le_one mentioned (by omega)⟩)
    · exact .inl (not_exists.mp present)

/-! ### Required markers -/

variable (name : Text)

theorem requireFrom_eq_raise (absent : ∀ index, start ≤ index → ¬ MentionedAt lines marker index) :
    requireFrom lines start marker name =
      (Fault.markerNotFound (.text name) (.text marker) (.number start)).raise := by
  simp [requireFrom, findFrom_eq_none absent]

theorem requireFrom_eq_ok (mentioned : MentionedAt lines marker index) (reached : start ≤ index)
    (first : ∀ earlier, start ≤ earlier → earlier < index → ¬ MentionedAt lines marker earlier) :
    ∃ line, lines[index]? = some line ∧
      requireFrom lines start marker name = .ok ⟨index, line⟩ := by
  obtain ⟨line, position, result⟩ := findFrom_eq_some mentioned reached first
  exact ⟨line, position, by simp [requireFrom, result]⟩

theorem checkUnique_eq_raise (several : 2 ≤ countMentions lines marker) :
    checkUnique lines marker name = (Fault.duplicateMarker (.text name) (.text marker)
      (.number (countMentions lines marker))).raise := by
  have : countMentions lines marker > 1 := several
  simp [checkUnique, this]

theorem checkUnique_eq_ok (few : countMentions lines marker ≤ 1) :
    checkUnique lines marker name = .ok () := by
  have : ¬ countMentions lines marker > 1 := by omega
  simp [checkUnique, this]

theorem OnlyAt.requireFrom_eq_ok (only : OnlyAt lines marker index) (reached : start ≤ index) :
    ∃ line, lines[index]? = some line ∧
      requireFrom lines start marker name = .ok ⟨index, line⟩ :=
  Log.requireFrom_eq_ok name only.mentionedAt reached fun earlier _ before mentioned => by
    have := (only earlier).mp mentioned
    omega

theorem requireUnique_eq_raise_notFound (absent : ∀ index, ¬ MentionedAt lines marker index) :
    requireUnique lines marker name =
      (Fault.markerNotFound (.text name) (.text marker) (.number 0)).raise := by
  have missing := requireFrom_eq_raise name fun index (_ : 0 ≤ index) => absent index
  simp only [Int.natCast_zero] at missing
  simp [requireUnique, missing, Fault.raise, bind, Except.bind]

theorem requireUnique_eq_raise_duplicate (several : 2 ≤ countMentions lines marker) :
    requireUnique lines marker name = (Fault.duplicateMarker (.text name) (.text marker)
      (.number (countMentions lines marker))).raise := by
  obtain ⟨index, mentioned⟩ := countMentions_pos_iff.mp (show 0 < countMentions lines marker by omega)
  obtain ⟨first, lower, present, earliest⟩ := exists_first mentioned (Nat.zero_le index)
  obtain ⟨line, _, found⟩ := requireFrom_eq_ok name present lower earliest
  simp only [Int.natCast_zero] at found
  simp [requireUnique, found, checkUnique_eq_raise name several, Fault.raise, bind, Except.bind]

theorem OnlyAt.requireUnique_eq_ok (only : OnlyAt lines marker index) :
    ∃ line, lines[index]? = some line ∧
      requireUnique lines marker name = .ok ⟨index, line⟩ := by
  obtain ⟨line, position, found⟩ := only.requireFrom_eq_ok name (Nat.zero_le index)
  simp only [Int.natCast_zero] at found
  have few : countMentions lines marker ≤ 1 := Nat.le_of_eq only.countMentions_eq_one
  exact ⟨line, position, by simp [requireUnique, found, checkUnique_eq_ok name few, bind, Except.bind]⟩

/-! ### Bars -/

theorem Layout.detect_eq_hex (bar : ∃ line ∈ lines, '|' ∈ line) : Layout.detect lines = .hex := by
  obtain ⟨line, member, shown⟩ := bar
  have found : (lines.any fun line => line.contains '|') = true :=
    List.any_eq_true.mpr ⟨line, member, List.contains_iff_mem.mpr shown⟩
  rw [Layout.detect, found, if_pos rfl]

theorem Layout.detect_eq_mnemonic (unbarred : ∀ line ∈ lines, '|' ∉ line) :
    Layout.detect lines = .mnemonic := by
  have none : (lines.any fun line => line.contains '|') = false := by
    rw [List.any_eq_false]
    intro line member shown
    exact unbarred line member (List.contains_iff_mem.mp shown)
  rw [Layout.detect, none]
  rfl

end SpinWait.Log
