import SpinWait.Proofs.Log.MethodBody

namespace SpinWait.Log

/-! A part of a log, taken out and put between other lines. -/

variable {lines inside front rest : List Text} {marker : Text} {first last index : Nat}

theorem countMentions_eq_zero_of_unmentioned
    (unmentioned : ∀ line ∈ lines, ¬ marker <:+: line) : countMentions lines marker = 0 := by
  rw [countMentions, List.countP_eq_zero]
  exact fun line member mentioned => unmentioned line member (Text.mentions_iff.mp mentioned)

/-! ### Put between other lines -/

theorem getElem?_surrounded (bounded : index < inside.length) :
    (front ++ inside ++ rest)[front.length + index]? = inside[index]? := by
  rw [List.append_assoc, List.getElem?_append_right (Nat.le_add_right _ _),
    Nat.add_sub_cancel_left, List.getElem?_append_left bounded]

theorem mentionedAt_surrounded (bounded : index < inside.length) :
    MentionedAt (front ++ inside ++ rest) marker (front.length + index) ↔
      MentionedAt inside marker index := by
  simp only [MentionedAt, getElem?_surrounded bounded]

theorem between_surrounded (bounded : last ≤ inside.length) :
    between (front ++ inside ++ rest) (front.length + first) (front.length + last) =
      between inside first last := by
  have width : front.length + last - (front.length + first) = last - first := by omega
  have short : last - first ≤ (inside.drop first).length := by
    rw [List.length_drop]
    omega
  rw [between, width, List.append_assoc, ← List.drop_drop, List.drop_left, List.drop_append,
    List.take_append_of_le_length short, between]

theorem OnlyAt.surrounded (only : OnlyAt inside marker index)
    (unmentioned : ∀ line ∈ front ++ rest, ¬ marker <:+: line) :
    OnlyAt (front ++ inside ++ rest) marker (front.length + index) := by
  have here : MentionedAt (front ++ inside ++ rest) marker (front.length + index) :=
    (mentionedAt_surrounded only.mentionedAt.lt_length).mpr only.mentionedAt
  apply onlyAt_of_countMentions_le_one here
  have single := only.countMentions_eq_one
  have elsewhere := countMentions_eq_zero_of_unmentioned unmentioned
  simp only [countMentions, List.countP_append] at single elsewhere ⊢
  omega

/-! ### Taken out -/

theorem between_append_drop (lines : List Text) (ordered : first ≤ last) :
    between lines first last ++ lines.drop last = lines.drop first := by
  have behind : lines.drop last = (lines.drop first).drop (last - first) := by
    rw [List.drop_drop, Nat.add_sub_cancel' ordered]
  rw [between, behind, List.take_append_drop]

theorem take_between_drop (lines : List Text) (ordered : first ≤ last) :
    lines.take first ++ between lines first last ++ lines.drop last = lines := by
  rw [List.append_assoc, between_append_drop lines ordered, List.take_append_drop]

theorem length_between (bounded : last ≤ lines.length) :
    (between lines first last).length = last - first := by
  rw [between, List.length_take, List.length_drop]
  omega

theorem between_eq_cons {line : Text} (found : lines[first]? = some line) (lower : first < last) :
    between lines first last = line :: between lines (first + 1) last := by
  obtain ⟨bounded, rfl⟩ := List.getElem?_eq_some_iff.mp found
  have width : last - first = last - (first + 1) + 1 := by omega
  rw [between, width, List.drop_eq_getElem_cons bounded, List.take_succ_cons, between]

theorem between_eq_concat {line : Text} (found : lines[last]? = some line) (ordered : first ≤ last) :
    between lines first (last + 1) = between lines first last ++ [line] := by
  have width : last + 1 - first = last - first + 1 := by omega
  rw [between, width, List.take_add_one, List.getElem?_drop, Nat.add_sub_cancel' ordered, found,
    between]
  rfl

theorem mentionedAt_between : MentionedAt (between lines first last) marker index ↔
    first + index < last ∧ MentionedAt lines marker (first + index) := by
  simp only [MentionedAt, between, List.getElem?_take, List.getElem?_drop]
  split
  · simp only [show first + index < last by omega, true_and]
  · simp only [show ¬ first + index < last by omega, false_and, reduceCtorEq, exists_false]

theorem OnlyAt.between (only : OnlyAt lines marker index) (lower : first ≤ index)
    (upper : index < last) : OnlyAt (between lines first last) marker (index - first) := by
  intro other
  rw [mentionedAt_between, only (first + other)]
  omega

theorem OnlyAt.unmentioned (only : OnlyAt lines marker index) (lower : first ≤ index)
    (upper : index < last) : ∀ line ∈ lines.take first ++ lines.drop last, ¬ marker <:+: line := by
  intro line member mentioned
  rcases List.mem_append.mp member with before | behind
  · obtain ⟨position, bounded, rfl⟩ := List.mem_take_iff_getElem.mp before
    have := (only position).mp ⟨_, List.getElem?_eq_getElem (by omega), mentioned⟩
    omega
  · obtain ⟨position, found⟩ := List.mem_iff_getElem?.mp behind
    rw [List.getElem?_drop] at found
    have := (only (last + position)).mp ⟨line, found, mentioned⟩
    omega

/-! ### Methods -/

/-- A method from the line that names it to the first line that ends it. -/
structure MethodAt (lines : List Text) (markers : Markers) (start stop : Nat) : Prop where
  opened : MentionedAt lines markers.qualifiedName start
  first : ∀ earlier < start, ¬ MentionedAt lines markers.qualifiedName earlier
  later : start < stop
  inside : ∀ line ∈ between lines (start + 1) stop, endsRegion markers.regionEnd line = false
  ends : ∃ line, lines[stop]? = some line ∧ endsRegion markers.regionEnd line = true

variable {markers : Markers} {start stop : Nat}

theorem MethodAt.methodBody (method : MethodAt lines markers start stop) :
    MethodBody lines markers start (between lines (start + 1) stop) where
  opened := method.opened
  first := method.first
  inside := method.inside
  split := by
    obtain ⟨line, found, ends⟩ := method.ends
    have reached : start + 1 ≤ stop := method.later
    refine ⟨lines.drop stop, (between_append_drop lines reached).symm, fun other next => ?_⟩
    rw [Option.mem_def, List.head?_drop, found] at next
    exact Option.some.inj next ▸ ends

/-- The method with other lines around it. -/
theorem MethodAt.surrounded (method : MethodAt lines markers start stop)
    (unnamed : ∀ line ∈ front, ¬ markers.qualifiedName <:+: line) :
    MethodBody (front ++ between lines start (stop + 1) ++ rest) markers front.length
      (between lines (start + 1) stop) := by
  obtain ⟨opening, opens, named⟩ := method.opened
  obtain ⟨line, found, ends⟩ := method.ends
  have reached : start + 1 ≤ stop := method.later
  rw [between_eq_cons opens (by omega), between_eq_concat found reached, List.append_assoc,
    List.cons_append, List.append_assoc]
  refine .of_split unnamed named method.inside ?_
  intro other next
  exact Option.some.inj next ▸ ends

end SpinWait.Log
