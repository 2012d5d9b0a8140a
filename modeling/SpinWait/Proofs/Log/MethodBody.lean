import SpinWait.Log.Region
import SpinWait.Proofs.Log.Search
import SpinWait.Proofs.Text.Cut

namespace SpinWait.Log

/-! The lines of a method, said by where they stand in the log. -/

variable {lines body : List Text} {markers : Markers} {start : Nat}

/-- The body of the method that begins behind the line at `start`. It has no line that ends the
method, and goes on up to such a line or to the end of the log. -/
structure MethodBody (lines : List Text) (markers : Markers) (start : Nat) (body : List Text) :
    Prop where
  opened : MentionedAt lines markers.qualifiedName start
  first : ∀ earlier < start, ¬ MentionedAt lines markers.qualifiedName earlier
  inside : ∀ line ∈ body, endsRegion markers.regionEnd line = false
  split : ∃ rest, lines.drop (start + 1) = body ++ rest ∧
    ∀ line ∈ rest.head?, endsRegion markers.regionEnd line = true

theorem endsRegion_iff {ends : List Text} {line : Text} :
    endsRegion ends line = true ↔ ∃ marker ∈ ends, marker.lower <:+: normalize line := by
  simp [endsRegion, Text.mentions_iff]

/-- A line without a character that all end markers have does not end a method. -/
theorem endsRegion_eq_false {ends : List Text} {line : Text} {c : Char}
    (marked : ∀ marker ∈ ends, c ∈ marker.lower) (absent : c ∉ normalize line) :
    endsRegion ends line = false := by
  rw [Bool.eq_false_iff, ne_eq, endsRegion_iff]
  rintro ⟨marker, among, shown⟩
  exact absent (shown.subset (marked marker among))

theorem MethodBody.of_split {before rest : List Text} {opening : Text}
    (unnamed : ∀ line ∈ before, ¬ markers.qualifiedName <:+: line)
    (named : markers.qualifiedName <:+: opening)
    (inside : ∀ line ∈ body, endsRegion markers.regionEnd line = false)
    (ends : ∀ line ∈ rest.head?, endsRegion markers.regionEnd line = true) :
    MethodBody (before ++ opening :: (body ++ rest)) markers before.length body where
  opened := ⟨opening, by simp, named⟩
  first := by
    intro earlier before present
    obtain ⟨line, found, mentioned⟩ := present
    rw [List.getElem?_append_left before] at found
    exact unnamed line (List.mem_of_getElem? found) mentioned
  inside := inside
  split := ⟨rest, by simp [← List.drop_drop], ends⟩

theorem MethodBody.mem_lines {line : Text} (method : MethodBody lines markers start body)
    (member : line ∈ body) : line ∈ lines := by
  obtain ⟨rest, split, _⟩ := method.split
  exact List.mem_of_mem_drop (split ▸ List.mem_append_left rest member)

/-- Lines that do not end the method belong to its body, and so do those behind them up to the first
that does. -/
theorem MethodBody.of_drop {rest : List Text} (opened : MentionedAt lines markers.qualifiedName start)
    (first : ∀ earlier < start, ¬ MentionedAt lines markers.qualifiedName earlier)
    (inside : ∀ line ∈ body, endsRegion markers.regionEnd line = false)
    (split : lines.drop (start + 1) = body ++ rest) :
    MethodBody lines markers start
      (body ++ rest.takeWhile fun line => !endsRegion markers.regionEnd line) where
  opened := opened
  first := first
  inside := by
    intro line member
    rcases List.mem_append.mp member with member | member
    · exact inside line member
    · simpa using List.mem_takeWhile_imp member
  split := by
    refine ⟨rest.dropWhile fun line => !endsRegion markers.regionEnd line, ?_, fun line next => ?_⟩
    · rw [split, List.append_assoc, List.takeWhile_append_dropWhile]
    · simpa using boundary_dropWhile _ line next

theorem exists_methodBody {index : Nat} (named : MentionedAt lines markers.qualifiedName index) :
    ∃ start body, MethodBody lines markers start body := by
  obtain ⟨start, _, opened, first⟩ := exists_first named (Nat.zero_le index)
  have empty : ∀ line ∈ [], endsRegion markers.regionEnd line = false := nofun
  exact ⟨start, _, .of_drop opened (fun earlier => first earlier (Nat.zero_le _)) empty
    (List.nil_append _).symm⟩

theorem MethodBody.methodRegion_eq_ok (method : MethodBody lines markers start body) :
    methodRegion lines markers = .ok ⟨start, body⟩ := by
  obtain ⟨line, _, found⟩ := requireFrom_eq_ok "method".toList method.opened (Nat.zero_le start)
    fun earlier _ => method.first earlier
  obtain ⟨rest, split, ends⟩ := method.split
  have cut : (body ++ rest).takeWhile (fun line => !endsRegion markers.regionEnd line) = body :=
    takeWhile_append_of_boundary (by simpa using method.inside) (by simpa using ends)
  rw [Int.natCast_zero] at found
  rw [methodRegion, found]
  simp only [bind, Except.bind, split, cut]

theorem MethodBody.unique {otherStart : Nat} {otherBody : List Text}
    (method : MethodBody lines markers start body)
    (other : MethodBody lines markers otherStart otherBody) :
    start = otherStart ∧ body = otherBody := by
  have same := method.methodRegion_eq_ok.symm.trans other.methodRegion_eq_ok
  injection same with same
  injection same with starts bodies
  exact ⟨starts, bodies⟩

/-- With more lines behind the log the method begins where it did, and may go on. -/
theorem MethodBody.append (method : MethodBody lines markers start body) (more : List Text) :
    ∃ longer, MethodBody (lines ++ more) markers start (body ++ longer) := by
  obtain ⟨rest, split, _⟩ := method.split
  have reached : start < lines.length := method.opened.lt_length
  have behind : (lines ++ more).drop (start + 1) = body ++ (rest ++ more) := by
    rw [List.drop_append_of_le_length reached, split, List.append_assoc]
  refine ⟨_, .of_drop ?_ ?_ method.inside behind⟩
  · exact (mentionedAt_append_left reached).mpr method.opened
  · intro earlier before
    rw [mentionedAt_append_left (Nat.lt_trans before reached)]
    exact method.first earlier before

theorem methodRegion_eq_raise
    (absent : ∀ index, ¬ MentionedAt lines markers.qualifiedName index) :
    methodRegion lines markers = (Fault.markerNotFound (.text "method".toList)
      (.text markers.qualifiedName) (.number 0)).raise := by
  have missing := requireFrom_eq_raise "method".toList fun index (_ : 0 ≤ index) => absent index
  rw [Int.natCast_zero] at missing
  rw [methodRegion, missing]
  rfl

end SpinWait.Log
