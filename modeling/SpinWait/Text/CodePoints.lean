namespace SpinWait.Text

/-! Sets of characters, written as ascending inclusive ranges of code points. -/

abbrev CodePoints := List (Nat × Nat)

namespace CodePoints

/-- The search stops at the first range that begins above the code point. -/
def covers : CodePoints → Nat → Bool
  | [], _ => false
  | (first, last) :: rest, n => if n < first then false else n ≤ last || covers rest n

/-- Each range begins above the end of the one before it, and the first above `low`. -/
def ascendFrom (low : Nat) : CodePoints → Bool
  | [] => true
  | (first, last) :: rest => low ≤ first && first ≤ last && ascendFrom (last + 1) rest

theorem not_covers_of_lt {low n : Nat} {points : CodePoints}
    (ascending : ascendFrom low points = true) (below : n < low) : points.covers n = false := by
  cases points with
  | nil => rfl
  | cons range rest =>
    have bounds : (low ≤ range.1 ∧ range.1 ≤ range.2) ∧ ascendFrom (range.2 + 1) rest = true := by
      simpa [ascendFrom] using ascending
    have : n < range.1 := by omega
    simp [covers, this]

/-- The early stop leaves nothing out. -/
theorem covers_iff {low n : Nat} {points : CodePoints}
    (ascending : ascendFrom low points = true) :
    points.covers n = true ↔ ∃ range ∈ points, range.1 ≤ n ∧ n ≤ range.2 := by
  induction points generalizing low with
  | nil => simp [covers]
  | cons range rest ih =>
    have bounds : (low ≤ range.1 ∧ range.1 ≤ range.2) ∧ ascendFrom (range.2 + 1) rest = true := by
      simpa [ascendFrom] using ascending
    simp only [List.mem_cons, exists_eq_or_imp, ← ih bounds.2]
    by_cases before : n < range.1
    · have outside := not_covers_of_lt bounds.2 (show n < range.2 + 1 by omega)
      simp [covers, before, outside, Nat.not_le.mpr before]
    · simp [covers, before, Nat.not_lt.mp before]

end CodePoints

end SpinWait.Text
