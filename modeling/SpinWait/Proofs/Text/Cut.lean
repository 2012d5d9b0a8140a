import Mathlib.Data.List.TakeWhile

namespace SpinWait

/-! Where a list is cut: a class that holds up to a boundary, and not at it. -/

variable {α : Type} {inside : α → Bool} {front rest : List α}

theorem takeWhile_append_of_boundary (all : ∀ item ∈ front, inside item = true)
    (boundary : ∀ item ∈ rest.head?, inside item = false) :
    (front ++ rest).takeWhile inside = front := by
  rw [List.takeWhile_append_of_pos all]
  cases rest with
  | nil => simp
  | cons item others => simp [boundary item rfl]

theorem dropWhile_append_of_boundary (all : ∀ item ∈ front, inside item = true)
    (boundary : ∀ item ∈ rest.head?, inside item = false) :
    (front ++ rest).dropWhile inside = rest := by
  rw [List.dropWhile_append_of_pos all]
  cases rest with
  | nil => rfl
  | cons item others => simp [boundary item rfl]

/-- From an item on that stops the cut nothing else is cut. -/
theorem dropWhile_append (boundary : ∀ item ∈ rest.head?, inside item = false) :
    (front ++ rest).dropWhile inside = front.dropWhile inside ++ rest := by
  induction front with
  | nil => exact dropWhile_append_of_boundary (by simp) boundary
  | cons first front ih =>
    rw [List.cons_append, List.dropWhile_cons, List.dropWhile_cons, ih]
    split <;> rfl

theorem dropWhile_append_cons {item : α} (stops : inside item = false) :
    (front ++ item :: rest).dropWhile inside = front.dropWhile inside ++ item :: rest := by
  refine dropWhile_append fun first isFirst => ?_
  obtain rfl : item = first := Option.some.inj isFirst
  exact stops

theorem takeWhile_append_cons {item : α} (stops : inside item = false) :
    (front ++ item :: rest).takeWhile inside = front.takeWhile inside := by
  induction front with
  | nil => simp [stops]
  | cons first front ih => rw [List.cons_append, List.takeWhile_cons, List.takeWhile_cons, ih]

theorem boundary_dropWhile (list : List α) :
    ∀ item ∈ (list.dropWhile inside).head?, inside item = false := by
  intro item first
  have stopped := List.head?_dropWhile_not inside list
  rw [Option.mem_def.mp first] at stopped
  exact stopped

end SpinWait
