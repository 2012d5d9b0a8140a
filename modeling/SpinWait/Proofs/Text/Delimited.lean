import SpinWait.Proofs.Text.Cut
import SpinWait.Text.Basic

namespace SpinWait

/-! Written forms that end where they end: what follows one of them is never taken for a part of it. -/

variable {α β : Type} {among : α → Prop} {others : β → Prop} {form : α → Text} {next : β → Text}
  {stop : Char}

/-- The form and what follows it can be told from the text that they make together. -/
def SelfDelimiting (among : α → Prop) (form : α → Text) : Prop :=
  ∀ ⦃a b : α⦄ ⦃left right : Text⦄, among a → among b → form a ++ left = form b ++ right →
    a = b ∧ left = right

namespace SelfDelimiting

/-- A form without the character that ends it. -/
theorem of_stop (unstopped : ∀ a, among a → stop ∉ form a)
    (injective : ∀ a b, among a → among b → form a = form b → a = b) :
    SelfDelimiting among fun a => form a ++ [stop] := by
  intro a b left right here there same
  have cut (text rest : Text) (absent : stop ∉ text) :
      (text ++ stop :: rest).takeWhile (· != stop) = text := by
    refine takeWhile_append_of_boundary (fun c member => ?_) (by simp)
    exact bne_iff_ne.mpr fun found => absent (found ▸ member)
  simp only [List.append_assoc, List.singleton_append] at same
  have forms : form a = form b := by
    rw [← cut _ left (unstopped a here), same, cut _ right (unstopped b there)]
  rw [forms] at same
  exact ⟨injective a b here there forms, (List.cons.inj (List.append_cancel_left same)).2⟩

theorem behind (delimited : SelfDelimiting among form) (start : Text) :
    SelfDelimiting among fun a => start ++ form a := by
  intro a b left right here there same
  simp only [List.append_assoc] at same
  exact delimited here there (List.append_cancel_left same)

theorem before (delimited : SelfDelimiting among form) (finish : Text) :
    SelfDelimiting among fun a => form a ++ finish := by
  intro a b left right here there same
  simp only [List.append_assoc] at same
  obtain ⟨rfl, rest⟩ := delimited here there same
  exact ⟨rfl, List.append_cancel_left rest⟩

theorem pair (first : SelfDelimiting among form) (second : SelfDelimiting others next) :
    SelfDelimiting (fun both : α × β => among both.1 ∧ others both.2)
      fun both => form both.1 ++ next both.2 := by
  intro a b left right here there same
  simp only [List.append_assoc] at same
  obtain ⟨firsts, rest⟩ := first here.1 there.1 same
  obtain ⟨seconds, rest⟩ := second here.2 there.2 rest
  exact ⟨Prod.ext firsts seconds, rest⟩

/-- Forms in a row, with a character behind them that none of them begins with. -/
theorem flatMap (delimited : SelfDelimiting among form)
    (begins : ∀ a, among a → ∃ first rest, form a = first :: rest ∧ first ≠ stop) :
    SelfDelimiting (fun items : List α => ∀ item ∈ items, among item)
      fun items => items.flatMap form ++ [stop] := by
  have unstopped {a : α} (here : among a) (left right : Text) : form a ++ left ≠ stop :: right := by
    obtain ⟨first, rest, shape, differs⟩ := begins a here
    rw [shape]
    exact fun same => differs (List.cons.inj same).1
  intro items later left right here there same
  simp only [List.append_assoc, List.singleton_append] at same
  induction items generalizing later with
  | nil =>
    cases later with
    | nil => exact ⟨rfl, (List.cons.inj same).2⟩
    | cons b later =>
      rw [List.flatMap_cons, List.append_assoc] at same
      exact absurd same.symm (unstopped (there b (.head _)) _ _)
  | cons a items ih =>
    cases later with
    | nil =>
      rw [List.flatMap_cons, List.append_assoc] at same
      exact absurd same (unstopped (here a (.head _)) _ _)
    | cons b later =>
      rw [List.flatMap_cons, List.flatMap_cons, List.append_assoc, List.append_assoc] at same
      obtain ⟨rfl, rest⟩ := delimited (here a (.head _)) (there b (.head _)) same
      obtain ⟨rfl, ends⟩ := ih (fun item member => here item (.tail _ member))
        (fun item member => there item (.tail _ member)) rest
      exact ⟨rfl, ends⟩

end SelfDelimiting

end SpinWait
