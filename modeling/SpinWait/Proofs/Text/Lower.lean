import Mathlib.Data.List.Basic
import SpinWait.Text.Lowercase

namespace SpinWait.Text

/-! Lower case of text that begins in ASCII, where every character is changed for itself. -/

variable {front rest text : Text} {afterCased : Bool} {c : Char}

def IsAscii (c : Char) : Prop := c.toNat < 128

instance : DecidablePred IsAscii := fun c => Nat.decLt c.toNat 128

/-- Only the characters of the text are looked at, not all that there are. -/
instance (priority := high) decidableForallMem (text : Text) (property : Char → Prop)
    [DecidablePred property] : Decidable (∀ c, c ∈ text → property c) :=
  List.decidableBAll property text

/-- A property of the first 128 code points is one of every ASCII character. -/
theorem IsAscii.of_points {property : Char → Prop} (ascii : IsAscii c)
    (points : ∀ n < 128, property (Char.ofNat n)) : property c := by
  rw [← Char.ofNat_toNat c]
  exact points c.toNat ascii

theorem lowerChar_of_isAscii (ascii : IsAscii c) : lowerChar c = [c.toLower] := by
  apply ascii.of_points
  decide

/-- Whether a character after this one follows a cased one. -/
def casedBehind (afterCased : Bool) (c : Char) : Bool :=
  if isCaseIgnorable c then afterCased else isCased c

theorem lowerAfter_cons (ascii : IsAscii c) : lowerAfter afterCased (c :: rest) =
    c.toLower :: lowerAfter (casedBehind afterCased c) rest := by
  have notSigma : c ≠ 'Σ' := by
    intro same
    subst same
    exact absurd ascii (by decide)
  rw [lowerAfter, if_neg notSigma, lowerChar_of_isAscii ascii]
  rfl

theorem lowerAfter_append (ascii : ∀ c ∈ front, IsAscii c) :
    lowerAfter afterCased (front ++ rest) =
      front.map Char.toLower ++ lowerAfter (front.foldl casedBehind afterCased) rest := by
  induction front generalizing afterCased with
  | nil => rfl
  | cons c front ih =>
    have later : ∀ other ∈ front, IsAscii other := fun other member => ascii other (.tail c member)
    rw [List.cons_append, lowerAfter_cons (ascii c (.head front)), ih later]
    rfl

theorem lower_of_isAscii (ascii : ∀ c ∈ text, IsAscii c) : text.lower = text.map Char.toLower := by
  have whole : lowerAfter false (text ++ []) = text.map Char.toLower ++ lowerAfter _ [] :=
    lowerAfter_append ascii
  rwa [List.append_nil, lowerAfter, List.append_nil] at whole

end SpinWait.Text
