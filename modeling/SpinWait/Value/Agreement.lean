import SpinWait.Text.Numeral
import SpinWait.Value.Basic

namespace SpinWait.Value

/-! When two values count as the same. Numbers are compared by value, whatever their kind; text
and hints by their characters; a mapping does not depend on the order of its entries. -/

/-- The nearest number with at most 53 significant bits; of two equally near ones the even. -/
def nearestFloat (n : Nat) : Nat :=
  if n < 0x20000000000000 then n
  else
    let unit := 1 <<< (n.log2 - 52)
    let lower := n / unit
    let rest := n % unit
    let rounded :=
      if 2 * rest > unit || (2 * rest == unit && lower % 2 == 1) then lower + 1 else lower
    rounded * unit

/-- The whole number that an unsigned float numeral stands for, if it is one. -/
def wholeMagnitude? (numeral : Text) : Option Nat := do
  let mantissa := numeral.takeWhile (· != 'e')
  let exponent ← match numeral.dropWhile (· != 'e') with
    | [] => some 0
    | _ :: digits => Numeral.read? digits
  let before := mantissa.takeWhile (· != '.')
  let after := (mantissa.dropWhile (· != '.')).drop 1
  let digits ← (before ++ after).mapM Text.digitValue?
  if digits.isEmpty then none
  let scaled := Numeral.ofDigits 10 digits
  let power := exponent - after.length
  if 0 ≤ power then some (nearestFloat (scaled * Nat.pow 10 power.toNat))
  else
    let divisor := Nat.pow 10 (-power).toNat
    if scaled % divisor = 0 then some (nearestFloat (scaled / divisor)) else none

def wholeNumber? : Text → Option Int
  | '-' :: numeral => (wholeMagnitude? numeral).map fun n => -(n : Int)
  | numeral => (wholeMagnitude? numeral).map fun n => (n : Int)

/-- A numeral that is no number differs from itself, and the two zeros are the same. -/
def floatsAgree (left right : Text) : Bool :=
  (left == right && left != "nan".toList) ||
    (wholeNumber? left == some 0 && wholeNumber? right == some 0)

mutual

def agrees : Value → Value → Bool
  | absent, absent => true
  | text left, text right => left == right
  | text left, hint right => left == right.name
  | hint left, text right => left.name == right
  | hint left, hint right => left == right
  | bytes left, bytes right => left == right
  | list left, list right => allAgree left right
  | tuple left, tuple right => allAgree left right
  | mapping left, mapping right => left.length == right.length && entriesAgree left right
  | float left, float right => floatsAgree left right
  | float left, number right => wholeNumber? left == some right
  | float left, flag right => wholeNumber? left == some (if right then 1 else 0)
  | number left, float right => wholeNumber? right == some left
  | flag left, float right => wholeNumber? right == some (if left then 1 else 0)
  | number left, number right => left == right
  | number left, flag right => left == (if right then 1 else 0)
  | flag left, number right => right == (if left then 1 else 0)
  | flag left, flag right => left == right
  | _, _ => false

def allAgree : List Value → List Value → Bool
  | [], [] => true
  | left :: lefts, right :: rights => left.agrees right && allAgree lefts rights
  | _, _ => false

/-- Each entry on the left agrees with the entry of its key on the right. -/
def entriesAgree : List (Text × Value) → List (Text × Value) → Bool
  | [], _ => true
  | (key, value) :: lefts, rights =>
    (match rights.lookup key with
      | some other => value.agrees other
      | none => false) && entriesAgree lefts rights

end

end SpinWait.Value
