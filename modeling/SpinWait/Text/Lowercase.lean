import SpinWait.Text.Basic
import SpinWait.Text.CaseData

namespace SpinWait.Text

/-! Full Unicode lower case. Two characters leave the simple mapping: U+0130 becomes two
characters, and a capital sigma at the end of a word becomes the final form. -/

def isCased (c : Char) : Bool := casedPoints.covers c.toNat

def isCaseIgnorable (c : Char) : Bool := caseIgnorablePoints.covers c.toNat

/-- The simple mapping on code points; the ranges ascend, so the first one that ends at or after
`n` decides. -/
def lowerPoint : List CaseRange → Nat → Nat
  | [], n => n
  | range :: others, n =>
    if n ≤ range.last then
      if range.first ≤ n && (n - range.first) % range.step == 0 then (n + range.shift).toNat else n
    else lowerPoint others n

def lowerChar (c : Char) : Text :=
  if c = '\u0130' then ['i', '\u0307'] else [Char.ofNat (lowerPoint caseRanges c.toNat)]

/-- A cased character comes next once the case-ignorable ones are skipped. -/
def leadsCased (text : Text) : Bool :=
  match text.dropWhile isCaseIgnorable with
  | [] => false
  | c :: _ => isCased c

/-- `afterCased` says whether the last character before that is not case-ignorable is cased. -/
def lowerAfter (afterCased : Bool) : Text → Text
  | [] => []
  | c :: rest =>
    let lowered :=
      if c = 'Σ' then [if afterCased && !leadsCased rest then 'ς' else 'σ'] else lowerChar c
    lowered ++ lowerAfter (if isCaseIgnorable c then afterCased else isCased c) rest

def lower (text : Text) : Text := lowerAfter false text

end SpinWait.Text
