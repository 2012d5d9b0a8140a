import SpinWait.Hint

namespace SpinWait

/-- A value that a caller may hand over where a check expects a number, a name or a payload. A
float is kept as its shortest numeral; a mapping keeps the order of its entries. -/
inductive Value
  | absent
  | flag (value : Bool)
  | number (value : Int)
  | float (numeral : Text)
  | text (value : Text)
  | hint (value : Hint)
  | bytes (value : List UInt8)
  | list (items : List Value)
  | tuple (items : List Value)
  | mapping (entries : List (Text × Value))

instance : Inhabited Value := ⟨.absent⟩

namespace Value

/-- A hint counts as text, namely as its name. -/
def text? : Value → Option Text
  | text value => some value
  | hint value => some value.name
  | _ => none

/-- A flag counts as the number 0 or 1. -/
def integer? : Value → Option Int
  | number value => some value
  | flag value => some (if value then 1 else 0)
  | _ => none

/-- Absence, false, zero and everything of length zero are empty. -/
def isEmpty : Value → Bool
  | absent => true
  | flag value => !value
  | number value => value == 0
  | float numeral => numeral == "0.0".toList || numeral == "-0.0".toList
  | text value => value.isEmpty
  | hint _ => false
  | bytes value => value.isEmpty
  | list items => items.isEmpty
  | tuple items => items.isEmpty
  | mapping entries => entries.isEmpty

mutual

/-- A value can stand as a key if no list and no mapping is part of it. -/
def isKey : Value → Bool
  | list _ => false
  | mapping _ => false
  | tuple items => areKeys items
  | _ => true

def areKeys : List Value → Bool
  | [] => true
  | item :: others => item.isKey && areKeys others

end

/-- A later entry takes the place of an earlier one with the same key. -/
def insertEntry (key : Text) (value : Value) : List (Text × Value) → List (Text × Value)
  | [] => [(key, value)]
  | (known, old) :: rest =>
    if known = key then (known, value) :: rest else (known, old) :: insertEntry key value rest

def ofEntries (entries : List (Text × Value)) : Value :=
  mapping (entries.foldl (fun known entry => insertEntry entry.1 entry.2 known) [])

end Value

end SpinWait
