import SpinWait.Text.Quoted
import SpinWait.Value.Basic

namespace SpinWait.Value

/-! How values stand in messages, traces and digests. -/

/-- Items with a comma and a blank between them. -/
def separated (items : List Text) : Text := (", ".toList).intercalate items

mutual

/-- Writes a value so that its kind can be seen: text is quoted, a tuple of one item ends in a
comma, a hint shows its member name and its text. -/
def written : Value → Text
  | absent => "None".toList
  | flag value => if value then "True".toList else "False".toList
  | number value => Numeral.signed value
  | float numeral => numeral
  | text value => value.quoted
  | hint .nop => "<SpinKind.NOP: 'nop'>".toList
  | hint .isb => "<SpinKind.ISB: 'isb'>".toList
  | hint .yield => "<SpinKind.YIELD: 'yield'>".toList
  | bytes value => Text.quotedBytes value
  | list items => '[' :: (separated (writtenItems items) ++ [']'])
  | tuple items =>
    match items with
    | [] => "()".toList
    | [item] => '(' :: (item.written ++ ",)".toList)
    | first :: others => '(' :: (separated (first.written :: writtenItems others) ++ [')'])
  | mapping entries => '\x7b' :: (separated (writtenEntries entries) ++ ['\x7d'])

def writtenItems : List Value → List Text
  | [] => []
  | item :: others => item.written :: writtenItems others

def writtenEntries : List (Text × Value) → List Text
  | [] => []
  | (key, value) :: others =>
    (key.quoted ++ ": ".toList ++ value.written) :: writtenEntries others

end

/-- The member name of a hint, as it stands in running text. -/
def shownHint : Hint → Text
  | .nop => "SpinKind.NOP".toList
  | .isb => "SpinKind.ISB".toList
  | .yield => "SpinKind.YIELD".toList

/-- Like `written`, but text stands as it is. -/
def shown : Value → Text
  | text value => value
  | hint value => shownHint value
  | other => other.written

mutual

/-- All numbers inside are short enough to be written. -/
def isWritable : Value → Bool
  | number value => Numeral.isWritable value
  | list items => areWritable items
  | tuple items => areWritable items
  | mapping entries => entriesWritable entries
  | _ => true

def areWritable : List Value → Bool
  | [] => true
  | item :: others => item.isWritable && areWritable others

def entriesWritable : List (Text × Value) → Bool
  | [] => true
  | (_, value) :: others => value.isWritable && entriesWritable others

end

/-- The kind of a value, as it stands in messages. -/
def kindName : Value → Text
  | absent => "<class 'NoneType'>".toList
  | flag _ => "<class 'bool'>".toList
  | number _ => "<class 'int'>".toList
  | float _ => "<class 'float'>".toList
  | text _ => "<class 'str'>".toList
  | hint _ => "<enum 'SpinKind'>".toList
  | bytes _ => "<class 'bytes'>".toList
  | list _ => "<class 'list'>".toList
  | tuple _ => "<class 'tuple'>".toList
  | mapping _ => "<class 'dict'>".toList

end SpinWait.Value
