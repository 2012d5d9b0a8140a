import SpinWait.Text.Basic

namespace SpinWait.Text

/-! Cutting text into lines. -/

/-- Ten characters end a line; a carriage return and the line feed after it end one line
together. -/
def isLineBreak (c : Char) : Bool :=
  c ∈ ['\n', '\r', '\x0b', '\x0c', '\x1c', '\x1d', '\x1e', '\u0085', '\u2028', '\u2029']

/-- Puts a character in front of the first line. -/
def extendFirst (c : Char) : List Text → List Text
  | [] => [[c]]
  | line :: others => (c :: line) :: others

/-- The lines of a text without their ends. What follows the last line break is a line only if it
is not empty. -/
def lines : Text → List Text
  | [] => []
  | '\r' :: '\n' :: rest => [] :: lines rest
  | c :: rest => if isLineBreak c then [] :: lines rest else extendFirst c (lines rest)

/-- Every `\r\n` and every other `\r` becomes `\n`, as a log is read. -/
def unifyNewlines : Text → Text
  | [] => []
  | '\r' :: '\n' :: rest => '\n' :: unifyNewlines rest
  | '\r' :: rest => '\n' :: unifyNewlines rest
  | c :: rest => c :: unifyNewlines rest

end SpinWait.Text
