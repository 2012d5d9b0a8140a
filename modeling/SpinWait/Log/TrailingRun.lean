import SpinWait.Text.Basic

namespace SpinWait.Log

/-! The last run of a token. -/

/-- The length of the run of `target` that ends at its last occurrence. Tokens behind it do not
count, nor do earlier copies before another token. -/
def trailingRun (tokens : List Text) (target : Text) : Nat :=
  ((tokens.reverse.dropWhile (· != target)).takeWhile (· == target)).length

end SpinWait.Log
