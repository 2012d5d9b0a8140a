import SpinWait.Proofs.Log.Token
import SpinWait.Proofs.Text.OneLine

namespace SpinWait.Log

open Text

/-! Instructions stand on one line, since the lines that show them do. -/

variable {line token : Text} {layout : Layout} {lines : List Text}

theorem isOneLine_normalize (oneLine : line.IsOneLine) : (normalize line).IsOneLine := by
  rw [normalize_eq_lower]
  apply IsOneLine.lower
  intro c member
  obtain ⟨other, among, rfl⟩ :=
    List.mem_map.mp ((collapseBlanks_sublist _).subset ((trim_sublist _).subset member))
  unfold untab
  split
  · decide
  · exact oneLine other among

theorem isOneLine_of_mem_tokenize (oneLine : line.IsOneLine) (member : token ∈ tokenize layout line) :
    token.IsOneLine :=
  (isOneLine_normalize oneLine).of_subset (isInfix_of_mem_tokenize member).subset

theorem isOneLine_of_mem_tokenizeAll (oneLine : ∀ line ∈ lines, line.IsOneLine)
    (member : token ∈ tokenizeAll layout lines) : token.IsOneLine := by
  obtain ⟨line, among, shows⟩ := List.mem_flatMap.mp member
  exact isOneLine_of_mem_tokenize (oneLine line among) shows

end SpinWait.Log
