import SpinWait.Proofs.Log.Normal
import SpinWait.Proofs.Text.AsciiCase

namespace SpinWait.Log

open Text

/-! What tokens are made of: each is a piece of the normal form of its line, with no white space at
an end. -/

variable {line text rest token : Text} {layout : Layout} {lines : List Text} {c : Char}

theorem isSuffix_of_afterAddress? (found : afterAddress? text = some rest) : rest <:+ text := by
  unfold afterAddress? at found
  split at found <;> cases found
  · exact List.nil_suffix
  · exact List.suffix_cons _ _
  · exact (List.suffix_cons _ _).trans (List.suffix_cons _ _)

theorem isSuffix_stripAddress (line : Text) : stripAddress line <:+ line := by
  unfold stripAddress
  split
  case h_1 first rest =>
    split
    · cases found : afterAddress? (rest.dropWhile isAddressDigit) with
      | none => exact List.suffix_refl _
      | some others =>
        have behind := (isSuffix_of_afterAddress? found).trans (List.dropWhile_suffix isAddressDigit)
        exact behind.trans ⟨['0', 'x', first], rfl⟩
    · exact List.suffix_refl _
  case h_2 => exact List.suffix_refl _

theorem isInfix_content (line : Text) : content line <:+: normalize line :=
  (isInfix_trim _).trans
    ((List.takeWhile_prefix _).isInfix.trans (isSuffix_stripAddress _).isInfix)

theorem isInfix_of_mem_fields {separator : Char} {field : Text}
    (member : field ∈ text.fields separator) : field <:+: text := by
  rw [← intercalate_fields separator text]
  generalize text.fields separator = parts at member ⊢
  induction parts with
  | nil => cases member
  | cons part others ih =>
    cases others with
    | nil =>
      obtain rfl := List.mem_singleton.mp member
      exact ⟨[], [], by rw [List.intercalate_singleton, List.nil_append, List.append_nil]⟩
    | cons next others =>
      rw [List.intercalate_cons_cons]
      rcases List.mem_cons.mp member with rfl | later
      · exact (List.prefix_append _ _).isInfix.trans (List.prefix_append _ _).isInfix
      · exact (ih later).trans (List.suffix_append _ _).isInfix

/-- A token is one piece of what its line says. -/
theorem isInfix_content_of_mem_tokenize (member : token ∈ tokenize layout line) :
    token <:+: content line := by
  unfold tokenize at member
  split at member
  · cases member
  · cases member
  · cases layout with
    | hex =>
      obtain ⟨piece, among, rfl⟩ := List.mem_map.mp (List.mem_of_mem_filter member)
      exact (isInfix_trim piece).trans (isInfix_of_mem_fields among)
    | mnemonic =>
      obtain rfl := List.mem_singleton.mp member
      exact List.infix_refl _

theorem isInfix_of_mem_tokenize (member : token ∈ tokenize layout line) :
    token <:+: normalize line :=
  (isInfix_content_of_mem_tokenize member).trans (isInfix_content line)

/-- What a line says is its only token if no bar parts it. -/
theorem tokenize_of_content (shown : content line = text) (trimmed : IsTrimmed text)
    (instruction : text.head? ≠ some '#') (unbarred : layout = .hex → '|' ∉ text) :
    tokenize layout line = [text] := by
  unfold tokenize
  rw [shown]
  split
  · exact absurd rfl trimmed.ne_nil
  · exact absurd rfl instruction
  · cases layout with
    | hex =>
      have kept : (!text.isEmpty) = true := by simpa using trimmed.ne_nil
      simp only [fields_of_not_mem (unbarred rfl), List.map_cons, List.map_nil, trimmed.trim_eq,
        List.filter_cons, kept, if_true, List.filter_nil]
    | mnemonic => rfl

theorem isTrimmed_of_mem_tokenize (member : token ∈ tokenize layout line) : IsTrimmed token := by
  unfold tokenize at member
  split at member
  · cases member
  · cases member
  · next nonempty _ =>
    cases layout with
    | hex =>
      obtain ⟨among, some⟩ := List.mem_filter.mp member
      obtain ⟨piece, _, rfl⟩ := List.mem_map.mp among
      exact isTrimmed_trim (by simpa using some)
    | mnemonic =>
      rw [List.mem_singleton.mp member]
      exact isTrimmed_trim nonempty

theorem isTrimmed_of_mem_tokenizeAll (member : token ∈ tokenizeAll layout lines) :
    IsTrimmed token := by
  obtain ⟨line, _, shows⟩ := List.mem_flatMap.mp member
  exact isTrimmed_of_mem_tokenize shows

/-- The letters of tokens are small. -/
theorem map_toLower_of_mem_tokenize (member : token ∈ tokenize layout line) :
    token.map Char.toLower = token := by
  have small : ∀ c ∈ token, c.toLower = id c := fun c inside =>
    toLower_of_mem_lower ((isInfix_of_mem_tokenize member).subset inside)
  rw [List.map_congr_left small, List.map_id]

end SpinWait.Log
