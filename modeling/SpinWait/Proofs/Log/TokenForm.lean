import SpinWait.Proofs.Log.Comment
import SpinWait.Proofs.Log.Spacing

namespace SpinWait.Log

open Text

/-! The form of tokens, in any script. A token is spaced well, in lower case and free of what parts a
line, so that it is its own normal form; and it reads as itself unless it looks like the beginning of
a line that says something else. -/

variable {line text field token : Text} {layout : Layout} {separator : Char}

/-- What every token of a layout is. -/
structure IsToken (layout : Layout) (token : Text) : Prop where
  nonempty : token ≠ []
  spaced : IsSpaced token
  uncommented : ';' ∉ token
  unbarred : layout = .hex → '|' ∉ token
  small : token.lower = token
  normal : normalize token = token

/-- An address stands first, and behind it a blank or nothing. -/
def OpensWithAddress (text : Text) : Prop :=
  ∃ address rest, IsSmallAddress address ∧ text = address ++ rest ∧
    (rest = [] ∨ rest.head? = some ' ')

/-! ### What tokens are free of -/

theorem separator_not_mem_of_mem_fields (member : field ∈ text.fields separator) :
    separator ∉ field := by
  induction text generalizing field with
  | nil =>
    obtain rfl := List.mem_singleton.mp member
    exact List.not_mem_nil
  | cons c rest ih =>
    obtain ⟨first, others, parts⟩ := List.exists_cons_of_ne_nil (fields_ne_nil separator rest)
    rw [parts] at ih
    rw [fields, parts] at member
    split at member
    · rcases List.mem_cons.mp member with rfl | later
      · exact List.not_mem_nil
      · exact ih later
    · next other =>
      rcases List.mem_cons.mp member with rfl | later
      · rw [List.mem_cons, not_or]
        exact ⟨fun same => other same.symm, ih (.head others)⟩
      · exact ih (.tail first later)

theorem semicolon_not_mem_content (line : Text) : ';' ∉ content line := by
  intro member
  have inside := (trim_sublist _).subset member
  exact absurd (List.mem_takeWhile_imp inside) (by decide)

theorem bar_not_mem_of_mem_tokenize (member : token ∈ tokenize .hex line) : '|' ∉ token := by
  unfold tokenize at member
  split at member
  · cases member
  · cases member
  · obtain ⟨piece, among, rfl⟩ := List.mem_map.mp (List.mem_of_mem_filter member)
    exact fun bar => separator_not_mem_of_mem_fields among ((trim_sublist piece).subset bar)

theorem isToken_of_mem_tokenize (member : token ∈ tokenize layout line) : IsToken layout token := by
  have piece := isInfix_of_mem_tokenize member
  have trimmed := isTrimmed_of_mem_tokenize member
  have line := isSpaced_normalize line
  have spaced : IsSpaced token :=
    ⟨fun tab => line.untabbed (piece.subset tab), fun blanks => line.single (blanks.trans piece),
      trimmed.trim_eq⟩
  have small : token.lower = token := lower_of_subset piece.subset
  refine ⟨trimmed.ne_nil, spaced, ?_, ?_, small, spaced.normalize_eq small⟩
  · exact fun comment =>
      semicolon_not_mem_content _ ((isInfix_content_of_mem_tokenize member).subset comment)
  · rintro rfl
    exact bar_not_mem_of_mem_tokenize member

/-! ### Reading a token again -/

/-- Only what opens with an address loses one. -/
theorem stripAddress_eq_self_of_not_opens (trimmed : IsTrimmed text)
    (other : ¬ OpensWithAddress text) : stripAddress text = text := by
  by_cases begins : BeginsWithAddress text
  · obtain ⟨first, digits, rfl, digit⟩ := begins
    have whole := List.takeWhile_append_dropWhile (p := isAddressDigit) (l := digits)
    have small : IsSmallAddress ('0' :: 'x' :: first :: (digits.takeWhile isAddressDigit ++ [':'])) :=
      .digits digit fun c => List.mem_takeWhile_imp
    rw [stripAddress_of_digit digit]
    cases found : afterAddress? (digits.dropWhile isAddressDigit) with
    | none => rfl
    | some rest =>
      exfalso
      unfold afterAddress? at found
      split at found
      · next alone =>
        rw [alone] at whole
        exact other ⟨_, [], small, by rw [List.append_nil, whole], .inl rfl⟩
      · next fed =>
        -- A line feed at the end would be white space at an end.
        rw [fed] at whole
        refine ne_append_feed trimmed.last
          ('0' :: 'x' :: first :: (digits.takeWhile isAddressDigit ++ [':'])) ?_
        conv_lhs => rw [← whole]
        simp
      · next behind spaced =>
        rw [spaced] at whole
        refine other ⟨_, ' ' :: behind, small, ?_, .inr rfl⟩
        conv_lhs => rw [← whole]
        simp
      · cases found
  · exact stripAddress_eq_self_of_not begins

theorem IsToken.content_eq (isToken : IsToken layout token) (other : ¬ OpensWithAddress token) :
    content token = token := by
  have trimmed := isToken.spaced.isTrimmed isToken.nonempty
  rw [content, isToken.normal, stripAddress_eq_self_of_not_opens trimmed other,
    before_of_not_mem isToken.uncommented, trimmed.trim_eq]

theorem IsToken.not_mem_tokenize_of_opens (isToken : IsToken layout token)
    (opens : OpensWithAddress token) : token ∉ tokenize layout token := by
  intro member
  have shorter := (isInfix_content_of_mem_tokenize member).length_le
  obtain ⟨address, rest, small, shape, ending⟩ := opens
  have stripped : (stripAddress token).length < token.length := by
    obtain ⟨first, others, cut⟩ := List.exists_cons_of_ne_nil
      (isPlain_of_isSmallAddress small).trimmed.ne_nil
    rcases ending with rfl | spaced
    · rw [List.append_nil] at shape
      rw [shape, stripAddress_of_isSmallAddress small, cut]
      exact Nat.succ_pos _
    · obtain ⟨behind, rfl⟩ := List.head?_eq_some_iff.mp spaced
      rw [shape, small.stripAddress_append]
      simp only [afterAddress?, Option.getD_some, List.length_append, List.length_cons]
      omega
  have said : (content token).length ≤ (stripAddress token).length := by
    rw [content, isToken.normal]
    exact (isInfix_trim _).length_le.trans (List.takeWhile_sublist _).length_le
  omega

theorem IsToken.tokenize_eq_iff (isToken : IsToken layout token) :
    tokenize layout token = [token] ↔
      token.head? ≠ some '#' ∧ ¬ OpensWithAddress token := by
  constructor
  · intro same
    refine ⟨fun hashed => ?_, fun opens => ?_⟩
    · obtain ⟨rest, rfl⟩ := List.head?_eq_some_iff.mp hashed
      have nothing : tokenize layout ([] ++ '#' :: rest) = [] := (@Filler.hashed [] rest nofun).tokenize_eq
      rw [List.nil_append, same] at nothing
      cases nothing
    · exact isToken.not_mem_tokenize_of_opens opens (same ▸ .head [])
  · rintro ⟨instruction, other⟩
    exact tokenize_of_content (isToken.content_eq other)
      (isToken.spaced.isTrimmed isToken.nonempty) instruction isToken.unbarred

/-- Every token of a line is in the form of tokens, and the normal form of a line is its own. A token
reads as itself just if neither a `#` nor an address opens it. -/
theorem tokens_in_normal_form (layout : Layout) (line : Text) :
    (∀ token ∈ tokenize layout line, IsToken layout token ∧
      (tokenize layout token = [token] ↔ token.head? ≠ some '#' ∧ ¬ OpensWithAddress token)) ∧
      normalize (normalize line) = normalize line :=
  ⟨fun _ member => ⟨isToken_of_mem_tokenize member, (isToken_of_mem_tokenize member).tokenize_eq_iff⟩,
    normalize_normalize line⟩

example : tokenize .hex "\t0x1F:  ΑΣ  İ |  0x2:\tNOP ; c".toList =
      ["ας i\u0307".toList, "0x2: nop".toList] ∧
    tokenize .hex "0x2: nop".toList = ["nop".toList] := by
  decide +kernel

end SpinWait.Log
