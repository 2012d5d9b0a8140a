namespace SpinWait

/-- Text is a list of characters, so its theory is the theory of lists. -/
abbrev Text := List Char

namespace Text

/-! Searching, cutting and padding of text. -/

/-- `needle` stands in the text as consecutive characters; the empty needle stands in every text. -/
def mentions : Text → Text → Bool
  | [], needle => needle.isEmpty
  | c :: rest, needle => needle.isPrefixOf (c :: rest) || mentions rest needle

theorem mentions_iff {text needle : Text} : text.mentions needle = true ↔ needle <:+: text := by
  induction text with
  | nil => simp [mentions]
  | cons c rest ih => simp [mentions, ih, List.infix_cons_iff]

/-- The parts between the separators, one more than there are separators. -/
def fields (separator : Char) : Text → List Text
  | [] => [[]]
  | c :: rest =>
    if c = separator then [] :: fields separator rest
    else match fields separator rest with
      | [] => [[c]]
      | field :: others => (c :: field) :: others

theorem fields_ne_nil (separator : Char) (text : Text) : fields separator text ≠ [] := by
  cases text with
  | nil => simp [fields]
  | cons c rest =>
    unfold fields
    split
    · simp
    · split <;> simp

/-- What stands before the first `stop`, or the whole text. -/
def before (stop : Char) (text : Text) : Text := text.takeWhile (· != stop)

/-- Blanks are appended up to `width` characters; longer text stays whole. -/
def padRight (width : Nat) (text : Text) : Text :=
  text ++ List.replicate (width - text.length) ' '

/-- Zeros are put in front up to `width` characters; longer text stays whole. -/
def padZeros (width : Nat) (text : Text) : Text :=
  List.replicate (width - text.length) '0' ++ text

/-- Code point order, a proper beginning first. -/
def precedes : Text → Text → Bool
  | [], _ => true
  | _ :: _, [] => false
  | a :: as, b :: bs => a < b || (a == b && precedes as bs)

end Text

end SpinWait
