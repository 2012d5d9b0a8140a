import SpinWait.Proofs.Log.Address
import SpinWait.Proofs.Log.Spacing

namespace SpinWait.Log

open Text

/-! Instruction words as they are found in logs. Whatever white space, bars and comments stand around
them, the words of a line are read in order, each once, and so are those of a block of lines. -/

variable {front rest text cells tail line : Text} {words here block : List Text} {c : Char}

/-! ### Words -/

/-- Two groups of four hexadecimal digits with a blank between them. -/
inductive IsImage : Text → Prop
  | groups {high low : Text} (highDigits : IsHexNumeral high) (lowDigits : IsHexNumeral low)
      (highWidth : high.length = 4) (lowWidth : low.length = 4) : IsImage (high ++ ' ' :: low)

theorem IsImage.of_digits (digits : ∀ c ∈ text.take 4 ++ text.drop 5, c ∈ hexDigits)
    (blank : text[4]? = some ' ') (width : text.length = 9) : IsImage text := by
  have shape : text = text.take 4 ++ ' ' :: text.drop 5 := by
    obtain ⟨inside, there⟩ := List.getElem?_eq_some_iff.mp blank
    rw [← there, ← List.drop_eq_getElem_cons, List.take_append_drop]
  have highWidth : (text.take 4).length = 4 := by
    rw [List.length_take, width]
    rfl
  have lowWidth : (text.drop 5).length = 4 := by
    rw [List.length_drop, width]
  rw [shape]
  refine .groups ⟨?_, fun c member => ?_⟩ ⟨?_, fun c member => ?_⟩ highWidth lowWidth
  · exact List.ne_nil_of_length_eq_add_one highWidth
  · exact digits c (List.mem_append_left _ member)
  · exact List.ne_nil_of_length_eq_add_one lowWidth
  · exact digits c (List.mem_append_right _ member)

theorem IsImage.isPlain (image : IsImage text) : IsPlain text := by
  cases image with
  | groups highDigits lowDigits => exact highDigits.isPlain.append_blank lowDigits.isPlain

theorem IsImage.toLower (image : IsImage text) : IsImage (text.map Char.toLower) := by
  cases image with
  | groups highDigits lowDigits highWidth lowWidth =>
    rw [List.map_append, List.map_cons]
    exact .groups highDigits.toLower lowDigits.toLower (by simpa using highWidth)
      (by simpa using lowWidth)

theorem IsImage.lower_eq (image : IsImage text) : text.lower = text.map Char.toLower :=
  lower_of_isAscii image.isPlain.ascii

/-! ### Listings -/

/-- Blanks and tabs, or nothing. -/
def IsSpacing (text : Text) : Prop := ∀ c ∈ text, c = ' ' ∨ c = '\t'

instance (text : Text) : Decidable (IsSpacing text) :=
  inferInstanceAs (Decidable (∀ c ∈ text, c = ' ' ∨ c = '\t'))

/-- What stands between two bars: one word, with any width between its groups, or none. -/
inductive IsCell : List Text → Text → Prop
  | empty {gap : Text} (spacing : IsSpacing gap) : IsCell [] gap
  | word {margin high inner low gap : Text} (image : IsImage (high ++ ' ' :: low))
      (isGap : IsGap inner) (before : IsSpacing margin) (behind : IsSpacing gap) :
      IsCell [high ++ ' ' :: low] (margin ++ (high ++ inner ++ low) ++ gap)

/-- Cells with bars between them. -/
inductive ShowsCells : List Text → Text → Prop
  | last {words : List Text} {text : Text} (cell : IsCell words text) : ShowsCells words text
  | bar {here words : List Text} {front rest : Text} (cell : IsCell here front)
      (others : ShowsCells words rest) : ShowsCells (here ++ words) (front ++ '|' :: rest)

/-- Cells at an address, and behind them nothing or a comment. -/
inductive WordLine : List Text → Text → Prop
  | intro {words : List Text} {margin address gap cells tail : Text}
      (blank : ∀ c ∈ margin, isBlank c = true) (shown : IsAddressText address) (isGap : IsGap gap)
      (listed : ShowsCells words cells) (ends : ∀ c ∈ tail.head?, c = ';') :
      WordLine words (margin ++ address ++ gap ++ (cells ++ tail))

/-- Lines of words, and lines without instructions anywhere between them. -/
inductive WordBlock : List Text → List Text → Prop
  | nil : WordBlock [] []
  | filler {words block : List Text} {line : Text} (filler : Filler line)
      (others : WordBlock words block) : WordBlock words (line :: block)
  | line {here words block : List Text} {line : Text} (shown : WordLine here line)
      (others : WordBlock words block) : WordBlock (here ++ words) (line :: block)

theorem IsSpacing.isBlank (spacing : IsSpacing text) : ∀ c ∈ text, isBlank c = true := by
  intro c member
  rcases spacing c member with rfl | rfl <;> decide

/-- The characters of a cell. -/
def cellChars : Text := ' ' :: '\t' :: hexDigits

theorem IsSpacing.mem_cellChars (spacing : IsSpacing text) (member : c ∈ text) : c ∈ cellChars := by
  rcases spacing c member with rfl | rfl <;> decide

theorem IsImage.mem_cellChars (image : IsImage text) (member : c ∈ text) : c ∈ cellChars := by
  cases image with
  | groups highDigits lowDigits =>
    rcases List.mem_append.mp member with inHigh | behind
    · exact .tail _ (.tail _ (highDigits.digits c inHigh))
    · rcases List.mem_cons.mp behind with rfl | inLow
      · exact .head _
      · exact .tail _ (.tail _ (lowDigits.digits c inLow))

theorem IsCell.mem_cellChars (cell : IsCell words text) (member : c ∈ text) : c ∈ cellChars := by
  cases cell with
  | empty spacing => exact spacing.mem_cellChars member
  | @word margin high inner low gap image isGap before behind =>
    simp only [List.mem_append] at member
    rcases member with (inMargin | (inHigh | inInner) | inLow) | inGap
    · exact before.mem_cellChars inMargin
    · exact image.mem_cellChars (List.mem_append_left _ inHigh)
    · exact IsSpacing.mem_cellChars isGap.blanks inInner
    · exact image.mem_cellChars (List.mem_append_right _ (.tail _ inLow))
    · exact behind.mem_cellChars inGap

theorem ShowsCells.mem_cellChars (shows : ShowsCells words text) (member : c ∈ text) :
    c ∈ '|' :: cellChars := by
  induction shows with
  | last cell => exact .tail _ (cell.mem_cellChars member)
  | bar cell others ih =>
    rcases List.mem_append.mp member with inFront | behind
    · exact .tail _ (cell.mem_cellChars inFront)
    · rcases List.mem_cons.mp behind with rfl | later
      · exact .head _
      · exact ih later

theorem ShowsCells.not_mem (shows : ShowsCells words text) (mark : c ∈ [';', '#']) : c ∉ text := by
  have foreign : ∀ mark ∈ [';', '#'], mark ∉ '|' :: cellChars := by decide
  exact fun member => foreign c mark (shows.mem_cellChars member)

theorem IsCell.of_image {margin gap : Text} (image : IsImage text) (before : IsSpacing margin)
    (behind : IsSpacing gap) : IsCell [text] (margin ++ text ++ gap) := by
  cases image with
  | @groups high low highDigits lowDigits highWidth lowWidth =>
    have blank : IsGap [' '] := ⟨by decide, by decide⟩
    have cell := IsCell.word (.groups highDigits lowDigits highWidth lowWidth) blank before behind
    rwa [List.append_assoc high [' '] low, List.singleton_append] at cell

/-! ### The normal form up to its ends -/

/-- The normal form of a text but for the white space at its ends. -/
def tidy (text : Text) : Text := (collapseBlanks (text.map untab)).lower

theorem normalize_eq_trim (text : Text) : normalize text = (tidy text).trim := by
  rw [normalize_eq_lower, lower_trim, tidy]

theorem tidy_append_bar (front rest : Text) :
    tidy (front ++ '|' :: rest) = tidy front ++ '|' :: tidy rest := by
  rw [tidy, List.map_append, List.map_cons, show untab '|' = '|' from rfl,
    collapseBlanks_append_cons (by decide), lower_append_cons (by decide)]
  rfl

/-- No mark is made of the characters of cells. -/
theorem not_mem_tidy (inside : ∀ c ∈ text, c ∈ '|' :: cellChars) (mark : c ∈ [';', '#', '|'])
    (absent : c ∉ text) : c ∉ tidy text := by
  have kept : ∀ d ∈ '|' :: cellChars, IsAscii (untab d) ∧
      ∀ mark ∈ [';', '#', '|'], (untab d).toLower = mark → d = mark := by
    decide
  have ascii : ∀ d ∈ collapseBlanks (text.map untab), IsAscii d := by
    intro d member
    obtain ⟨other, among, rfl⟩ := List.mem_map.mp ((collapseBlanks_sublist _).subset member)
    exact (kept other (inside other among)).1
  intro member
  rw [tidy, lower_of_isAscii ascii] at member
  obtain ⟨d, spaced, same⟩ := List.mem_map.mp member
  obtain ⟨other, among, rfl⟩ := List.mem_map.mp ((collapseBlanks_sublist _).subset spaced)
  exact absent ((kept other (inside other among)).2 c mark same ▸ among)

/-! ### Cells -/

/-- The parts between bars without white space around them, and none that is empty. -/
def pieces (text : Text) : List Text :=
  ((text.fields '|').map trim).filter fun piece => !piece.isEmpty

theorem pieces_trim (text : Text) : pieces text.trim = pieces text := by
  rw [pieces, map_trim_fields_trim (by decide), pieces]

theorem pieces_of_not_mem (absent : '|' ∉ text) :
    pieces text = [text.trim].filter fun piece => !piece.isEmpty := by
  rw [pieces, fields_of_not_mem absent, List.map_singleton]

theorem pieces_append_bar (absent : '|' ∉ front) (rest : Text) :
    pieces (front ++ '|' :: rest) = pieces front ++ pieces rest := by
  rw [pieces_of_not_mem absent, pieces, fields_append absent, List.map_cons,
    ← List.singleton_append, List.filter_append, pieces]

theorem IsCell.normalize_eq (cell : IsCell words text) :
    [normalize text].filter (fun piece => !piece.isEmpty) = words.map Text.lower := by
  cases cell with
  | empty spacing =>
    rw [normalize_eq_nil spacing.isBlank]
    rfl
  | @word margin high inner low gap image isGap before behind =>
    have plain := image.isPlain
    have word : normalize (margin ++ (high ++ inner ++ low) ++ gap) = (high ++ ' ' :: low).lower :=
      calc
        normalize (margin ++ (high ++ inner ++ low) ++ gap)
            = normalize (high ++ inner ++ (low ++ gap)) := by
              rw [List.append_assoc, normalize_margin before.isBlank, List.append_assoc]
        _ = normalize ((high ++ ' ' :: low) ++ gap) := by
              rw [isGap.normalize_eq, List.append_assoc, List.cons_append]
        _ = (high ++ ' ' :: low).lower := by
              rw [normalize_append_blanks plain.trimmed behind.isBlank, plain.normalize_eq,
                image.lower_eq]
    have some : (high ++ ' ' :: low).lower ≠ [] := by
      rw [image.lower_eq]
      exact image.toLower.isPlain.trimmed.ne_nil
    rw [word]
    simpa using some

theorem IsCell.bar_not_mem_tidy (cell : IsCell words text) : '|' ∉ tidy text :=
  not_mem_tidy (fun _ member => .tail _ (cell.mem_cellChars member)) (by decide)
    fun bar => absurd (cell.mem_cellChars bar) (by decide)

theorem IsCell.pieces_eq (cell : IsCell words text) : pieces (tidy text) = words.map Text.lower := by
  rw [pieces_of_not_mem cell.bar_not_mem_tidy, ← normalize_eq_trim, cell.normalize_eq]

theorem ShowsCells.pieces_eq (shows : ShowsCells words text) :
    pieces (tidy text) = words.map Text.lower := by
  induction shows with
  | last cell => exact cell.pieces_eq
  | bar cell others ih =>
    rw [tidy_append_bar, pieces_append_bar cell.bar_not_mem_tidy, cell.pieces_eq, ih,
      List.map_append]

/-! ### Lines and blocks -/

theorem tokenize_hex (unhashed : '#' ∉ content line) : tokenize .hex line = pieces (content line) := by
  unfold tokenize
  split
  · next nothing =>
    rw [nothing]
    rfl
  · next hashed =>
    rw [hashed] at unhashed
    exact absurd (.head _) unhashed
  · rfl

/-- A comment leaves what is said before it, but for white space. -/
theorem trim_before_normalize_append (ends : ∀ c ∈ tail.head?, c = ';') (text : Text) :
    ((normalize (text ++ tail)).before ';').trim = ((normalize text).before ';').trim := by
  cases tail with
  | nil => rw [List.append_nil]
  | cons c comment =>
    obtain rfl := ends c rfl
    obtain ⟨gap, shape, blank⟩ := exists_gap (collapseBlanks (text.map untab)).trimStart
    have spaced : lower (collapseBlanks (text.map untab)).trimStart = normalize text ++ gap := by
      rw [shape, lower_append_blanks blank, normalize_eq_lower, trim]
    rw [normalize_append_semicolon, before_append_semicolon, spaced,
      trim_before_append_blanks (by decide) blank]

theorem ShowsCells.not_mem_normalize (shows : ShowsCells words text) (mark : c ∈ [';', '#']) :
    c ∉ normalize text := by
  have among : c ∈ [';', '#', '|'] := List.mem_append_left ['|'] mark
  have absent := not_mem_tidy (fun _ member => shows.mem_cellChars member) among (shows.not_mem mark)
  rw [normalize_eq_trim]
  exact fun member => absent ((trim_sublist _).subset member)

theorem ShowsCells.content_eq {margin address gap : Text} (shows : ShowsCells words cells)
    (blank : ∀ c ∈ margin, isBlank c = true) (shown : IsAddressText address) (isGap : IsGap gap)
    (ends : ∀ c ∈ tail.head?, c = ';') :
    content (margin ++ address ++ gap ++ (cells ++ tail)) = normalize cells := by
  have opens : gap.head? = some ' ' ∨ gap.head? = some '\t' := by
    obtain ⟨c, others, rfl⟩ := List.exists_cons_of_ne_nil isGap.nonempty
    simpa using isGap.blanks c (.head others)
  rw [content_at blank shown opens isGap.isBlank, trim_before_normalize_append ends,
    before_of_not_mem (shows.not_mem_normalize (by decide)), (isSpaced_normalize cells).trimmed]

theorem WordLine.tokenize_eq (shows : WordLine words line) :
    tokenize .hex line = words.map Text.lower := by
  cases shows with
  | intro blank shown isGap listed ends =>
    have said := listed.content_eq blank shown isGap ends
    have unhashed := said ▸ listed.not_mem_normalize (by decide : '#' ∈ [';', '#'])
    rw [tokenize_hex unhashed, said, normalize_eq_trim, pieces_trim, listed.pieces_eq]

/-- Every line is read as its words in lower case, with a blank between the groups of each, and a
block as the words of its lines in order. -/
theorem words_read_back :
    (∀ words line, WordLine words line → tokenize .hex line = words.map Text.lower) ∧
      ∀ words block, WordBlock words block → tokenizeAll .hex block = words.map Text.lower := by
  refine ⟨fun words line => WordLine.tokenize_eq, fun words block shows => ?_⟩
  induction shows with
  | nil => rfl
  | filler filler others ih =>
    rw [tokenizeAll, List.flatMap_cons, filler.tokenize_eq, List.nil_append]
    exact ih
  | line shown others ih =>
    rw [tokenizeAll, List.flatMap_cons, shown.tokenize_eq, List.map_append]
    exact congrArg _ ih

/-- Two words in either case, with wide gaps, bars of their own and a comment that shows another. -/
def noisyLine : Text := "\t0X0000Ffff9d55:\t 1F20\t 03d5 || e953 40D1|  ; a | 1f20 03d5".toList

def noisyBlock : List Text := [noisyLine, "; spin".toList, " # frame".toList, "0x1: |3f01 00f9".toList]

theorem IsCell.nil : IsCell [] [] := .empty nofun

theorem noisyLine_shows : WordLine ["1F20 03d5".toList, "e953 40D1".toList] noisyLine := by
  have address : IsAddressText "0X0000Ffff9d55:".toList :=
    .hexadecimal (.inr rfl) ⟨by decide, (by decide : ∀ c ∈ "0000Ffff9d55".toList, c ∈ hexDigits)⟩
  have first : IsCell ["1F20 03d5".toList] " 1F20\t 03d5 ".toList :=
    @IsCell.word " ".toList "1F20".toList "\t ".toList "03d5".toList " ".toList
      (.of_digits (by decide) rfl rfl) ⟨by decide, by decide⟩ (by decide) (by decide)
  have second : IsCell ["e953 40D1".toList] " e953 40D1".toList :=
    @IsCell.of_image _ " ".toList [] (.of_digits (by decide) rfl rfl) (by decide) nofun
  have ending : IsCell [] "  ".toList := .empty (by decide)
  have gap : IsGap "\t".toList := ⟨by decide, by decide⟩
  have comment : ∀ c ∈ "; a | 1f20 03d5".toList.head?, c = ';' := by simp
  exact .intro (by decide : ∀ c ∈ "\t".toList, isBlank c = true) address gap
    (.bar first (.bar .nil (.bar second (.last ending)))) comment

theorem noisyBlock_shows :
    WordBlock ["1F20 03d5".toList, "e953 40D1".toList, "3f01 00f9".toList] noisyBlock := by
  have address : IsAddressText "0x1:".toList :=
    .hexadecimal (.inl rfl) ⟨by decide, (by decide : ∀ c ∈ "1".toList, c ∈ hexDigits)⟩
  have word : IsCell ["3f01 00f9".toList] "3f01 00f9".toList :=
    @IsCell.of_image _ [] [] (.of_digits (by decide) rfl rfl) nofun nofun
  have gap : IsGap " ".toList := ⟨by decide, by decide⟩
  have last : WordLine ["3f01 00f9".toList] "0x1: |3f01 00f9".toList :=
    @WordLine.intro _ [] _ _ _ [] nofun address gap (.bar .nil (.last word)) nofun
  have comment : Filler "; spin".toList := @Filler.comment [] " spin".toList nofun
  have annotation : Filler " # frame".toList := @Filler.hashed " ".toList " frame".toList (by decide)
  exact .line noisyLine_shows (.filler comment (.filler annotation (.line last .nil)))

theorem noisyBlock_read_back :
    (WordLine ["1F20 03d5".toList, "e953 40D1".toList] noisyLine ∧
      tokenize .hex noisyLine = ["1f20 03d5".toList, "e953 40d1".toList]) ∧
    WordBlock ["1F20 03d5".toList, "e953 40D1".toList, "3f01 00f9".toList] noisyBlock ∧
      tokenizeAll .hex noisyBlock =
        ["1f20 03d5".toList, "e953 40d1".toList, "3f01 00f9".toList] := by
  have line := words_read_back.1 _ _ noisyLine_shows
  have block := words_read_back.2 _ _ noisyBlock_shows
  refine ⟨⟨noisyLine_shows, line.trans ?_⟩, noisyBlock_shows, block.trans ?_⟩ <;> decide +kernel

end SpinWait.Log
