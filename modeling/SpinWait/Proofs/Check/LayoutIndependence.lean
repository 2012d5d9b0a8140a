import SpinWait.Proofs.Check.CallLog
import SpinWait.Proofs.Log.NormalText

namespace SpinWait.Check

open Log Text

/-! The same instructions in two logs, shown by words in the one and by mnemonics in the other. The
logs show the last instruction before the call in different places. -/

/-- An instruction that is no hint, by its word and by its mnemonic. -/
structure OtherInstruction where
  word : Text
  mnemonic : Text
  image : IsImage word
  noHintWord : ∀ hint : Hint, word.lower ≠ hint.wordText
  nonempty : mnemonic ≠ []
  normal : normalize mnemonic = mnemonic
  uncommented : ';' ∉ mnemonic
  instruction : mnemonic.head? ≠ some '#'
  noHintName : ∀ hint : Hint, mnemonic ≠ hint.name

inductive Instruction
  | hint (hint : Hint)
  | other (other : OtherInstruction)

namespace Instruction

def word : Instruction → Text
  | hint kind => kind.wordText
  | other shown => shown.word

def mnemonic : Instruction → Text
  | hint kind => kind.name
  | other shown => shown.mnemonic

/-- What a log of this layout shows of the instruction. -/
def token : Layout → Instruction → Text
  | .hex, instruction => instruction.word.lower
  | .mnemonic, instruction => instruction.mnemonic

theorem isImage_word (instruction : Instruction) : IsImage instruction.word := by
  cases instruction with
  | hint kind => cases kind <;> exact .of_digits (by decide) rfl rfl
  | other shown => exact shown.image

theorem isNormal_mnemonic (instruction : Instruction) : IsNormal instruction.mnemonic := by
  cases instruction with
  | hint kind =>
    cases kind <;> exact isNormal_of_normalize_eq (by decide) (by decide +kernel)
  | other shown => exact isNormal_of_normalize_eq shown.nonempty shown.normal

theorem uncommented_mnemonic (instruction : Instruction) : ';' ∉ instruction.mnemonic := by
  cases instruction with
  | hint kind => cases kind <;> decide
  | other shown => exact shown.uncommented

theorem head?_mnemonic (instruction : Instruction) : instruction.mnemonic.head? ≠ some '#' := by
  cases instruction with
  | hint kind => cases kind <;> decide
  | other shown => exact shown.instruction

theorem token_hint (layout : Layout) (target : Hint) :
    token layout (.hint target) = hintToken target layout := by
  cases layout with
  | hex => cases target <;> decide
  | mnemonic => rfl

/-- In either layout a hint is told from everything else. -/
theorem token_eq_iff {layout : Layout} {instruction : Instruction} {target : Hint} :
    instruction.token layout = hintToken target layout ↔ instruction = .hint target := by
  constructor
  · intro same
    cases instruction with
    | hint kind =>
      rw [token_hint] at same
      cases layout with
      | hex => rw [Hint.wordText_injective same]
      | mnemonic => rw [Hint.name_injective same]
    | other shown =>
      cases layout with
      | hex => exact absurd same (shown.noHintWord target)
      | mnemonic => exact absurd same (shown.noHintName target)
  · rintro rfl
    exact token_hint layout target

end Instruction

/-! ### Runs of a hint -/

/-- `count` copies of the hint in a row, the last of all, and as many as there are. -/
structure HintRun (stream : List Instruction) (hint : Hint) (count : Nat) : Prop where
  split : ∃ before after, stream = before ++ List.replicate count (.hint hint) ++ after ∧
    before.getLast? ≠ some (.hint hint) ∧ .hint hint ∉ after
  occurs : .hint hint ∈ stream → 0 < count

variable {layout : Layout} {hint : Hint} {count : Nat} {stream before post : List Instruction}
  {last : Instruction}

theorem hintToken_mem_map_iff :
    hintToken hint layout ∈ stream.map (Instruction.token layout) ↔ .hint hint ∈ stream := by
  rw [List.mem_map]
  constructor
  · rintro ⟨instruction, member, same⟩
    rwa [← Instruction.token_eq_iff.mp same]
  · exact fun member => ⟨.hint hint, member, Instruction.token_hint layout hint⟩

theorem getLast?_map_eq_hintToken_iff :
    (stream.map (Instruction.token layout)).getLast? = some (hintToken hint layout) ↔
      stream.getLast? = some (.hint hint) := by
  rw [List.getLast?_map, Option.map_eq_some_iff]
  constructor
  · rintro ⟨instruction, ends, same⟩
    rwa [← Instruction.token_eq_iff.mp same]
  · exact fun ends => ⟨.hint hint, ends, Instruction.token_hint layout hint⟩

theorem map_eq_replicate_iff :
    stream.map (Instruction.token layout) = List.replicate count (hintToken hint layout) ↔
      stream = List.replicate count (.hint hint) := by
  rw [List.eq_replicate_iff, List.eq_replicate_iff, List.length_map, List.forall_mem_map]
  refine and_congr_right fun _ => forall₂_congr fun instruction _ => Instruction.token_eq_iff

/-- The tokens of a layout have the runs of the instructions that they show. -/
theorem lastRun_map_iff : LastRun (stream.map (Instruction.token layout)) (hintToken hint layout)
    count ↔ HintRun stream hint count := by
  constructor
  · rintro ⟨⟨front, behind, shape, bounded, absent⟩, occurs⟩
    obtain ⟨started, after, rfl, first, rfl⟩ := List.map_eq_append_iff.mp shape
    obtain ⟨earlier, run, rfl, rfl, same⟩ := List.map_eq_append_iff.mp first
    obtain rfl := map_eq_replicate_iff.mp same
    refine ⟨⟨earlier, after, rfl, ?_, ?_⟩, fun member => occurs (hintToken_mem_map_iff.mpr member)⟩
    · exact fun ends => bounded (getLast?_map_eq_hintToken_iff.mpr ends)
    · exact fun member => absent (hintToken_mem_map_iff.mpr member)
  · rintro ⟨⟨earlier, after, rfl, bounded, absent⟩, occurs⟩
    refine ⟨⟨earlier.map (Instruction.token layout), after.map (Instruction.token layout), ?_, ?_,
      ?_⟩, fun member => occurs (hintToken_mem_map_iff.mp member)⟩
    · rw [List.map_append, List.map_append, map_eq_replicate_iff.mpr rfl]
    · exact fun ends => bounded (getLast?_map_eq_hintToken_iff.mp ends)
    · exact fun member => absent (hintToken_mem_map_iff.mp member)

theorem existsUnique_hintRun (stream : List Instruction) (hint : Hint) :
    ∃! count, HintRun stream hint count := by
  have run := lastRun_trailingRun (stream.map (Instruction.token .hex)) (hintToken hint .hex)
  exact ⟨_, lastRun_map_iff.mp run,
    fun other same => (lastRun_map_iff.mpr same).unique run⟩

/-! ### Listings -/

/-- The lines of a block list these instructions at addresses: by words, any number of them on a
line, or by mnemonics, each on its own line. Lines without instructions may stand anywhere. -/
inductive Lists : Layout → List Instruction → List Text → Prop
  | nil {layout : Layout} : Lists layout [] []
  | filler {layout : Layout} {stream : List Instruction} {block : List Text} {line : Text}
      (filler : Filler line) (others : Lists layout stream block) :
      Lists layout stream (line :: block)
  | words {margin address : Text} {group stream : List Instruction} {block : List Text}
      (blank : ∀ c ∈ margin, isBlank c = true) (numeral : IsHexNumeral address)
      (nonempty : group ≠ []) (others : Lists .hex stream block) :
      Lists .hex (group ++ stream)
        (addressed margin address (bars (group.map Instruction.word)) :: block)
  | mnemonic {margin address : Text} {instruction : Instruction} {stream : List Instruction}
      {block : List Text} (blank : ∀ c ∈ margin, isBlank c = true) (numeral : IsHexNumeral address)
      (others : Lists .mnemonic stream block) :
      Lists .mnemonic (instruction :: stream)
        (addressed margin address instruction.mnemonic :: block)

variable {margin address line : Text} {block : List Text} {group : List Instruction}

theorem isImage_of_mem_words {word : Text} (member : word ∈ group.map Instruction.word) :
    IsImage word := by
  obtain ⟨instruction, _, rfl⟩ := List.mem_map.mp member
  exact instruction.isImage_word

theorem uncommented_group (group : List Instruction) : ';' ∉ bars (group.map Instruction.word) :=
  semicolon_not_mem_bars fun _ => isImage_of_mem_words

theorem tokenize_group (blank : ∀ c ∈ margin, isBlank c = true)
    (numeral : IsHexNumeral address) :
    tokenize .hex (addressed margin address (bars (group.map Instruction.word))) =
      group.map (Instruction.token .hex) := by
  rw [tokenize_words blank numeral fun word => isImage_of_mem_words, List.map_map]
  rfl

theorem tokenizeAll_filter_cons (keeps : tokenize layout line = [] ∨ isInstructionLine line = true) :
    tokenizeAll layout ((line :: block).filter isInstructionLine) =
      tokenize layout line ++ tokenizeAll layout (block.filter isInstructionLine) := by
  by_cases instructions : isInstructionLine line = true
  · rw [List.filter_cons_of_pos instructions]
    rfl
  · rw [List.filter_cons_of_neg instructions, keeps.resolve_right instructions, List.nil_append]

/-- The check reads all the instructions of a listing, and nothing else. -/
theorem Lists.tokens_eq (lists : Lists layout stream block) :
    tokenizeAll layout (block.filter isInstructionLine) =
      stream.map (Instruction.token layout) := by
  induction lists with
  | nil => rfl
  | filler filler others ih =>
    rw [tokenizeAll_filter_cons (.inl filler.tokenize_eq), filler.tokenize_eq, List.nil_append, ih]
  | @words margin address group stream block blank numeral nonempty others ih =>
    have uncommented := uncommented_group group
    rw [tokenizeAll_filter_cons (.inr (isInstructionLine_addressed blank numeral uncommented)),
      tokenize_group blank numeral, ih, List.map_append]
  | @mnemonic margin address instruction stream block blank numeral others ih =>
    have uncommented := instruction.uncommented_mnemonic
    have reads := instruction.isNormal_mnemonic.readsAs uncommented instruction.head?_mnemonic
    rw [tokenizeAll_filter_cons (.inr (isInstructionLine_addressed blank numeral uncommented)),
      tokenize_instruction blank numeral reads, ih]
    rfl

/-! ### The two logs -/

variable {log words mnemonics : CallLog} {markers : Markers} {after : List Instruction}

/-- The instructions before the call stand in the body, and the others on the line after the frame,
the last one before the call among them. -/
inductive ShowsWords (log : CallLog) (before after : List Instruction) : Prop
  | intro {margin address : Text} {others : List Text} (body : Lists .hex before log.body)
      (blank : ∀ c ∈ margin, isBlank c = true) (numeral : IsHexNumeral address)
      (behind : log.rest = addressed margin address (bars (after.map Instruction.word)) :: others)
      (bar : ∃ line ∈ log.region, '|' ∈ line)

/-- The last instruction before the call stands on the line of the call, which has a comment. -/
inductive ShowsMnemonics (log : CallLog) (before : List Instruction) (last : Instruction) : Prop
  | intro {margin address gap comment : Text} (body : Lists .mnemonic before log.body)
      (blank : ∀ c ∈ margin, isBlank c = true) (numeral : IsHexNumeral address)
      (apart : ∀ c ∈ gap, isBlank c = true)
      (here : log.call = addressed margin address (last.mnemonic ++ gap ++ ';' :: comment))
      (plain : ∀ line ∈ log.region, '|' ∉ line)

theorem ShowsWords.finds_iff (shows : ShowsWords log before after)
    (marked : log.Marked markers) :
    Finds log.lines markers hint .hex count ↔ HintRun (before ++ after) hint count := by
  cases shows with
  | intro body blank numeral behind bar =>
    have uncommented := uncommented_group after
    have shown := marked.wordsAt bar behind (isInstructionLine_addressed blank numeral uncommented)
    rw [shown.finds_iff, CallLog.bodyTokens_eq, body.tokens_eq,
      tokenize_group blank numeral, ← List.map_append]
    exact lastRun_map_iff

theorem ShowsMnemonics.finds_iff (shows : ShowsMnemonics log before last)
    (marked : log.Marked markers) :
    Finds log.lines markers hint .mnemonic count ↔ HintRun (before ++ [last]) hint count := by
  cases shows with
  | @intro margin address gap comment body blank numeral apart here plain =>
    have reads := last.isNormal_mnemonic.readsAs_comment last.uncommented_mnemonic
      last.head?_mnemonic comment apart
    rw [(marked.mnemonicsAt plain).finds_iff, CallLog.bodyTokens_eq, body.tokens_eq, here,
      tokenize_instruction blank numeral reads]
    have whole : before.map (Instruction.token .mnemonic) ++ [last.mnemonic] =
        (before ++ [last]).map (Instruction.token .mnemonic) := by
      rw [List.map_append]
      rfl
    rw [whole]
    exact lastRun_map_iff

/-! ### Independence -/

/-- Instructions without the hint behind a stream leave its run as it is. -/
theorem HintRun.append_of_not_mem (run : HintRun stream hint count)
    (absent : .hint hint ∉ post) : HintRun (stream ++ post) hint count := by
  have tokens : LastRun (stream.map (Instruction.token .hex)) (hintToken hint .hex) count :=
    lastRun_map_iff.mpr run
  have whole := tokens.append_of_not_mem fun member => absent (hintToken_mem_map_iff.mp member)
  rw [← List.map_append] at whole
  exact lastRun_map_iff.mp whole

/-- A stream of instructions is shown in both layouts, and the hint does not occur behind its last
instruction before the call. Then the check passes for the same number in both logs, for no other,
and the number is that of the run. -/
theorem passes_iff_hintRun (hint : Hint) (wordsMarked : words.Marked markers)
    (mnemonicsMarked : mnemonics.Marked markers) (inWords : ShowsWords words before (last :: post))
    (inMnemonics : ShowsMnemonics mnemonics before last) (absent : .hint hint ∉ post) :
    (∃! found, HintRun (before ++ [last]) hint found) ∧
      ∀ count, (Passes words.lines markers hint count ↔ Passes mnemonics.lines markers hint count) ∧
        (Passes mnemonics.lines markers hint count ↔ HintRun (before ++ [last]) hint count) := by
  obtain ⟨found, run, unique⟩ := existsUnique_hintRun (before ++ [last]) hint
  have whole : HintRun (before ++ last :: post) hint found := by
    rw [← List.singleton_append, ← List.append_assoc]
    exact run.append_of_not_mem absent
  have findsWords : Finds words.lines markers hint .hex found :=
    (inWords.finds_iff wordsMarked).mpr whole
  have findsMnemonics : Finds mnemonics.lines markers hint .mnemonic found :=
    (inMnemonics.finds_iff mnemonicsMarked).mpr run
  refine ⟨⟨found, run, unique⟩, fun count => ⟨?_, ?_⟩⟩
  · rw [findsWords.passes_iff, findsMnemonics.passes_iff]
  · rw [findsMnemonics.passes_iff]
    constructor
    · rintro rfl
      exact run
    · exact unique count

/-! ### Two sample logs -/

def storePair : OtherInstruction where
  word := "fd7b 03a9".toList
  mnemonic := "stp x29, x30, [sp]".toList
  image := .of_digits (by decide) rfl rfl
  noHintWord hint := by cases hint <;> decide
  nonempty := by decide
  normal := by decide +kernel
  uncommented := by decide
  instruction := by decide
  noHintName hint := by cases hint <;> decide

def loadPair : OtherInstruction where
  word := "fd7b 43a9".toList
  mnemonic := "ldp x29, x30, [sp]".toList
  image := .of_digits (by decide) rfl rfl
  noHintWord hint := by cases hint <;> decide
  nonempty := by decide
  normal := by decide +kernel
  uncommented := by decide
  instruction := by decide
  noHintName hint := by cases hint <;> decide

/-- Two hints in a row, the second of them the last instruction before the call. -/
def wordLog : CallLog :=
  .sample ["0x1: fd7b 03a9 | 1f20 03d5".toList] Markers.default.callSite
    ["0x9: 1f20 03d5 | fd7b 43a9".toList]

def mnemonicLog : CallLog :=
  .sample ["0x1: stp x29, x30, [sp]".toList, "0x5: nop".toList]
    ("0x9: nop ;".toList ++ Markers.default.callSite) ["0xd: ldp x29, x30, [sp]".toList]

theorem wordLog_shows :
    ShowsWords wordLog [.other storePair, .hint .nop] [.hint .nop, .other loadPair] := by
  have first : IsHexNumeral "1".toList := ⟨by decide, by decide⟩
  have last : IsHexNumeral "9".toList := ⟨by decide, by decide⟩
  have nothing : ∀ c ∈ ([] : Text), isBlank c = true := nofun
  refine .intro ?_ nothing last rfl (by decide +kernel)
  exact .words nothing first (List.cons_ne_nil (.other storePair) [.hint .nop]) .nil

theorem mnemonicLog_shows :
    ShowsMnemonics mnemonicLog [.other storePair, .hint .nop] (.hint .nop) := by
  have first : IsHexNumeral "1".toList := ⟨by decide, by decide⟩
  have second : IsHexNumeral "5".toList := ⟨by decide, by decide⟩
  have last : IsHexNumeral "9".toList := ⟨by decide, by decide⟩
  have nothing : ∀ c ∈ ([] : Text), isBlank c = true := nofun
  have gap : ∀ c ∈ " ".toList, isBlank c = true := by decide
  refine .intro ?_ nothing last gap rfl (by decide +kernel)
  exact .mnemonic nothing first (.mnemonic nothing second .nil)

theorem samples_pass_for_two :
    Passes wordLog.lines Markers.default .nop 2 ∧ Passes mnemonicLog.lines Markers.default .nop 2 := by
  have wordsMarked : wordLog.Marked Markers.default :=
    CallLog.sample_marked List.infix_rfl (by decide +kernel) (by decide +kernel)
  have mnemonicsMarked : mnemonicLog.Marked Markers.default :=
    CallLog.sample_marked (List.suffix_append _ _).isInfix (by decide +kernel) (by decide +kernel)
  have absent : Instruction.hint .nop ∉ [.other loadPair] := by
    intro member
    cases List.mem_singleton.mp member
  obtain ⟨_, passes⟩ :=
    passes_iff_hintRun .nop wordsMarked mnemonicsMarked wordLog_shows mnemonicLog_shows absent
  have run : HintRun ([.other storePair, .hint .nop] ++ [.hint .nop]) .nop 2 := by
    refine ⟨⟨[.other storePair], [], rfl, ?_, List.not_mem_nil⟩, fun _ => Nat.two_pos⟩
    intro ends
    cases Option.some.inj ends
  have inMnemonics := (passes 2).2.mpr run
  exact ⟨(passes 2).1.mpr inMnemonics, inMnemonics⟩

end SpinWait.Check
