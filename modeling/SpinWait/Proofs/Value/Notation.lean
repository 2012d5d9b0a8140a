import SpinWait.Proofs.Text.Quoted
import SpinWait.Value.Notation

namespace SpinWait

/-! Plain values and the entries of a mapping are read back from the way they are written, also where
a text imitates it. -/

namespace Value

variable {value a b : Value} {c : Char}

/-! ### Plain values -/

/-- Written as one word, without quotes. -/
inductive IsWord : Value → Prop
  | absent : IsWord absent
  | flag (value : Bool) : IsWord (flag value)
  | number (value : Int) : IsWord (number value)

/-- Absence, a flag, a number or text. -/
inductive IsPlain : Value → Prop
  | word {value : Value} (word : IsWord value) : IsPlain value
  | text (value : Text) : IsPlain (text value)

namespace IsWord

theorem mem_written (word : IsWord value) (member : c ∈ value.written) :
    c.isAlphanum = true ∨ c = '-' := by
  cases word with
  | absent =>
    have name : ∀ c ∈ Value.absent.written, c.isAlphanum = true := by decide
    exact .inl (name c member)
  | flag value =>
    have name : ∀ value, ∀ c ∈ (Value.flag value).written, c.isAlphanum = true := by decide
    exact .inl (name value c member)
  | number n =>
    refine (Numeral.mem_signed member).imp_left fun digit => ?_
    simp [Char.isAlphanum, digit]

/-- A name has a letter that no numeral has. -/
theorem written_injective (here : IsWord a) (there : IsWord b) (same : a.written = b.written) :
    a = b := by
  have lettered {name : Text} (letter : 'e' ∈ name) (n : Int) : name ≠ Numeral.signed n := by
    rintro rfl
    rcases Numeral.mem_signed letter with digit | sign
    · cases digit
    · cases sign
  have absent : 'e' ∈ Value.absent.written := by decide
  have flag : ∀ value, 'e' ∈ (Value.flag value).written := by decide
  have apart : ∀ value, Value.absent.written ≠ (Value.flag value).written := by decide
  have flags : ∀ value other, (Value.flag value).written = (Value.flag other).written →
      value = other := by decide
  cases here with
  | absent =>
    cases there with
    | absent => rfl
    | flag value => exact absurd same (apart value)
    | number n => exact absurd same (lettered absent n)
  | flag value =>
    cases there with
    | absent => exact absurd same.symm (apart value)
    | flag other => rw [flags value other same]
    | number n => exact absurd same (lettered (flag value) n)
  | number n =>
    cases there with
    | absent => exact absurd same.symm (lettered absent n)
    | flag value => exact absurd same.symm (lettered (flag value) n)
    | number m => rw [Numeral.signed_injective same]

theorem written_ne_quoted (word : IsWord value) (text left right : Text) :
    value.written ++ ')' :: left ≠ text.quoted ++ right := by
  intro same
  have mark : text.quoteMark ≠ ')' ∧ text.quoteMark ≠ '-' ∧ text.quoteMark.isAlphanum = false := by
    rcases text.quoteMark_cases with single | double
    · rw [single]; decide
    · rw [double]; decide
  have first : (value.written ++ ')' :: left).head? = some text.quoteMark := by
    rw [same]
    rfl
  cases shape : value.written with
  | nil =>
    rw [shape] at first
    exact mark.1 (Option.some.inj first).symm
  | cons c rest =>
    rw [shape] at first
    have inside : text.quoteMark ∈ value.written := by
      rw [shape, ← Option.some.inj first]
      exact List.mem_cons_self
    rcases word.mem_written inside with letter | sign
    · rw [mark.2.2] at letter
      cases letter
    · exact mark.2.1 sign

end IsWord

/-- A plain value with the bracket behind it that ends it. -/
theorem selfDelimiting_written : SelfDelimiting IsPlain fun value => value.written ++ [')'] := by
  have words : SelfDelimiting IsWord fun value => value.written ++ [')'] :=
    SelfDelimiting.of_stop (fun a word member => by cases word.mem_written member <;> contradiction)
      fun a b here there => here.written_injective there
  intro a b left right here there same
  cases here with
  | word here =>
    cases there with
    | word there => exact words here there same
    | text there =>
      simp only [List.append_assoc] at same
      exact absurd same (here.written_ne_quoted _ _ _)
  | text here =>
    cases there with
    | word there =>
      simp only [List.append_assoc] at same
      exact absurd same.symm (there.written_ne_quoted _ _ _)
    | text there =>
      have texts := Text.selfDelimiting_quoted.before [')']
      obtain ⟨rfl, rest⟩ := texts trivial trivial same
      exact ⟨rfl, rest⟩

/-! ### Entries -/

/-- An entry of a mapping as a pair of its key and its value. -/
def ofEntry (entry : Text × Value) : Value := tuple [text entry.1, entry.2]

theorem written_ofEntry (entry : Text × Value) :
    (ofEntry entry).written =
      ['('] ++ ((entry.1.quoted ++ ", ".toList) ++ (entry.2.written ++ [')'])) := by
  have pair : (ofEntry entry).written =
      '(' :: (separated [entry.1.quoted, entry.2.written] ++ [')']) := rfl
  rw [pair, separated, List.intercalate_cons_cons, List.intercalate_singleton]
  simp only [List.append_assoc, List.singleton_append]

/-- The values of the entries are plain. -/
def ArePlain (entries : List (Text × Value)) : Prop := ∀ entry ∈ entries, IsPlain entry.2

theorem selfDelimiting_ofEntry :
    SelfDelimiting (fun entry : Text × Value => IsPlain entry.2) fun entry =>
      (ofEntry entry).written := by
  have keys := Text.selfDelimiting_quoted.before ", ".toList
  have entries := (keys.pair selfDelimiting_written).behind ['(']
  intro left right rest others here there same
  simp only [written_ofEntry] at same
  exact entries ⟨trivial, here⟩ ⟨trivial, there⟩ same

theorem writtenItems_eq_map (items : List Value) : writtenItems items = items.map written := by
  induction items with
  | nil => rfl
  | cons item others ih => rw [writtenItems, ih, List.map_cons]

theorem separated_cons (first : Text) (others : List Text) :
    separated (first :: others) = first ++ others.flatMap (", ".toList ++ ·) := by
  induction others generalizing first with
  | nil => simp [separated]
  | cons second others ih =>
    have later := ih second
    rw [separated] at later ⊢
    rw [List.intercalate_cons_cons, later, List.flatMap_cons, List.append_assoc, List.append_assoc]

/-- Entries in a list, whose commas and brackets are not taken for those inside of texts. -/
theorem selfDelimiting_entries :
    SelfDelimiting ArePlain fun entries => (list (entries.map ofEntry)).written := by
  have shape (entries : List (Text × Value)) : (list (entries.map ofEntry)).written =
      '[' :: (separated (entries.map fun entry => (ofEntry entry).written) ++ [']']) := by
    rw [← Function.comp_def written, ← List.map_map, ← writtenItems_eq_map]
    rfl
  have closed (entry : Text × Value) (left right : Text) :
      (ofEntry entry).written ++ left ≠ ']' :: right := by
    rw [written_ofEntry]
    exact fun same => absurd (List.cons.inj same).1 (by decide)
  have later : SelfDelimiting ArePlain fun entries =>
      entries.flatMap (fun entry => ", ".toList ++ (ofEntry entry).written) ++ [']'] :=
    (selfDelimiting_ofEntry.behind ", ".toList).flatMap fun _ _ => ⟨',', _, rfl, by decide⟩
  intro entries others left right plain otherPlain same
  simp only [shape, List.cons_append, List.append_assoc] at same
  have body := (List.cons.inj same).2
  cases entries with
  | nil =>
    cases others with
    | nil => exact ⟨rfl, (List.cons.inj body).2⟩
    | cons other others =>
      rw [List.map_cons, separated_cons, List.append_assoc] at body
      exact absurd body.symm (closed other _ _)
  | cons entry entries =>
    cases others with
    | nil =>
      rw [List.map_cons, separated_cons, List.append_assoc] at body
      exact absurd body (closed entry _ _)
    | cons other others =>
      simp only [List.map_cons, separated_cons, List.flatMap_map, List.append_assoc] at body
      have here := List.forall_mem_cons.mp plain
      have there := List.forall_mem_cons.mp otherPlain
      obtain ⟨rfl, rest⟩ := selfDelimiting_ofEntry here.1 there.1 body
      obtain ⟨rfl, ends⟩ := later here.2 there.2 (by simpa using rest)
      exact ⟨rfl, ends⟩

end Value

end SpinWait
