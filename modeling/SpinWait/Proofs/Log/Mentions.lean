import SpinWait.Proofs.Fault.Wording
import SpinWait.Proofs.Log.Surroundings

namespace SpinWait.Log

open Numeral

/-! A search that is resumed behind each of its hits meets every line that mentions the marker, once
and in order. The pass that counts these lines finds as many, so together the two tell the only mention
of a marker from the first of several. -/

variable {lines : List Text} {marker name : Text} {start : Int} {first : Nat} {hit other : Hit}
  {hits others : List Hit}

/-- The hit is a line of the log, at its position, that mentions the marker. -/
structure IsMention (lines : List Text) (marker : Text) (hit : Hit) : Prop where
  placed : lines[hit.index]? = some hit.line
  mentioned : marker <:+: hit.line

/-- The hits of the searches from `start` on, each resumed one line behind the hit before it, until
one finds nothing. A negative start means the first line. -/
inductive Resumed (lines : List Text) (marker : Text) : Int → List Hit → Prop
  | ended {start : Int} (missed : findFrom lines start.toNat marker = none) :
      Resumed lines marker start []
  | next {start : Int} {hit : Hit} {hits : List Hit}
      (found : findFrom lines start.toNat marker = some hit)
      (later : Resumed lines marker (hit.index + 1) hits) :
      Resumed lines marker start (hit :: hits)

/-! ### One search -/

theorem IsMention.mentionedAt (mention : IsMention lines marker hit) :
    MentionedAt lines marker hit.index :=
  ⟨hit.line, mention.placed, mention.mentioned⟩

theorem IsMention.eq_of_index (here : IsMention lines marker hit)
    (there : IsMention lines marker other) (same : hit.index = other.index) : hit = other := by
  have line : hit.line = other.line :=
    Option.some.inj (here.placed.symm.trans (same ▸ there.placed))
  cases hit
  cases other
  exact congrArg₂ Hit.mk same line

theorem findFrom_eq_none_iff : findFrom lines first marker = none ↔
    ∀ index, first ≤ index → ¬ MentionedAt lines marker index := by
  refine ⟨fun missed index reached mentioned => ?_, findFrom_eq_none⟩
  obtain ⟨earliest, lower, present, before⟩ := exists_first mentioned reached
  obtain ⟨line, _, found⟩ := findFrom_eq_some present lower before
  rw [missed] at found
  cases found

/-- What is found is the first mention at or after the start. -/
theorem findFrom_eq_some_iff : findFrom lines first marker = some hit ↔
    IsMention lines marker hit ∧ first ≤ hit.index ∧
      ∀ earlier, first ≤ earlier → earlier < hit.index → ¬ MentionedAt lines marker earlier := by
  constructor
  · intro found
    have present : ∃ index, first ≤ index ∧ MentionedAt lines marker index := by
      by_contra absent
      have missed : findFrom lines first marker = none :=
        findFrom_eq_none fun index reached mentioned => absent ⟨index, reached, mentioned⟩
      rw [missed] at found
      cases found
    obtain ⟨index, reached, mentioned⟩ := present
    obtain ⟨earliest, lower, ⟨line, placed, shown⟩, before⟩ := exists_first mentioned reached
    obtain ⟨text, position, answer⟩ := findFrom_eq_some ⟨line, placed, shown⟩ lower before
    obtain rfl := Option.some.inj (found.symm.trans answer)
    obtain rfl := Option.some.inj (placed.symm.trans position)
    exact ⟨⟨placed, shown⟩, lower, before⟩
  · rintro ⟨mention, reached, before⟩
    obtain ⟨line, placed, found⟩ := findFrom_eq_some mention.mentionedAt reached before
    rw [found, Option.some.inj (placed.symm.trans mention.placed)]

/-- Behind a hit there is one mention less than from the start of its search on. -/
theorem countMentions_drop_of_found (found : findFrom lines first marker = some hit) :
    countMentions (lines.drop first) marker =
      countMentions (lines.drop (hit.index + 1)) marker + 1 := by
  obtain ⟨mention, reached, before⟩ := findFrom_eq_some_iff.mp found
  have passed : countMentions (between lines first hit.index) marker = 0 := by
    refine countMentions_eq_zero_iff.mpr fun index present => ?_
    obtain ⟨bounded, mentioned⟩ := mentionedAt_between.mp present
    exact before _ (Nat.le_add_right _ _) bounded mentioned
  obtain ⟨inside, line⟩ := List.getElem?_eq_some_iff.mp mention.placed
  have shown : lines[hit.index].mentions marker = true :=
    Text.mentions_iff.mpr (line ▸ mention.mentioned)
  calc countMentions (lines.drop first) marker
      = countMentions (between lines first hit.index) marker +
          countMentions (lines.drop hit.index) marker := by
        rw [← between_append_drop lines reached, countMentions, List.countP_append]
        rfl
    _ = countMentions (lines.drop (hit.index + 1)) marker + 1 := by
        rw [passed, List.drop_eq_getElem_cons inside, countMentions_cons, shown, if_pos rfl,
          Nat.zero_add]

/-! ### The resumed searches -/

theorem toNat_behind (hit : Hit) : ((hit.index : Int) + 1).toNat = hit.index + 1 := by
  omega

/-- Each search begins behind the last hit, so that one of them misses in the end. -/
theorem exists_resumed (lines : List Text) (marker : Text) (start : Int) :
    ∃ hits, Resumed lines marker start hits := by
  induction bound : lines.length - start.toNat using Nat.strongRecOn generalizing start with
  | ind left ih =>
    cases searched : findFrom lines start.toNat marker with
    | none => exact ⟨[], .ended searched⟩
    | some hit =>
      obtain ⟨mention, reached, _⟩ := findFrom_eq_some_iff.mp searched
      have inside := mention.mentionedAt.lt_length
      have shorter : lines.length - ((hit.index : Int) + 1).toNat < left := by
        rw [toNat_behind]
        omega
      obtain ⟨hits, later⟩ := ih _ shorter _ rfl
      exact ⟨hit :: hits, .next searched later⟩

theorem Resumed.unique (resumed : Resumed lines marker start hits)
    (again : Resumed lines marker start others) : others = hits := by
  induction resumed generalizing others with
  | ended missed =>
    cases again with
    | ended => rfl
    | next found => cases missed.symm.trans found
  | next found later ih =>
    cases again with
    | ended missed => cases missed.symm.trans found
    | next foundAgain laterAgain =>
      obtain rfl := Option.some.inj (found.symm.trans foundAgain)
      rw [ih laterAgain]

theorem Resumed.mem_iff (resumed : Resumed lines marker start hits) :
    hit ∈ hits ↔ start.toNat ≤ hit.index ∧ IsMention lines marker hit := by
  induction resumed with
  | ended missed =>
    have absent := findFrom_eq_none_iff.mp missed
    simp only [List.not_mem_nil, false_iff, not_and]
    exact fun reached mention => absent _ reached mention.mentionedAt
  | @next start next hits found later ih =>
    obtain ⟨mention, reached, before⟩ := findFrom_eq_some_iff.mp found
    rw [List.mem_cons, ih, toNat_behind]
    constructor
    · rintro (rfl | ⟨behind, shown⟩)
      · exact ⟨reached, mention⟩
      · exact ⟨by omega, shown⟩
    · rintro ⟨lower, shown⟩
      rcases Nat.lt_trichotomy hit.index next.index with earlier | same | later
      · exact absurd shown.mentionedAt (before _ lower earlier)
      · exact .inl (shown.eq_of_index mention same)
      · exact .inr ⟨later, shown⟩

theorem Resumed.ascending (resumed : Resumed lines marker start hits) :
    hits.Pairwise fun earlier later => earlier.index < later.index := by
  induction resumed with
  | ended => exact .nil
  | next found later ih =>
    refine .cons (fun hit member => ?_) ih
    have behind := (later.mem_iff.mp member).1
    rw [toNat_behind] at behind
    exact behind

theorem Resumed.length_eq (resumed : Resumed lines marker start hits) :
    hits.length = countMentions (lines.drop start.toNat) marker := by
  induction resumed with
  | ended missed =>
    refine (countMentions_eq_zero_iff.mpr fun index mentioned => ?_).symm
    exact findFrom_eq_none_iff.mp missed _ (Nat.le_add_right _ index) (mentionedAt_drop.mp mentioned)
  | next found later ih =>
    rw [countMentions_drop_of_found found, List.length_cons, ih, toNat_behind]

/-! ### The only mention -/

theorem onlyAt_iff (mention : IsMention lines marker hit) : OnlyAt lines marker hit.index ↔
    ∀ other, IsMention lines marker other ↔ other = hit := by
  constructor
  · intro only other
    constructor
    · intro there
      exact there.eq_of_index mention ((only other.index).mp there.mentionedAt)
    · rintro rfl
      exact mention
  · intro only index
    constructor
    · rintro ⟨line, placed, shown⟩
      exact congrArg Hit.index ((only ⟨index, line⟩).mp ⟨placed, shown⟩)
    · rintro rfl
      exact mention.mentionedAt

theorem unmentioned_iff : (∀ hit, ¬ IsMention lines marker hit) ↔
    ∀ index, ¬ MentionedAt lines marker index := by
  constructor
  · rintro absent index ⟨line, placed, shown⟩
    exact absent ⟨index, line⟩ ⟨placed, shown⟩
  · exact fun absent hit mention => absent hit.index mention.mentionedAt

/-- How the search for the only mention ends. -/
inductive UniqueVerdict (lines : List Text) (marker name : Text) : Except Fault Hit → Prop
  | missing (absent : ∀ hit, ¬ IsMention lines marker hit) :
      UniqueVerdict lines marker name
        (.error (.markerNotFound (.text name) (.text marker) (.number 0)))
  | repeated (several : 1 < countMentions lines marker) :
      UniqueVerdict lines marker name (.error (.duplicateMarker (.text name) (.text marker)
        (.number (countMentions lines marker))))
  | only {hit : Hit} (only : ∀ other, IsMention lines marker other ↔ other = hit) :
      UniqueVerdict lines marker name (.ok hit)

theorem exists_uniqueVerdict (lines : List Text) (marker name : Text) :
    ∃ verdict, UniqueVerdict lines marker name verdict := by
  rcases mention_cases lines marker with absent | ⟨index, only⟩ | several
  · exact ⟨_, .missing (unmentioned_iff.mpr absent)⟩
  · obtain ⟨line, placed, shown⟩ := only.mentionedAt
    have mention : IsMention lines marker ⟨index, line⟩ := ⟨placed, shown⟩
    exact ⟨_, .only ((onlyAt_iff mention).mp only)⟩
  · exact ⟨_, .repeated several⟩

theorem UniqueVerdict.requireUnique_eq {verdict : Except Fault Hit}
    (decided : UniqueVerdict lines marker name verdict) :
    requireUnique lines marker name = verdict.mapError (·.stop none) := by
  cases decided with
  | missing absent => exact requireUnique_eq_raise_notFound name (unmentioned_iff.mp absent)
  | repeated several => exact requireUnique_eq_raise_duplicate name several
  | @only hit only =>
    have mention := (only hit).mpr rfl
    obtain ⟨line, placed, required⟩ := ((onlyAt_iff mention).mpr only).requireUnique_eq_ok name
    rw [required, Option.some.inj (placed.symm.trans mention.placed)]
    rfl

theorem requireUnique_eq_ok_iff : requireUnique lines marker name = .ok hit ↔
    ∀ other, IsMention lines marker other ↔ other = hit := by
  constructor
  · intro required
    obtain ⟨verdict, decided⟩ := exists_uniqueVerdict lines marker name
    rw [decided.requireUnique_eq] at required
    cases decided with
    | missing => cases required
    | repeated => cases required
    | only only =>
      cases required
      exact only
  · exact fun only => (UniqueVerdict.only only).requireUnique_eq

/-- To raise a fault is to put it into words. -/
theorem requireUnique_eq_fault_iff {fault : Fault} :
    requireUnique lines marker name = .error (.fault fault none) ↔
      UniqueVerdict lines marker name (.error fault) ∧ fault.check = .ok () := by
  constructor
  · intro required
    obtain ⟨verdict, decided⟩ := exists_uniqueVerdict lines marker name
    rw [decided.requireUnique_eq] at required
    cases verdict with
    | ok hit => cases required
    | error other =>
      obtain ⟨checked, rfl, _⟩ := Fault.raise_eq_fault_iff.mp required
      exact ⟨decided, checked⟩
  · rintro ⟨decided, checked⟩
    rw [decided.requireUnique_eq]
    exact Fault.raise_eq_fault_iff.mpr ⟨checked, rfl, rfl⟩

theorem requireUnique_eq_notFound_iff : requireUnique lines marker name = .error (.fault
    (.markerNotFound (.text name) (.text marker) (.number 0)) none) ↔
      name ≠ [] ∧ ∀ hit, ¬ IsMention lines marker hit := by
  have worded := Fault.checkMarker_eq_ok_iff .markerNotFound name marker 0
  rw [requireUnique_eq_fault_iff, Fault.check, worded]
  constructor
  · rintro ⟨decided, named, _⟩
    cases decided with
    | missing absent => exact ⟨named, absent⟩
  · rintro ⟨named, absent⟩
    exact ⟨.missing absent, named, isShort_of_digit (by decide)⟩

theorem requireUnique_eq_duplicate_iff {count : Nat} : requireUnique lines marker name =
    .error (.fault (.duplicateMarker (.text name) (.text marker) (.number count)) none) ↔
      name ≠ [] ∧ IsShort count ∧ 1 < count ∧ count = countMentions lines marker := by
  have worded := Fault.checkMarker_eq_ok_iff .duplicateMarker name marker count
  rw [requireUnique_eq_fault_iff, Fault.check, worded]
  constructor
  · rintro ⟨decided, named, short⟩
    cases decided with
    | repeated several => exact ⟨named, short, several, rfl⟩
  · rintro ⟨named, short, several, rfl⟩
    exact ⟨.repeated several, named, short⟩

/-- The search is resumed from any start, and ends; its hits are all the mentions from there on. The
only mention is the one that is required. That there is none or that there are several is a fault, which
needs a name for the marker and a number that is short enough to be written. -/
theorem resumed_meets_each_mention (lines : List Text) (marker name : Text) :
    (∀ start, ∃ hits, (∀ others, Resumed lines marker start others ↔ others = hits) ∧
        (hits.Pairwise fun earlier later => earlier.index < later.index) ∧
        ∀ hit, hit ∈ hits ↔ max start 0 ≤ hit.index ∧ IsMention lines marker hit) ∧
      (∀ hits, Resumed lines marker 0 hits → hits.length = countMentions lines marker) ∧
      (∀ hit, requireUnique lines marker name = .ok hit ↔
        ∀ other, IsMention lines marker other ↔ other = hit) ∧
      (requireUnique lines marker name = .error (.fault
          (.markerNotFound (.text name) (.text marker) (.number 0)) none) ↔
        name ≠ [] ∧ ∀ hit, ¬ IsMention lines marker hit) ∧
      ∀ count : Nat, requireUnique lines marker name = .error (.fault
          (.duplicateMarker (.text name) (.text marker) (.number count)) none) ↔
        name ≠ [] ∧ IsShort count ∧ 1 < count ∧ count = countMentions lines marker := by
  refine ⟨fun start => ?_, fun hits resumed => resumed.length_eq, ?_⟩
  · obtain ⟨hits, resumed⟩ := exists_resumed lines marker start
    refine ⟨hits, fun others => ⟨resumed.unique, ?_⟩, resumed.ascending, fun hit => ?_⟩
    · rintro rfl
      exact resumed
    · have lower : start.toNat ≤ hit.index ↔ max start 0 ≤ (hit.index : Int) := by omega
      rw [resumed.mem_iff, lower]
  · exact ⟨fun hit => requireUnique_eq_ok_iff, requireUnique_eq_notFound_iff,
      fun count => requireUnique_eq_duplicate_iff⟩

end SpinWait.Log
