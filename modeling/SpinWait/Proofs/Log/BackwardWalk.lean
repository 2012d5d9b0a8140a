import Mathlib.Data.List.DropRight
import Mathlib.Logic.Relation
import SpinWait.Proofs.Log.LastRun

namespace SpinWait.Log

/-! The walk over a list from its end that measures the last run of a token: it passes what stands
behind the run, then counts, with one position all the way. -/

/-- Where the walk stands. Position −1 is before the first token. -/
inductive Walk
  | seeking (position : Int)
  | counting (position : Int) (count : Nat)
  | ended (count : Nat)

namespace Walk

variable {tokens before after : List Text} {token target : Text} {walk next : Walk} {count : Nat}

def start (tokens : List Text) : Walk := seeking (tokens.length - 1)

def position? : Walk → Option Int
  | seeking position => some position
  | counting position _ => some position
  | ended _ => none

/-- A step looks at the token at the position, unless the walk has passed the first token. It cannot
be made at a position that the list does not have. -/
inductive Step (tokens : List Text) (target : Text) : Walk → Walk → Prop
  | skip {position : Int} {token : Text} (inside : 0 ≤ position)
      (here : tokens[position.toNat]? = some token) (differs : token ≠ target) :
      Step tokens target (seeking position) (seeking (position - 1))
  | meet {position : Int} (inside : 0 ≤ position)
      (here : tokens[position.toNat]? = some target) :
      Step tokens target (seeking position) (counting position 0)
  | miss {position : Int} (outside : position < 0) :
      Step tokens target (seeking position) (counting position 0)
  | count {position : Int} {count : Nat} (inside : 0 ≤ position)
      (here : tokens[position.toNat]? = some target) :
      Step tokens target (counting position count) (counting (position - 1) (count + 1))
  | leave {position : Int} {count : Nat} {token : Text} (inside : 0 ≤ position)
      (here : tokens[position.toNat]? = some token) (differs : token ≠ target) :
      Step tokens target (counting position count) (ended count)
  | pass {position : Int} {count : Nat} (outside : position < 0) :
      Step tokens target (counting position count) (ended count)

/-- The walk comes here from the end of the list. -/
def Reached (tokens : List Text) (target : Text) : Walk → Prop :=
  Relation.ReflTransGen (Step tokens target) (start tokens)

/-- What is known on the way. The position is that of the last token of `before`; a walk that has not
counted yet stands at the target or has passed the first token. -/
inductive Sound (tokens : List Text) (target : Text) : Walk → Prop
  | seeking {before after : List Text} (split : tokens = before ++ after)
      (absent : target ∉ after) : Sound tokens target (seeking (before.length - 1))
  | counting {before after : List Text} {count : Nat}
      (split : tokens = before ++ (List.replicate count target ++ after))
      (absent : target ∉ after)
      (met : count = 0 → before = [] ∨ before.getLast? = some target) :
      Sound tokens target (counting (before.length - 1) count)
  | ended {count : Nat} (run : LastRun tokens target count) : Sound tokens target (ended count)

/-! ### One step -/

theorem position_concat (front : List Text) (token : Text) :
    ((front ++ [token]).length : Int) - 1 = front.length := by
  rw [List.length_append, List.length_singleton]
  omega

theorem getElem?_last (before after : List Text) (token : Text) :
    (before ++ [token] ++ after)[(((before ++ [token]).length : Int) - 1).toNat]? = some token := by
  rw [position_concat, Int.toNat_natCast, List.append_assoc,
    List.getElem?_append_right (Nat.le_refl _), Nat.sub_self]
  rfl

/-- The token at the position ends what stands before the walk. -/
theorem exists_last (inside : 0 ≤ (before.length : Int) - 1)
    (here : (before ++ after)[((before.length : Int) - 1).toNat]? = some token) :
    ∃ front, before = front ++ [token] := by
  rcases List.eq_nil_or_concat before with rfl | ⟨front, last, rfl⟩
  · exact absurd inside (by simp)
  · rw [List.concat_eq_append, getElem?_last] at here
    rw [List.concat_eq_append]
    exact ⟨front, by rw [Option.some.inj here]⟩

theorem sound_start (tokens : List Text) (target : Text) : Sound tokens target (start tokens) :=
  .seeking (List.append_nil tokens).symm List.not_mem_nil

theorem eq_nil_of_outside (outside : (before.length : Int) - 1 < 0) : before = [] :=
  List.eq_nil_of_length_eq_zero (by omega)

theorem Sound.step (sound : Sound tokens target walk) (step : Step tokens target walk next) :
    Sound tokens target next := by
  cases step with
  | @skip position token inside here differs =>
    cases sound with
    | @seeking before after split absent =>
      subst split
      obtain ⟨front, rfl⟩ := exists_last inside here
      have passed : target ∉ [token] ++ after := by simpa using ⟨differs.symm, absent⟩
      rw [position_concat]
      exact .seeking (List.append_assoc front [token] after) passed
  | meet inside here =>
    cases sound with
    | seeking split absent =>
      subst split
      obtain ⟨front, rfl⟩ := exists_last inside here
      exact .counting rfl absent fun _ => .inr List.getLast?_concat
  | miss outside =>
    cases sound with
    | seeking split absent =>
      exact .counting split absent fun _ => .inl (eq_nil_of_outside outside)
  | count inside here =>
    cases sound with
    | counting split absent met =>
      subst split
      obtain ⟨front, rfl⟩ := exists_last inside here
      rw [position_concat]
      exact .counting (List.append_assoc front [target] _) absent nofun
  | leave inside here differs =>
    cases sound with
    | counting split absent met =>
      subst split
      obtain ⟨front, rfl⟩ := exists_last inside here
      refine .ended ⟨⟨front ++ [_], _, (List.append_assoc _ _ _).symm, ?_, absent⟩, fun _ => ?_⟩
      · simpa using differs
      · refine Nat.pos_of_ne_zero fun zero => ?_
        rcases met zero with empty | last
        · simp at empty
        · exact differs (by simpa using last)
  | pass outside =>
    cases sound with
    | counting split absent met =>
      obtain rfl := eq_nil_of_outside outside
      subst split
      refine .ended ⟨⟨[], _, rfl, nofun, absent⟩, fun member => Nat.pos_of_ne_zero ?_⟩
      rintro rfl
      exact absent (by simpa using member)

theorem looksAt_cases (before after : List Text) : (before.length : Int) - 1 < 0 ∨
    0 ≤ (before.length : Int) - 1 ∧
      ∃ token, (before ++ after)[((before.length : Int) - 1).toNat]? = some token := by
  rcases List.eq_nil_or_concat before with rfl | ⟨front, last, rfl⟩
  · exact .inl (by decide)
  · rw [List.concat_eq_append]
    exact .inr ⟨by simp, last, getElem?_last front after last⟩

/-- A walk that has not ended has a step to make: its position is before the first token or that of a
token. -/
theorem Sound.exists_step (sound : Sound tokens target walk) :
    (∃ count, walk = .ended count) ∨ ∃ next, Step tokens target walk next := by
  cases sound with
  | @seeking before after split absent =>
    subst split
    rcases looksAt_cases before after with outside | ⟨inside, token, here⟩
    · exact .inr ⟨_, .miss outside⟩
    · by_cases same : token = target
      · exact .inr ⟨_, .meet inside (same ▸ here)⟩
      · exact .inr ⟨_, .skip inside here same⟩
  | @counting before after count split absent met =>
    subst split
    rcases looksAt_cases before (List.replicate count target ++ after) with
      outside | ⟨inside, token, here⟩
    · exact .inr ⟨_, .pass outside⟩
    · by_cases same : token = target
      · exact .inr ⟨_, .count inside (same ▸ here)⟩
      · exact .inr ⟨_, .leave inside here same⟩
  | ended run => exact .inl ⟨_, rfl⟩

theorem Sound.position_bounded (sound : Sound tokens target walk) {position : Int}
    (stands : walk.position? = some position) : -1 ≤ position ∧ position < tokens.length := by
  cases sound with
  | seeking split absent =>
    cases stands
    rw [split, List.length_append]
    omega
  | counting split absent met =>
    cases stands
    rw [split, List.length_append]
    omega
  | ended run => cases stands

/-- At least as many as there are steps left. -/
def stepsLeft : Walk → Nat
  | seeking position => (position + 1).toNat + 2
  | counting position _ => (position + 1).toNat + 1
  | ended _ => 0

theorem Step.stepsLeft_lt (step : Step tokens target walk next) :
    next.stepsLeft < walk.stepsLeft := by
  cases step <;> simp only [stepsLeft] <;> omega

theorem step_wellFounded (tokens : List Text) (target : Text) :
    WellFounded fun next walk => Step tokens target walk next :=
  Subrelation.wf Step.stepsLeft_lt (measure stepsLeft).wf

/-! ### All steps -/

theorem Reached.sound (reached : Reached tokens target walk) : Sound tokens target walk := by
  induction reached with
  | refl => exact sound_start tokens target
  | tail _ step ih => exact ih.step step

theorem exists_reached_ended (reached : Reached tokens target walk) :
    ∃ count, Reached tokens target (ended count) := by
  induction walk using (step_wellFounded tokens target).induction with
  | h walk ih =>
    rcases reached.sound.exists_step with ⟨count, rfl⟩ | ⟨next, step⟩
    · exact ⟨count, reached⟩
    · exact ih next step (reached.tail step)

theorem reached_ended_iff :
    Reached tokens target (ended count) ↔ count = trailingRun tokens target := by
  have found {count : Nat} (reached : Reached tokens target (ended count)) :
      count = trailingRun tokens target := by
    cases reached.sound with
    | ended run => exact run.eq_trailingRun.symm
  have begun : Reached tokens target (start tokens) := .refl
  refine ⟨found, ?_⟩
  rintro rfl
  obtain ⟨count, reached⟩ := exists_reached_ended begun
  exact found reached ▸ reached

end Walk

/-! ### Runs in longer lists -/

variable {tokens more before after : List Text} {target other : Text} {count copies : Nat}

theorem lastRun_iff : LastRun tokens target count ↔ count = trailingRun tokens target := by
  refine ⟨fun run => run.eq_trailingRun.symm, ?_⟩
  rintro rfl
  exact lastRun_trailingRun tokens target

/-- Behind another token the run begins, whatever stands before that. -/
theorem lastRun_behind (differs : other ≠ target) (absent : target ∉ after) (present : 0 < count) :
    LastRun (before ++ other :: (List.replicate count target ++ after)) target count := by
  have bounded : (before ++ [other]).getLast? ≠ some target := by simpa using differs
  exact ⟨⟨before ++ [other], after, by simp, bounded, absent⟩, fun _ => present⟩

theorem lastRun_append_copies (tokens : List Text) (present : 0 < copies) :
    LastRun (tokens ++ List.replicate copies target) target
      (copies + (tokens.rtakeWhile (· == target)).length) := by
  -- The copies at the end of the list and those behind it are one run.
  have trailing : tokens.rtakeWhile (· == target) =
      List.replicate (tokens.rtakeWhile (· == target)).length target := by
    rw [List.eq_replicate_iff]
    exact ⟨rfl, fun token member => by simpa using List.mem_rtakeWhile_imp member⟩
  have bounded : (tokens.rdropWhile (· == target)).getLast? ≠ some target := by
    rw [List.rdropWhile, List.getLast?_reverse]
    exact head?_dropWhile_ne _ target
  have run : LastRun (tokens.rdropWhile (· == target) ++
      List.replicate (tokens.rtakeWhile (· == target)).length target ++
        (List.replicate copies target ++ [])) target
      (copies + (tokens.rtakeWhile (· == target)).length) :=
    .of_continued bounded List.not_mem_nil present
  rwa [← trailing, List.rdropWhile_append_rtakeWhile, List.append_nil] at run

/-- The walk ends, at every step at a position of the list or right before it, with the length of the
last run. That is one number for every list, and what stands elsewhere in the list has no part in it. -/
theorem backwardWalk_exact (tokens : List Text) (target : Text) :
    (WellFounded fun next walk => Walk.Step tokens target walk next) ∧
      (∀ walk, Walk.Reached tokens target walk →
        (∀ position, walk.position? = some position → -1 ≤ position ∧ position < tokens.length) ∧
        ((∃ count, walk = .ended count) ∨ ∃ next, Walk.Step tokens target walk next)) ∧
      (∀ count, Walk.Reached tokens target (.ended count) ↔ count = trailingRun tokens target) ∧
      (∀ count, LastRun tokens target count ↔ count = trailingRun tokens target) ∧
      (∀ more, target ∉ more → trailingRun (tokens ++ more) target = trailingRun tokens target) ∧
      (∀ more before other count after, other ≠ target → target ∉ after → 0 < count →
        tokens = before ++ other :: (List.replicate count target ++ after) →
        trailingRun (more ++ tokens) target = trailingRun tokens target) ∧
      ∀ copies, 0 < copies → trailingRun (tokens ++ List.replicate copies target) target =
        copies + (tokens.rtakeWhile (· == target)).length := by
  refine ⟨Walk.step_wellFounded tokens target, fun walk reached => ?_, fun count =>
    Walk.reached_ended_iff, fun count => lastRun_iff, ?_, ?_, ?_⟩
  · exact ⟨fun position => reached.sound.position_bounded, reached.sound.exists_step⟩
  · intro more absent
    exact ((lastRun_trailingRun tokens target).append_of_not_mem absent).eq_trailingRun
  · rintro more before other count after differs absent present rfl
    have longer : LastRun ((more ++ before) ++ other :: (List.replicate count target ++ after))
        target count := lastRun_behind differs absent present
    rw [List.append_assoc] at longer
    rw [longer.eq_trailingRun, (lastRun_behind differs absent present).eq_trailingRun]
  · exact fun copies present => (lastRun_append_copies tokens present).eq_trailingRun

end SpinWait.Log
