import Mathlib.Data.List.TakeWhile
import SpinWait.Log.TrailingRun

namespace SpinWait.Log

/-! The last run of a token, said without the walk that counts it. -/

variable {tokens : List Text} {target : Text} {count : Nat}

/-- `count` copies of the target stand in a row, none stands behind them, and the row could not begin
earlier. It is empty only if the target does not occur at all. -/
structure LastRun (tokens : List Text) (target : Text) (count : Nat) : Prop where
  split : ∃ before after, tokens = before ++ List.replicate count target ++ after ∧
    before.getLast? ≠ some target ∧ target ∉ after
  occurs : target ∈ tokens → 0 < count

theorem takeWhile_eq_replicate (tokens : List Text) (target : Text) :
    tokens.takeWhile (· == target) =
      List.replicate (tokens.takeWhile (· == target)).length target := by
  rw [List.eq_replicate_iff]
  refine ⟨rfl, fun token member => ?_⟩
  simpa using List.mem_takeWhile_imp member

theorem head?_dropWhile_ne (tokens : List Text) (target : Text) :
    (tokens.dropWhile (· == target)).head? ≠ some target := by
  intro found
  have stopped := List.head?_dropWhile_not (· == target) tokens
  rw [found] at stopped
  simp at stopped

theorem lastRun_trailingRun (tokens : List Text) (target : Text) :
    LastRun tokens target (trailingRun tokens target) := by
  -- Read backwards, the tokens are those behind the run, the run, and what is left.
  let skipped := tokens.reverse.takeWhile (· != target)
  let rest := tokens.reverse.dropWhile (· != target)
  have parts : tokens.reverse =
      skipped ++ (rest.takeWhile (· == target) ++ rest.dropWhile (· == target)) := by
    rw [List.takeWhile_append_dropWhile, List.takeWhile_append_dropWhile]
  refine ⟨⟨(rest.dropWhile (· == target)).reverse, skipped.reverse, ?_, ?_, ?_⟩, ?_⟩
  · have turned := congrArg List.reverse parts
    rw [takeWhile_eq_replicate rest target] at turned
    simpa [trailingRun, rest] using turned
  · rw [List.getLast?_reverse]
    exact head?_dropWhile_ne rest target
  · intro member
    have := List.mem_takeWhile_imp (List.mem_reverse.mp member)
    simp at this
  · intro member
    have reached : rest ≠ [] := by
      intro exhausted
      have := List.dropWhile_eq_nil_iff.mp exhausted target (List.mem_reverse.mpr member)
      simp at this
    obtain ⟨first, others, shape⟩ := List.exists_cons_of_ne_nil reached
    change tokens.reverse.dropWhile (· != target) = first :: others at shape
    have stopped := List.head?_dropWhile_not (· != target) tokens.reverse
    rw [shape] at stopped
    have isTarget : first = target := by simpa using stopped
    simp [trailingRun, shape, isTarget]

theorem LastRun.eq_trailingRun (run : LastRun tokens target count) :
    trailingRun tokens target = count := by
  obtain ⟨⟨before, after, rfl, bounded, behind⟩, occurs⟩ := run
  have skipped : after.reverse.dropWhile (· != target) = [] := by
    rw [List.dropWhile_eq_nil_iff]
    intro token member
    have : token ≠ target := fun same => behind (same ▸ List.mem_reverse.mp member)
    simpa using this
  cases count with
  | zero =>
    have absent : target ∉ before := fun member =>
      Nat.lt_irrefl 0 (occurs (by simp [member]))
    have all : (after.reverse ++ before.reverse).dropWhile (· != target) = [] := by
      rw [List.dropWhile_eq_nil_iff]
      intro token member
      have : token ≠ target := by
        intro same
        subst same
        rcases List.mem_append.mp member with later | earlier
        · exact behind (List.mem_reverse.mp later)
        · exact absent (List.mem_reverse.mp earlier)
      simpa using this
    simp [trailingRun, all]
  | succ count =>
    have stops : before.reverse.takeWhile (· == target) = [] := by
      rw [List.takeWhile_eq_nil_iff]
      intro nonempty same
      apply bounded
      rw [← List.head?_reverse, List.head?_eq_getElem?, List.getElem?_eq_getElem nonempty]
      simpa using same
    have reached : (List.replicate (count + 1) target ++ before.reverse).dropWhile (· != target) =
        List.replicate (count + 1) target ++ before.reverse := by
      simp [List.replicate_succ]
    have turned : (before ++ List.replicate (count + 1) target ++ after).reverse =
        after.reverse ++ (List.replicate (count + 1) target ++ before.reverse) := by simp
    rw [trailingRun, turned, List.dropWhile_append, skipped, List.isEmpty_nil, if_pos rfl, reached,
      List.takeWhile_append_of_pos (by simp), stops, List.append_nil, List.length_replicate]

/-! ### Runs in a list that is put together from two -/

variable {before after behind : List Text} {leading trailing : Nat}

theorem LastRun.append_of_not_mem (run : LastRun before target count) (absent : target ∉ after) :
    LastRun (before ++ after) target count := by
  obtain ⟨⟨front, rest, rfl, bounded, behind⟩, occurs⟩ := run
  refine ⟨⟨front, rest ++ after, by simp, bounded, ?_⟩, fun member => occurs ?_⟩
  · simp [behind, absent]
  · exact (List.mem_append.mp member).resolve_right absent

/-- Whatever stands in front of another token than the target takes no part in a run behind it. -/
theorem LastRun.append_left (run : LastRun behind target count) (member : target ∈ behind)
    (apart : behind.head? ≠ some target) : LastRun (before ++ behind) target count := by
  have positive := run.occurs member
  obtain ⟨⟨front, rest, rfl, bounded, absent⟩, _⟩ := run
  have started : front ≠ [] := by
    intro empty
    subst empty
    obtain ⟨more, rfl⟩ := Nat.exists_eq_succ_of_ne_zero (Nat.ne_of_gt positive)
    simp [List.replicate_succ] at apart
  refine ⟨⟨before ++ front, rest, by simp, ?_, absent⟩, fun _ => positive⟩
  obtain ⟨last, ends⟩ := Option.ne_none_iff_exists'.mp (mt List.getLast?_eq_none_iff.mp started)
  rwa [List.getLast?_append, ends, Option.some_or, ← ends]

/-- A run that ends one list goes on at the beginning of the next. -/
theorem LastRun.of_continued (bounded : before.getLast? ≠ some target) (absent : target ∉ after)
    (some : 0 < leading) :
    LastRun (before ++ List.replicate trailing target ++ (List.replicate leading target ++ after))
      target (leading + trailing) := by
  refine ⟨⟨before, after, ?_, bounded, absent⟩, fun _ => Nat.add_pos_left some trailing⟩
  rw [Nat.add_comm, ← List.replicate_append_replicate]
  simp only [List.append_assoc]

theorem LastRun.unique {other : Nat} (run : LastRun tokens target count)
    (same : LastRun tokens target other) : count = other :=
  run.eq_trailingRun.symm.trans same.eq_trailingRun

end SpinWait.Log
