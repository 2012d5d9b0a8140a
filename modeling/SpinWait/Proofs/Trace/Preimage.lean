import Mathlib.Data.List.Nodup
import SpinWait.Proofs.Text.Order
import SpinWait.Proofs.Trace.Recording
import SpinWait.Proofs.Value.Notation

namespace SpinWait.Event

/-! What is digested tells one event from another, and does not depend on the order in which the entries
were put in. -/

variable {m n : Nat} {kind other : Text} {data others : List (Text × Value)}

/-! ### Sorting -/

theorem sortByKey_perm (data : List (Text × Value)) : (sortByKey data).Perm data :=
  List.mergeSort_perm data _

theorem sortByKey_sorted (data : List (Text × Value)) :
    (sortByKey data).Pairwise fun left right => left.1.precedes right.1 = true := by
  apply List.pairwise_mergeSort
  · intro left middle right
    exact Text.precedes_trans
  · intro left right
    exact Bool.or_eq_true_iff.mpr (Text.precedes_total left.1 right.1)

/-- As the keys are distinct, the entries have one sorted order. -/
theorem sortByKey_eq_iff (keys : (data.map Prod.fst).Nodup)
    (otherKeys : (others.map Prod.fst).Nodup) :
    sortByKey data = sortByKey others ↔ ∀ entry, entry ∈ data ↔ entry ∈ others := by
  constructor
  · intro same entry
    rw [← (sortByKey_perm data).mem_iff, same, (sortByKey_perm others).mem_iff]
  · intro same
    have perm : data.Perm others :=
      (List.perm_ext_iff_of_nodup (List.Nodup.of_map _ keys) (List.Nodup.of_map _ otherKeys)).mpr same
    have sorted := (sortByKey_perm data).trans (perm.trans (sortByKey_perm others).symm)
    refine sorted.eq_of_pairwise ?_ (sortByKey_sorted data) (sortByKey_sorted others)
    intro left right here there before behind
    have member := (sortByKey_perm data).mem_iff.mp here
    have found := (same right).mpr ((sortByKey_perm others).mem_iff.mp there)
    exact List.inj_on_of_nodup_map keys member found (Text.precedes_antisymm before behind)

/-! ### Parts -/

/-- A kind without the bar that ends it, and distinct keys with plain values. -/
structure IsPlain (kind : Text) (data : List (Text × Value)) : Prop where
  kind : '|' ∉ kind
  keys : (data.map Prod.fst).Nodup
  values : Value.ArePlain data

theorem bar_not_mem_idOf (number : Nat) : '|' ∉ idOf number := by
  intro member
  rcases List.mem_append.mp member with mark | digits
  · exact absurd mark (by decide)
  · rcases List.mem_append.mp digits with zero | digit
    · cases List.eq_of_mem_replicate zero
    · cases Numeral.isDigit_of_mem_decimal digit

theorem selfDelimiting_bar :
    SelfDelimiting (fun text : Text => '|' ∉ text) fun text => text ++ ['|'] :=
  SelfDelimiting.of_stop (fun _ absent => absent) fun _ _ _ _ same => same

theorem preimage_eq_append (id kind : Text) (data : List (Text × Value)) :
    preimage id kind data = (id ++ ['|']) ++ ((kind ++ ['|']) ++
      (Value.list ((sortByKey data).map Value.ofEntry)).written) := by
  rw [List.append_assoc, List.append_assoc]
  rfl

theorem arePlain_sortByKey (plain : Value.ArePlain data) : Value.ArePlain (sortByKey data) :=
  fun entry member => plain entry ((sortByKey_perm data).mem_iff.mp member)

/-- No two events have the same preimage, but for the order in which their entries were put in. -/
theorem preimage_eq_iff (plain : IsPlain kind data) (otherPlain : IsPlain other others) :
    preimage (idOf m) kind data = preimage (idOf n) other others ↔
      idOf m = idOf n ∧ kind = other ∧
        ∀ key value, (key, value) ∈ data ↔ (key, value) ∈ others := by
  have items : sortByKey data = sortByKey others ↔
      ∀ key value, (key, value) ∈ data ↔ (key, value) ∈ others :=
    (sortByKey_eq_iff plain.keys otherPlain.keys).trans Prod.forall
  rw [← items]
  constructor
  · intro same
    rw [preimage_eq_append, preimage_eq_append] at same
    obtain ⟨ids, same⟩ := selfDelimiting_bar (bar_not_mem_idOf m) (bar_not_mem_idOf n) same
    obtain ⟨kinds, same⟩ := selfDelimiting_bar plain.kind otherPlain.kind same
    have ends := Value.selfDelimiting_entries (arePlain_sortByKey plain.values)
      (arePlain_sortByKey otherPlain.values) (congrArg (· ++ []) same)
    exact ⟨ids, kinds, ends.1⟩
  · rintro ⟨ids, rfl, sorted⟩
    rw [preimage, preimage, ids, sorted]

theorem preimage_reordered :
    preimage (idOf 1) ['A'] [(['b'], .flag true), (['a'], .text ['|'])] =
        preimage (idOf 1) ['A'] [(['a'], .text ['|']), (['b'], .flag true)] ∧
      preimage (idOf 1) ['A'] [(['b'], .flag true), (['a'], .text ['|'])] ≠
        preimage (idOf 1) ['A'] [(['b'], .number 1), (['a'], .text ['|'])] := by
  have plain {first second : Value} (here : first.IsPlain) (there : second.IsPlain) :
      IsPlain ['A'] [(['b'], first), (['a'], second)] ∧
        IsPlain ['A'] [(['a'], second), (['b'], first)] :=
    ⟨⟨by decide, by simp, by simp [Value.ArePlain, here, there]⟩,
      ⟨by decide, by simp, by simp [Value.ArePlain, here, there]⟩⟩
  have flagged := plain (.word (.flag true)) (.text ['|'])
  have numbered := plain (.word (.number 1)) (.text ['|'])
  constructor
  · refine (preimage_eq_iff flagged.1 flagged.2).mpr ⟨rfl, rfl, fun key value => ?_⟩
    simp [or_comm]
  · intro same
    have entries := ((preimage_eq_iff flagged.1 numbered.1).mp same).2.2 ['b'] (.flag true)
    simp at entries

end SpinWait.Event
