import SpinWait.Proofs.Log.MethodBody
import SpinWait.Proofs.Log.Spacing

namespace SpinWait.Log

open Text

/-! Where a method ends. A marker that is spaced as normal forms are is seen in every line that shows
it, so the lines of a method are the longest run that shows none. -/

variable {lines body rest : List Text} {markers : Markers} {start : Nat} {ends : Text → Prop}
  {marker line front text : Text} {afterCased : Bool}

/-- The line as it is, or respaced, contains the marker when case is set aside. -/
def ShowsMarker (marker line : Text) : Prop :=
  marker.lower <:+: line.lower ∨ marker.lower <:+: normalize line

/-- The longest run at the beginning of the lines without one of a kind. -/
structure LongestRun (ends : Text → Prop) (lines body : List Text) : Prop where
  beginning : body <+: lines
  inside : ∀ line ∈ body, ¬ ends line
  longest : ∀ other, other <+: lines → (∀ line ∈ other, ¬ ends line) → other <+: body

theorem longestRun_append (inside : ∀ line ∈ body, ¬ ends line)
    (stops : ∀ line ∈ rest.head?, ends line) : LongestRun ends (body ++ rest) body where
  beginning := List.prefix_append body rest
  inside := inside
  longest := by
    intro other beginning kept
    rcases List.prefix_or_prefix_of_prefix beginning (List.prefix_append body rest) with
      within | ⟨more, rfl⟩
    · exact within
    · cases more with
      | nil => simp
      | cons line more =>
        obtain ⟨others, rfl⟩ := (List.prefix_append_right_inj body).mp beginning
        exact absurd (stops line rfl) (kept line (by simp))

/-! ### Markers in lines -/

/-- What is put into lower case before a text decides only how it goes on. -/
theorem exists_lowerAfter_append (afterCased : Bool) (front rest : Text) :
    ∃ made following, lowerAfter afterCased (front ++ rest) = made ++ lowerAfter following rest := by
  induction front generalizing afterCased with
  | nil => exact ⟨[], afterCased, rfl⟩
  | cons c front ih =>
    obtain ⟨made, following, later⟩ := ih (if isCaseIgnorable c then afterCased else isCased c)
    refine ⟨(if c = 'Σ' then [if afterCased && !leadsCased (front ++ rest) then 'ς' else 'σ']
      else lowerChar c) ++ made, following, ?_⟩
    rw [List.cons_append, lowerAfter, later, List.append_assoc]

/-- Without a capital sigma, what stands around a text does not touch its lower case. -/
theorem exists_lowerAfter_append_of_simple (unfinal : 'Σ' ∉ text) (afterCased : Bool)
    (rest : Text) : ∃ following,
      lowerAfter afterCased (text ++ rest) = text.flatMap lowerChar ++ lowerAfter following rest := by
  induction text generalizing afterCased with
  | nil => exact ⟨afterCased, rfl⟩
  | cons c text ih =>
    have other : c ≠ 'Σ' := fun same => unfinal (same ▸ .head text)
    obtain ⟨following, later⟩ := ih (fun member => unfinal (.tail c member))
      (if isCaseIgnorable c then afterCased else isCased c)
    refine ⟨following, ?_⟩
    rw [List.cons_append, lowerAfter, if_neg other, later, List.flatMap_cons, List.append_assoc]

theorem lower_isInfix_lower (unfinal : 'Σ' ∉ marker) (shown : marker <:+: line) :
    marker.lower <:+: line.lower := by
  obtain ⟨front, back, rfl⟩ := shown
  have alone : marker.lower = marker.flatMap lowerChar := by
    obtain ⟨following, whole⟩ := exists_lowerAfter_append_of_simple unfinal false []
    rwa [List.append_nil, lowerAfter, List.append_nil] at whole
  obtain ⟨made, afterFront, before⟩ := exists_lowerAfter_append false front (marker ++ back)
  obtain ⟨afterMarker, within⟩ := exists_lowerAfter_append_of_simple unfinal afterFront back
  refine ⟨made, lowerAfter afterMarker back, ?_⟩
  rw [alone, lower, List.append_assoc front, before, within, List.append_assoc]

/-- A marker that is spaced well is seen in the normal form of every line that shows it. -/
theorem showsMarker_iff (spaced : IsSpaced marker) :
    ShowsMarker marker line ↔ marker.lower <:+: normalize line := by
  refine ⟨fun shown => shown.elim (fun literal => ?_) id, .inr⟩
  rw [normalize_eq_respace]
  exact spaced.lower.isInfix_respace literal

theorem ShowsMarker.endsRegion {ends : List Text} (shown : ShowsMarker marker line)
    (spaced : IsSpaced marker) (member : marker ∈ ends) : endsRegion ends line = true :=
  endsRegion_iff.mpr ⟨marker, member, (showsMarker_iff spaced).mp shown⟩

theorem exists_showsMarker_of_endsRegion {ends : List Text} (ended : endsRegion ends line = true) :
    ∃ marker ∈ ends, ShowsMarker marker line := by
  obtain ⟨marker, member, shown⟩ := endsRegion_iff.mp ended
  exact ⟨marker, member, .inr shown⟩

/-! ### The lines of a method -/

/-- What is promised of the lines of a method that begins behind the line at `start`. -/
structure EndsAtMarker (lines : List Text) (markers : Markers) (start : Nat) (body : List Text) :
    Prop where
  opened : MentionedAt lines markers.qualifiedName start
  first : ∀ earlier < start, ¬ MentionedAt lines markers.qualifiedName earlier
  /-- No line of the method shows a marker that is spaced well. -/
  inside : ∀ line ∈ body, ∀ marker ∈ markers.regionEnd, IsSpaced marker →
    ¬ ShowsMarker marker line ∧ ('Σ' ∉ marker → ¬ marker <:+: line)
  /-- The lines follow the first one unchanged, up to one that shows a marker. -/
  split : ∃ rest, lines.drop (start + 1) = body ++ rest ∧
    ∀ line ∈ rest.head?, ∃ marker ∈ markers.regionEnd, ShowsMarker marker line
  longest : (∀ marker ∈ markers.regionEnd, IsSpaced marker) →
    LongestRun (fun line => ∃ marker ∈ markers.regionEnd, ShowsMarker marker line)
      (lines.drop (start + 1)) body

theorem MethodBody.endsAtMarker (method : MethodBody lines markers start body) :
    EndsAtMarker lines markers start body := by
  have inside : ∀ line ∈ body, ∀ marker ∈ markers.regionEnd, IsSpaced marker →
      ¬ ShowsMarker marker line := by
    intro line member marker among spaced shown
    exact Bool.eq_false_iff.mp (method.inside line member) (shown.endsRegion spaced among)
  obtain ⟨rest, split, ends⟩ := method.split
  have stops : ∀ line ∈ rest.head?, ∃ marker ∈ markers.regionEnd, ShowsMarker marker line :=
    fun line next => exists_showsMarker_of_endsRegion (ends line next)
  refine ⟨method.opened, method.first, ?_, ⟨rest, split, stops⟩, fun spaced => ?_⟩
  · intro line member marker among spaced
    refine ⟨inside line member marker among spaced, fun unfinal literal => ?_⟩
    exact inside line member marker among spaced (.inl (lower_isInfix_lower unfinal literal))
  · rw [split]
    refine longestRun_append (fun line member shown => ?_) stops
    obtain ⟨marker, among, shown⟩ := shown
    exact inside line member marker among (spaced marker among) shown

/-- Behind the first line that names the class a method goes on up to a line that shows an end
marker, and past none that shows one spaced well. -/
theorem methodRegion_endsAtMarker
    (named : ∃ index, MentionedAt lines markers.qualifiedName index) :
    ∃ start body, methodRegion lines markers = .ok ⟨start, body⟩ ∧
      EndsAtMarker lines markers start body := by
  obtain ⟨index, named⟩ := named
  obtain ⟨start, body, method⟩ := exists_methodBody named
  exact ⟨start, body, method.methodRegion_eq_ok, method.endsAtMarker⟩

/-- An end marker whose blank is a tab in the log. -/
def tabbedEnd : List Text :=
  ["compiler/onSpinWait/TestOnSpinWaitAArch64$Launcher".toList, "0x1: nop".toList,
    "[Exception\tHandler]".toList, "0x2: nop".toList]

theorem tabbedEnd_method : MethodBody tabbedEnd Markers.default 0 ["0x1: nop".toList] where
  opened := ⟨_, rfl, by decide +kernel⟩
  first := nofun
  inside := by decide +kernel
  split := ⟨tabbedEnd.drop 2, rfl, by simpa [tabbedEnd] using by decide +kernel⟩

theorem methodRegion_endsAtMarker_of_tabbedEnd :
    MentionedAt tabbedEnd Markers.default.qualifiedName 0 ∧
      ∃ start body, methodRegion tabbedEnd Markers.default = .ok ⟨start, body⟩ ∧
        EndsAtMarker tabbedEnd Markers.default start body :=
  ⟨tabbedEnd_method.opened, methodRegion_endsAtMarker ⟨0, tabbedEnd_method.opened⟩⟩

/-- No line as it is contains a marker, and yet the method ends before the third. -/
theorem tabbedEnd_ends_method :
    ¬ ∀ start body, methodRegion tabbedEnd Markers.default = .ok ⟨start, body⟩ →
      LongestRun (fun line => ∃ marker ∈ Markers.default.regionEnd, marker.lower <:+: line.lower)
        (tabbedEnd.drop (start + 1)) body := by
  intro claimed
  have unshown : ∀ line ∈ tabbedEnd.drop 1, ¬ ∃ marker ∈ Markers.default.regionEnd,
      marker.lower <:+: line.lower := by
    decide +kernel
  have longer := (claimed 0 _ tabbedEnd_method.methodRegion_eq_ok).longest (tabbedEnd.drop 1)
    (List.prefix_refl _) unshown
  exact absurd longer.length_le (by decide)

end SpinWait.Log
