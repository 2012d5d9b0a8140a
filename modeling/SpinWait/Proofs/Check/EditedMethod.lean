import Mathlib.Logic.Relation
import SpinWait.Proofs.Check.Loop
import SpinWait.Proofs.Log.Edits

namespace SpinWait.Check

open Log

/-! How the lines of a method are written leaves no mark on how the loop is recognised: their blanks,
the case of their letters, their comments, and lines without an instruction. -/

variable {lines edited : List Text} {markers : Markers}

/-- An edit behind the first line that names the method and before the line that ends it, if there
is one. -/
inductive MethodEdit (markers : Markers) : List Text → List Text → Prop
  | intro {before body block rest : List Text} {opening : Text}
      (unnamed : ∀ line ∈ before, ¬ markers.qualifiedName <:+: line)
      (named : markers.qualifiedName <:+: opening)
      (inside : ∀ line ∈ body, endsRegion markers.regionEnd line = false)
      (ends : ∀ line ∈ rest.head?, endsRegion markers.regionEnd line = true)
      (edit : BlockEdit markers.regionEnd body block) :
      MethodEdit markers (before ++ opening :: (body ++ rest))
        (before ++ opening :: (block ++ rest))

theorem MethodEdit.outcome_eq (edit : MethodEdit markers lines edited) (delay : Nat) (spin : Hint) :
    (counter edited markers delay spin).outcome = (counter lines markers delay spin).outcome := by
  cases edit with
  | @intro before body block rest opening unnamed named inside ends edit =>
    have method := MethodTokens.of_body (MethodBody.of_split unnamed named inside ends)
    have other := MethodTokens.of_body
      (MethodBody.of_split unnamed named (edit.inside inside) ends)
    rw [edit.detect_eq, edit.tokenizeAll_eq] at other
    exact counter_outcome_congr method other

/-- Any number of such edits leaves the answer as it is. -/
theorem counter_outcome_of_edits (edits : Relation.ReflTransGen (MethodEdit markers) lines edited)
    (delay : Nat) (spin : Hint) :
    (counter edited markers delay spin).outcome = (counter lines markers delay spin).outcome := by
  induction edits with
  | refl => rfl
  | tail _ edit ih => rw [edit.outcome_eq, ih]

def methodWith (body : List Text) : List Text :=
  Markers.default.header :: (body ++ ["[/Disassembly]".toList])

theorem methodWith_edit {body block : List Text}
    (inside : ∀ line ∈ body, endsRegion Markers.default.regionEnd line = false)
    (edit : BlockEdit Markers.default.regionEnd body block) :
    MethodEdit Markers.default (methodWith body) (methodWith block) := by
  have named : Markers.default.qualifiedName <:+: Markers.default.header := by decide +kernel
  have ends : ∀ line ∈ ["[/Disassembly]".toList].head?,
      endsRegion Markers.default.regionEnd line = true := by decide +kernel
  exact @MethodEdit.intro _ [] body block ["[/Disassembly]".toList] _ nofun named inside ends edit

def shownMethod : List Text := methodWith ["0x1: MRS x8, cntvct_el0 ; read".toList]

def rewrittenMethod : List Text :=
  methodWith ["# loop".toList, "0x1:\tmrs x8, cntvct_el0 ; again".toList]

/-- Letters, a blank and a comment are changed, and a line is put in. -/
theorem shownMethod_edited :
    Relation.ReflTransGen (MethodEdit Markers.default) shownMethod rewrittenMethod ∧
      ∀ delay spin, (counter rewrittenMethod Markers.default delay spin).outcome =
        (counter shownMethod Markers.default delay spin).outcome := by
  have recased : MethodEdit Markers.default shownMethod
      (methodWith ["0x1: mrs x8, cntvct_el0 ; read".toList]) := by
    refine methodWith_edit (by decide +kernel) (@BlockEdit.line _ [] [] _ _ ?_ (by decide +kernel))
    exact .recase (by decide)
  have respaced : MethodEdit Markers.default (methodWith ["0x1: mrs x8, cntvct_el0 ; read".toList])
      (methodWith ["0x1:\tmrs x8, cntvct_el0 ; read".toList]) := by
    refine methodWith_edit (by decide +kernel) (@BlockEdit.line _ [] [] _ _ ?_ (by decide +kernel))
    exact @LineEdit.respace "0x1:".toList " ".toList "\t".toList
      "mrs x8, cntvct_el0 ; read".toList ⟨by decide, by decide⟩ ⟨by decide, by decide⟩
  have recommented : MethodEdit Markers.default
      (methodWith ["0x1:\tmrs x8, cntvct_el0 ; read".toList])
      (methodWith ["0x1:\tmrs x8, cntvct_el0 ; again".toList]) := by
    refine methodWith_edit (by decide +kernel) (@BlockEdit.line _ [] [] _ _ ?_ (by decide +kernel))
    exact @LineEdit.recomment "0x1:\tmrs x8, cntvct_el0 ".toList " read".toList " again".toList
      (by decide) (by decide)
  have inserted : MethodEdit Markers.default
      (methodWith ["0x1:\tmrs x8, cntvct_el0 ; again".toList]) rewrittenMethod := by
    refine methodWith_edit (by decide +kernel)
      (@BlockEdit.insert _ [] _ _ ?_ (by decide) (by decide +kernel))
    exact @Filler.hashed [] " loop".toList nofun
  have edits : Relation.ReflTransGen (MethodEdit Markers.default) shownMethod rewrittenMethod :=
    (((Relation.ReflTransGen.single recased).tail respaced).tail recommented).tail inserted
  exact ⟨edits, counter_outcome_of_edits edits⟩

end SpinWait.Check
