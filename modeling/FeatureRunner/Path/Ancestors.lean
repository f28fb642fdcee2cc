import FeatureRunner.Path.Basic

/-!
This module contains the directories above a path as its text gives them, without looking at a file
system. `Path.ancestors` ends at the root of an absolute path and at the empty path of a relative
one; every step of it shortens the text (`length_lt_of_parent?`).
-/

namespace FeatureRunner
namespace Path

open FeatureRunner.Text

def dropIdleRight (pieces : List (List Char)) : List (List Char) :=
  (pieces.reverse.dropWhile isIdle).reverse

def parentBody? (pieces : List (List Char)) : Option (List (List Char)) :=
  match pieces.reverse.dropWhile isIdle with
  | [] => none
  | _ :: before => some (before.dropWhile isIdle).reverse

/--
The path without its last step. The root has no parent and neither has the empty path; the parent
of a single relative step is the empty path.
-/
def parent? (p : Path) : Option Path :=
  match parentBody? p.body with
  | some pieces => some (ofParts p.anchor pieces)
  | none =>
    match p.anchor with
    | .current => some ⟨""⟩
    | .root | .none => none

theorem length_joinWith (sep : Char) (ss : List (List Char))
    : (joinWith sep ss).length = ss.flatten.length + (ss.length - 1) := by
  fun_induction joinWith sep ss with
  | case1 => rfl
  | case2 s => simp
  | case3 s t ss ih => simp_all; omega

theorem length_flatten_le_of_sublist {ss ts : List (List Char)} (h : ss.Sublist ts)
    : ss.flatten.length ≤ ts.flatten.length := by
  induction h with
  | slnil => simp
  | cons _ _ ih => simp only [List.flatten_cons, List.length_append]; omega
  | cons_cons _ _ ih => simp only [List.flatten_cons, List.length_append]; omega

theorem joinWith_lt_of_parentBody? {pieces before : List (List Char)}
    (h : parentBody? pieces = some before)
    : (joinWith '/' before).length < (joinWith '/' pieces).length := by
  unfold parentBody? at h
  split at h
  . simp at h
  . next last rest heq =>
    obtain rfl := Option.some.inj h
    have hlast : isIdle last = false := by
      have := List.head?_dropWhile_not isIdle pieces.reverse
      rw [heq] at this
      simpa using this
    have hpos : 0 < last.length := by
      cases last with
      | nil => simp [isIdle] at hlast
      | cons => simp
    have hsub : ((rest.dropWhile isIdle).reverse ++ [last]).Sublist pieces := by
      have h1 : (last :: rest.dropWhile isIdle).Sublist pieces.reverse := by
        refine List.Sublist.trans ?_ (List.dropWhile_sublist isIdle)
        rw [heq]
        exact (List.dropWhile_sublist _).cons_cons _
      simpa using h1.reverse
    have hlen := hsub.length_le
    have hflat := length_flatten_le_of_sublist hsub
    simp only [length_joinWith]
    simp at hlen hflat ⊢
    omega

theorem length_lt_of_parent? {p q : Path} (h : p.parent? = some q)
    : q.text.length < p.text.length := by
  have hp := ofParts_anchor_body p
  unfold parent? at h
  split at h
  . next before hb =>
    obtain rfl := Option.some.inj h
    conv => rhs; rw [← hp]
    have := joinWith_lt_of_parentBody? hb
    simpa [ofParts] using this
  . split at h
    . next hc =>
      obtain rfl := Option.some.inj h
      conv => rhs; rw [← hp]
      simp only [ofParts, hc, Anchor.chars, String.length_ofList, List.length_append]
      simp only [List.length_cons, String.length_empty]
      omega
    . simp at h
    . simp at h

def ancestors (p : Path) : List Path :=
  match h : p.parent? with
  | some q =>
    have := length_lt_of_parent? h
    p :: ancestors q
  | none => [p]
termination_by p.text.length

end Path
end FeatureRunner
