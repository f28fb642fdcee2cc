import FeatureRunner.Path.Relative
import FeatureRunner.Proofs.Path.Names
import Mathlib.Data.List.Pairwise

/-!
This module contains what the order of paths and the part of a path below another one are. The order
is total and transitive, and two paths that stand in front of each other make the same steps, so
sorting leaves no choice (`mergeSort_eq_of_perm`). Below a place the rest of the names is left of a
path (`below?_ofNames`).
-/

namespace FeatureRunner
namespace Path

open FeatureRunner.Text

/-! ### The order -/

namespace Component

theorem le_total (a b : Component) : a.le b = true ∨ b.le a = true := by
  cases a <;> cases b <;> simp [le, String.le_total]

theorem le_trans {a b c : Component} (h : a.le b = true) (h' : b.le c = true)
    : a.le c = true := by
  cases a <;> cases b <;> cases c <;> simp_all [le]
  exact String.le_trans h h'

theorem le_antisymm {a b : Component} (h : a.le b = true) (h' : b.le a = true) : a = b := by
  cases a <;> cases b <;> simp_all [le]
  exact String.le_antisymm h h'

end Component

section Steps

variable {steps steps' steps'' : List Component}

theorem leSteps_total (steps steps' : List Component)
    : leSteps steps steps' = true ∨ leSteps steps' steps = true := by
  fun_induction leSteps steps steps' with
  | case1 => exact .inl rfl
  | case2 => exact .inr rfl
  | case3 a as bs ih => simpa [leSteps] using ih
  | case4 a as b bs hne =>
    rw [leSteps, if_neg (Ne.symm hne)]
    exact a.le_total b

theorem leSteps_trans (h : leSteps steps steps' = true) (h' : leSteps steps' steps'' = true)
    : leSteps steps steps'' = true := by
  induction steps generalizing steps' steps'' with
  | nil => rfl
  | cons a as ih =>
    match steps', steps'' with
    | [], _ => cases h
    | _ :: _, [] => cases h'
    | b :: bs, c :: cs =>
      unfold leSteps at h h' ⊢
      -- the first step that differs decides, on either side of `b :: bs`
      by_cases hab : a = b
      . subst hab
        rw [if_pos rfl] at h
        split at h'
        . next hac =>
          rw [if_pos hac]
          exact ih h h'
        . next hac =>
          rw [if_neg hac]
          exact h'
      . rw [if_neg hab] at h
        split at h'
        . next hbc =>
          subst hbc
          rw [if_neg hab]
          exact h
        . have hac : a ≠ c := by
            rintro rfl
            exact hab (Component.le_antisymm h h')
          rw [if_neg hac]
          exact Component.le_trans h h'

theorem leSteps_antisymm (h : leSteps steps steps' = true) (h' : leSteps steps' steps = true)
    : steps = steps' := by
  fun_induction leSteps steps steps' with
  | case1 steps' =>
    cases steps' with
    | nil => rfl
    | cons step steps' => cases h'
  | case2 => cases h
  | case3 a as bs ih =>
    rw [leSteps, if_pos rfl] at h'
    rw [ih h h']
  | case4 a as b bs hne =>
    rw [leSteps, if_neg (Ne.symm hne)] at h'
    exact absurd (Component.le_antisymm h h') hne

end Steps

theorem le_total (p q : Path) : (p.le q || q.le p) = true :=
  Bool.or_eq_true_iff.2 (leSteps_total p.components q.components)

theorem le_trans (p q r : Path) (h : p.le q = true) (h' : q.le r = true) : p.le r = true :=
  leSteps_trans h h'

theorem same_of_le_of_le {p q : Path} (h : p.le q = true) (h' : q.le p = true) : p.Same q :=
  leSteps_antisymm h h'

theorem pairwise_mergeSort (paths : List Path)
    : (paths.mergeSort le).Pairwise (fun p q => p.le q = true) :=
  List.pairwise_mergeSort le_trans le_total paths

def Ordered (paths : List Path) : Prop :=
  paths.Pairwise (fun p q => p.le q = true ∧ ¬ p.Same q)

section Sorting

variable {paths paths' : List Path}

theorem ordered_mergeSort (h : paths.Pairwise (fun p q => ¬ p.Same q))
    : Ordered (paths.mergeSort le) := by
  have hsymm : ∀ {p q : Path}, ¬ p.Same q → ¬ q.Same p := fun hne hsame => hne hsame.symm
  have hperm := List.mergeSort_perm paths le
  exact (pairwise_mergeSort paths).and ((hperm.pairwise_iff hsymm).2 h)

theorem mergeSort_eq_of_perm (h : paths.Pairwise (fun p q => ¬ p.Same q))
    (hperm : paths.Perm paths')
    : paths.mergeSort le = paths'.mergeSort le := by
  have hsymm : Std.Symm (fun p q : Path => ¬ p.Same q) := ⟨fun _ _ hne hsame => hne hsame.symm⟩
  have hsorted : (paths.mergeSort le).Perm (paths'.mergeSort le) :=
    (List.mergeSort_perm paths le).trans (hperm.trans (List.mergeSort_perm paths' le).symm)
  refine hsorted.eq_of_pairwise ?_ (pairwise_mergeSort paths) (pairwise_mergeSort paths')
  intro p q hp hq hle hle'
  rw [List.mem_mergeSort] at hp hq
  by_contra hne
  exact h.forall hp (hperm.mem_iff.2 hq) hne (same_of_le_of_le hle hle')

end Sorting

/-! ### Below a place -/

section Below

variable {names rel : List String}

theorem ofNames_inj {names' : List String} (h : ∀ name ∈ names, IsStep name)
    (h' : ∀ name ∈ names', IsStep name) (heq : (ofNames names).Same (ofNames names'))
    : names = names' := by
  unfold Same at heq
  rw [components_ofNames h, components_ofNames h', List.cons.injEq] at heq
  exact Component.name_injective.list_map heq.2

theorem dropSteps_append {front : List (List Char)} (h : ∀ piece ∈ front, isIdle piece = false)
    (pieces : List (List Char))
    : dropSteps front.length (front ++ pieces) = pieces := by
  induction front with
  | nil => rw [List.length_nil, List.nil_append, dropSteps]
  | cons piece front ih =>
    rw [List.forall_mem_cons] at h
    rw [List.length_cons, List.cons_append, dropSteps, if_neg (by simp [h.1])]
    exact ih h.2

theorem body_ofNames (h : ∀ name ∈ names, IsStep name) (hne : names ≠ [])
    : (ofNames names).body = names.map String.toList := by
  have hanchor : (ofNames names).anchor = .root :=
    isAbsolute_iff_anchor.1 (isAbsolute_ofNames names)
  rw [body, hanchor, ofNames, ofParts, String.toList_ofList]
  exact segments_joinWith (by simpa using hne) (slash_not_mem_of_isStep h)

theorem isIdle_toList_of_isStep (h : ∀ name ∈ names, IsStep name)
    : ∀ piece ∈ names.map String.toList, isIdle piece = false := by
  intro piece hpiece
  obtain ⟨name, hname, rfl⟩ := List.mem_map.1 hpiece
  exact (h name hname).isIdle_eq

theorem dropWhile_isIdle {pieces : List (List Char)} (h : ∀ piece ∈ pieces, isIdle piece = false)
    : pieces.dropWhile isIdle = pieces := by
  cases pieces with
  | nil => rfl
  | cons piece pieces => rw [List.dropWhile_cons_of_neg (by simp [h])]

theorem below?_ofNames (h : ∀ name ∈ names ++ rel, IsStep name) (hne : rel ≠ [])
    : (ofNames names).below? (ofNames (names ++ rel)) = some ⟨joinStrings '/' rel⟩ := by
  obtain ⟨hnames, hrel⟩ := List.forall_mem_append.1 h
  have hanchor : (ofNames (names ++ rel)).anchor = .root :=
    isAbsolute_iff_anchor.1 (isAbsolute_ofNames _)
  have hleading : (ofNames names).components.isPrefixOf (ofNames (names ++ rel)).components := by
    rw [components_ofNames hnames, components_ofNames h, List.isPrefixOf_iff_prefix,
      List.map_append, ← List.cons_append]
    exact List.prefix_append _ _
  have hsteps : (ofNames names).components.length = (names.map String.toList).length + 1 := by
    simp [components_ofNames hnames]
  have hpieces := isIdle_toList_of_isStep hrel
  rw [below?, if_pos hleading, textBehind, hsteps, if_neg (by simp), hanchor,
    body_ofNames h (by simp [hne]), List.map_append]
  simp only [Anchor.components, List.length_singleton, Nat.add_sub_cancel]
  rw [dropSteps_append (isIdle_toList_of_isStep hnames), dropWhile_isIdle hpieces, dropIdleRight,
    dropWhile_isIdle (by simpa using hpieces), List.reverse_reverse, joinStrings]

end Below

end Path
end FeatureRunner
