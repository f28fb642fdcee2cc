/-!
This module contains the cutting of a list at every occurrence of one element, and its inverse on
characters. A text with `n` separators has `n + 1` segments. The main statements are
`joinWith_segments` and `segments_joinWith`.
-/

namespace FeatureRunner.Text

section

variable {α : Type} [DecidableEq α]

def segments (sep : α) : List α → List (List α)
  | [] => [[]]
  | c :: cs =>
    if c = sep then
      [] :: segments sep cs
    else
      match segments sep cs with
      | [] => [[c]]
      | s :: ss => (c :: s) :: ss

theorem segments_ne_nil (sep : α) (cs : List α) : segments sep cs ≠ [] := by
  fun_induction segments sep cs <;> simp

theorem not_mem_of_mem_segments {sep : α} {cs s : List α} (h : s ∈ segments sep cs)
    : sep ∉ s := by
  fun_induction segments sep cs generalizing s with
  | case1 => simp_all
  | case2 cs ih => grind
  | case3 c cs hc hs => exact absurd hs (segments_ne_nil sep cs)
  | case4 c cs hc t ts hs ih => grind

theorem segments_of_not_mem {sep : α} {cs : List α} (h : sep ∉ cs) : segments sep cs = [cs] := by
  induction cs with
  | nil => rfl
  | cons c cs ih =>
    rw [List.mem_cons, not_or] at h
    rw [segments, if_neg (Ne.symm h.1), ih h.2]

theorem segments_append_cons (sep : α) (cs ds : List α)
    : segments sep (cs ++ sep :: ds) = segments sep cs ++ segments sep ds := by
  fun_induction segments sep cs with
  | case1 => simp [segments]
  | case2 cs ih => simp [segments, ih]
  | case3 c cs hc hs => exact absurd hs (segments_ne_nil sep cs)
  | case4 c cs hc t ts hs ih => simp [segments, hc, ih, hs]

end

def joinWith (sep : Char) : List (List Char) → List Char
  | [] => []
  | [s] => s
  | s :: t :: ss => s ++ sep :: joinWith sep (t :: ss)

def joinStrings (sep : Char) (ss : List String) : String :=
  String.ofList (joinWith sep (ss.map String.toList))

theorem joinWith_eq_append (sep : Char) (s : List Char) (ss : List (List Char))
    : ∃ tail, joinWith sep (s :: ss) = s ++ tail := by
  cases ss with
  | nil => exact ⟨[], by simp [joinWith]⟩
  | cons t ss => exact ⟨sep :: joinWith sep (t :: ss), rfl⟩

theorem joinStrings_singleton (sep : Char) (s : String) : joinStrings sep [s] = s := by
  simp [joinStrings, joinWith]

theorem joinStrings_cons (s t : String) (ss : List String)
    : joinStrings ' ' (s :: t :: ss) = s ++ " " ++ joinStrings ' ' (t :: ss) := by
  apply String.toList_inj.1
  simp [joinStrings, joinWith]

theorem isEmpty_joinStrings_cons {sep : Char} {s : String} (h : s.isEmpty = false)
    (ss : List String)
    : (joinStrings sep (s :: ss)).isEmpty = false := by
  obtain ⟨tail, htail⟩ := joinWith_eq_append sep s.toList (ss.map String.toList)
  rw [Bool.eq_false_iff, Ne, String.isEmpty_iff] at h ⊢
  intro hempty
  apply h
  rw [← String.toList_eq_nil_iff, joinStrings, String.toList_ofList, List.map_cons, htail,
    List.append_eq_nil_iff] at hempty
  exact String.toList_eq_nil_iff.1 hempty.1

theorem joinWith_segments (sep : Char) (cs : List Char) : joinWith sep (segments sep cs) = cs := by
  fun_induction segments sep cs with
  | case1 => rfl
  | case2 cs ih =>
    cases h : segments sep cs with
    | nil => exact absurd h (segments_ne_nil sep cs)
    | cons s ss => rw [h] at ih; simp [joinWith, ih]
  | case3 c cs hc h => exact absurd h (segments_ne_nil sep cs)
  | case4 c cs hc s ss h ih =>
    rw [h] at ih
    cases ss <;> simp_all [joinWith]

theorem segments_joinWith {sep : Char} {ss : List (List Char)} (hne : ss ≠ [])
    (h : ∀ s ∈ ss, sep ∉ s)
    : segments sep (joinWith sep ss) = ss := by
  fun_induction joinWith sep ss with
  | case1 => exact absurd rfl hne
  | case2 s => exact segments_of_not_mem (h s (by simp))
  | case3 s t ss ih =>
    rw [List.forall_mem_cons] at h
    rw [segments_append_cons, segments_of_not_mem h.1, ih (by simp) h.2]
    rfl

end FeatureRunner.Text
