import FeatureRunner.Text.Blank
import Mathlib.Data.List.DropRight

/-!
This module contains what is left of a text when it is trimmed: the piece between the blanks at its
ends, which neither begins nor ends with a blank. `trimChars_eq_iff` says that there is only one such
piece, so trimming once more changes nothing (`trim_trim`).
-/

namespace FeatureRunner.Text

variable {cs blanks middle : List Char}

theorem trimChars_append_blanks (h : ∀ c ∈ blanks, isBlank c = true) (cs : List Char)
    : trimChars (cs ++ blanks) = trimChars cs := by
  have hright (ds : List Char) : trimRight (ds ++ blanks) = trimRight ds := by
    unfold trimRight
    rw [List.reverse_append, List.dropWhile_append_of_pos]
    intro c hc
    exact h c (List.mem_reverse.1 hc)
  unfold trimChars trimLeft
  rw [List.dropWhile_append]
  split
  . next hempty =>
    rw [List.isEmpty_iff.1 hempty, List.dropWhile_eq_nil_iff.2 h]
  . exact hright _

theorem trimChars_blanks_append (h : ∀ c ∈ blanks, isBlank c = true) (cs : List Char)
    : trimChars (blanks ++ cs) = trimChars cs := by
  unfold trimChars trimLeft
  rw [List.dropWhile_append_of_pos h]

theorem trimChars_eq_nil_iff : trimChars cs = [] ↔ ∀ c ∈ cs, isBlank c = true := by
  have hright (cs : List Char) : trimRight cs = [] ↔ ∀ c ∈ cs, isBlank c = true := by
    simp [trimRight, List.dropWhile_eq_nil_iff]
  have hleft : (∀ c ∈ trimLeft cs, isBlank c = true) ↔ ∀ c ∈ cs, isBlank c = true := by
    constructor
    . intro h c hc
      rw [← List.takeWhile_append_dropWhile (p := isBlank) (l := cs), List.mem_append] at hc
      rcases hc with hc | hc
      . exact List.mem_takeWhile_imp hc
      . exact h c hc
    . intro h c hc
      exact h c ((List.dropWhile_sublist _).mem hc)
  rw [trimChars, hright, hleft]

/-- The text neither begins nor ends with a blank. -/
structure IsTight (cs : List Char) : Prop where
  head : ∀ c ∈ cs.head?, isBlank c = false
  last : ∀ c ∈ cs.getLast?, isBlank c = false

/-- There are only blanks in front of the piece and behind it. -/
def LiesInBlanks (middle cs : List Char) : Prop :=
  ∃ front back, cs = front ++ middle ++ back
    ∧ (∀ c ∈ front, isBlank c = true) ∧ ∀ c ∈ back, isBlank c = true

theorem trimRight_eq (cs : List Char) : trimRight cs = cs.rdropWhile isBlank := rfl

theorem isTight_trimChars (cs : List Char) : IsTight (trimChars cs) := by
  rw [trimChars, trimRight_eq, trimLeft]
  constructor
  . intro c hc
    -- What is cut off at the end leaves the first character as it is.
    obtain ⟨rest, hrest⟩ := List.rdropWhile_prefix isBlank (l := cs.dropWhile isBlank)
    have hhead := List.head?_dropWhile_not isBlank cs
    rw [← hrest, List.head?_append, hc] at hhead
    simpa using hhead
  . intro c hc
    have hne : (cs.dropWhile isBlank).rdropWhile isBlank ≠ [] := by
      intro hnil
      simp [hnil] at hc
    rw [List.getLast?_eq_some_getLast hne] at hc
    obtain rfl := Option.some.inj hc
    simpa using List.rdropWhile_last_not isBlank _ hne

theorem liesInBlanks_trimChars (cs : List Char) : LiesInBlanks (trimChars cs) cs := by
  refine ⟨cs.takeWhile isBlank, (trimLeft cs).rtakeWhile isBlank, ?_, ?_, ?_⟩
  . rw [trimChars, trimRight_eq, List.append_assoc, List.rdropWhile_append_rtakeWhile, trimLeft,
      List.takeWhile_append_dropWhile]
  . intro c hc
    exact List.mem_takeWhile_imp hc
  . intro c hc
    exact List.mem_rtakeWhile_imp hc

theorem mem_of_mem_trimChars {c : Char} (h : c ∈ trimChars cs) : c ∈ cs := by
  obtain ⟨front, back, heq, -⟩ := liesInBlanks_trimChars cs
  rw [heq]
  simp [h]

theorem trimChars_of_isTight (h : IsTight cs) : trimChars cs = cs := by
  have hleft : trimLeft cs = cs := by
    cases cs with
    | nil => rfl
    | cons c cs => simp [trimLeft, h.head c rfl]
  rw [trimChars, hleft, trimRight_eq, List.rdropWhile_eq_self_iff]
  intro hne
  simp [h.last _ (List.getLast?_eq_some_getLast hne)]

/-- Trimming gives the piece between blanks that neither begins nor ends with one. -/
theorem trimChars_eq_iff : trimChars cs = middle ↔ IsTight middle ∧ LiesInBlanks middle cs := by
  constructor
  . rintro rfl
    exact ⟨isTight_trimChars cs, liesInBlanks_trimChars cs⟩
  . rintro ⟨htight, front, back, rfl, hfront, hback⟩
    rw [trimChars_append_blanks hback, trimChars_blanks_append hfront, trimChars_of_isTight htight]

theorem isTight_append {as bs : List Char} (ha : IsTight as) (hb : IsTight bs) (hane : as ≠ [])
    (hbne : bs ≠ []) (middle : List Char)
    : IsTight (as ++ middle ++ bs) where
  head := by
    rw [List.append_assoc, List.head?_append_of_ne_nil _ hane]
    exact ha.head
  last := by
    rw [List.getLast?_append_of_ne_nil _ hbne]
    exact hb.last

theorem isEmpty_trim_iff {s : String}
    : (trim s).isEmpty = true ↔ ∀ c ∈ s.toList, isBlank c = true := by
  rw [String.isEmpty_iff, ← String.toList_inj, toList_trim]
  exact trimChars_eq_nil_iff

theorem trim_eq_iff {s middle : String}
    : trim s = middle ↔ IsTight middle.toList ∧ LiesInBlanks middle.toList s.toList := by
  rw [← String.toList_inj, toList_trim, trimChars_eq_iff]

theorem isTight_trim (s : String) : IsTight (trim s).toList := by
  rw [toList_trim]
  exact isTight_trimChars s.toList

theorem trim_of_isTight {s : String} (h : IsTight s.toList) : trim s = s := by
  rw [← String.toList_inj, toList_trim, trimChars_of_isTight h]

@[simp]
theorem trim_trim (s : String) : trim (trim s) = trim s :=
  trim_of_isTight (isTight_trim s)

end FeatureRunner.Text
