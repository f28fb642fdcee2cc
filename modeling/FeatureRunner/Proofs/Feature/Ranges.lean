import FeatureRunner.Proofs.Feature.Reading
import Mathlib.Algebra.GroupWithZero.Nat

/-!
This module contains the ranges of lines that the sections of a file have. They follow each other
without a gap up to the last line of the file, so every line from the first section on is in exactly
one of them (`partition_ofText`), and that is the one found for it (`atLine?_eq_some`). Line numbers
have 32 bits; in a file with fewer lines none of them wraps around.
-/

namespace FeatureRunner

open FeatureRunner.Text

variable {lines : List (List Char)} {s : Section} {sections : List Section} {n first : Nat}

def Ascending (sections : List Section) : Prop :=
  sections.Pairwise fun s s' => s.endLine < s'.startLine

/-- The sections follow each other without a gap, from the line `first` to the last one of `n`
lines. -/
inductive Tiles (n : Nat) : Nat → List Section → Prop where
  | last {first : Nat} {s : Section} (hstart : s.startLine.toNat = first)
      (hle : s.startLine ≤ s.endLine) (hend : s.endLine.toNat + 1 = n)
      : Tiles n first [s]
  | cons {first : Nat} {s : Section} {sections : List Section} (hstart : s.startLine.toNat = first)
      (hle : s.startLine ≤ s.endLine) (hrest : Tiles n (s.endLine.toNat + 1) sections)
      : Tiles n first (s :: sections)

theorem Section.containsLine_iff {line : UInt32}
    : s.containsLine line = true ↔ s.startLine ≤ line ∧ line ≤ s.endLine := by
  simp [containsLine]

theorem Section.not_containsLine {s' : Section} (h : s.endLine < s'.startLine) {line : UInt32}
    (hline : s.containsLine line = true)
    : ¬ s'.containsLine line = true := by
  rw [containsLine_iff] at hline ⊢
  rintro ⟨hle, -⟩
  exact absurd (UInt32.le_trans hle hline.2) (UInt32.not_le.2 h)

theorem toNat_add_one {line : UInt32} (h : line.toNat + 1 < UInt32.size)
    : (line + 1).toNat = line.toNat + 1 := by
  rw [UInt32.toNat_add]
  exact Nat.mod_eq_of_lt h

theorem Section.toNat_lineCount (hle : s.startLine ≤ s.endLine)
    (hsize : s.endLine.toNat + 1 < UInt32.size)
    : s.startLine.toNat + s.lineCount.toNat = s.endLine.toNat + 1 := by
  have hsub : (s.endLine - s.startLine).toNat = s.endLine.toNat - s.startLine.toNat :=
    UInt32.toNat_sub_of_le _ _ hle
  rw [UInt32.le_iff_toNat_le] at hle
  rw [lineCount, UInt32.toNat_add, hsub, UInt32.toNat_one, Nat.mod_eq_of_lt]
  . omega
  . simp only [UInt32.size] at hsize
    omega

namespace Tiles

theorem lt (h : Tiles n first sections) : first < n := by
  induction h with
  | last hstart hle hend =>
    rw [UInt32.le_iff_toNat_le] at hle
    omega
  | cons hstart hle _ ih =>
    rw [UInt32.le_iff_toNat_le] at hle
    omega

theorem ne_nil (h : Tiles n first sections) : sections ≠ [] := by
  cases h <;> simp

theorem startLine_head? (h : Tiles n first sections) (hs : sections.head? = some s)
    : s.startLine.toNat = first := by
  cases h with
  | last hstart =>
    obtain rfl := Option.some.inj hs
    exact hstart
  | cons hstart =>
    obtain rfl := Option.some.inj hs
    exact hstart

theorem bounds_of_mem (h : Tiles n first sections) (hs : s ∈ sections)
    : first ≤ s.startLine.toNat ∧ s.startLine ≤ s.endLine ∧ s.endLine.toNat < n := by
  induction h with
  | last hstart hle hend =>
    obtain rfl := List.mem_singleton.1 hs
    exact ⟨by omega, hle, by omega⟩
  | cons hstart hle hrest ih =>
    rcases List.mem_cons.1 hs with rfl | hs
    . have hlt := hrest.lt
      exact ⟨by omega, hle, by omega⟩
    . obtain ⟨hfirst, hle', hlt⟩ := ih hs
      rw [UInt32.le_iff_toNat_le] at hle
      exact ⟨by omega, hle', hlt⟩

theorem ascending (h : Tiles n first sections) : Ascending sections := by
  induction h with
  | last => exact List.pairwise_singleton ..
  | cons hstart hle hrest ih =>
    refine .cons ?_ ih
    intro s' hs'
    have hbehind := (hrest.bounds_of_mem hs').1
    rw [UInt32.lt_iff_toNat_lt]
    omega

theorem startLines_ascending (h : Tiles n first sections)
    : sections.Pairwise fun s s' => s.startLine < s'.startLine := by
  apply h.ascending.imp_of_mem
  intro s s' hs _ hbefore
  exact UInt32.lt_of_le_of_lt (h.bounds_of_mem hs).2.1 hbefore

theorem contiguous (h : Tiles n first sections)
    : sections.IsChain fun s s' => s.endLine.toNat + 1 = s'.startLine.toNat := by
  induction h with
  | last => exact .singleton _
  | @cons _ s sections _ _ hrest ih =>
    cases sections with
    | nil => exact .singleton _
    | cons s' sections => exact .cons_cons (hrest.startLine_head? rfl).symm ih

theorem endLine_getLast? (h : Tiles n first sections) (hs : sections.getLast? = some s)
    : s.endLine.toNat + 1 = n := by
  induction h with
  | last _ _ hend =>
    obtain rfl := Option.some.inj hs
    exact hend
  | cons _ _ hrest ih =>
    rw [List.getLast?_cons_of_ne_nil hrest.ne_nil] at hs
    exact ih hs

theorem exists_containsLine_iff (h : Tiles n first sections) (line : UInt32)
    : (∃ s ∈ sections, s.containsLine line = true) ↔ first ≤ line.toNat ∧ line.toNat < n := by
  induction h with
  | last hstart hle hend =>
    rw [UInt32.le_iff_toNat_le] at hle
    simp only [List.mem_singleton, exists_eq_left, Section.containsLine_iff,
      UInt32.le_iff_toNat_le]
    omega
  | cons hstart hle hrest ih =>
    have hlt := hrest.lt
    rw [UInt32.le_iff_toNat_le] at hle
    rw [List.exists_mem_cons_iff, ih]
    simp only [Section.containsLine_iff, UInt32.le_iff_toNat_le]
    omega

theorem sum_lineCount (h : Tiles n first sections) (hn : n < UInt32.size)
    : first + (sections.map (·.lineCount.toNat)).sum = n := by
  induction h with
  | last hstart hle hend =>
    have hcount := Section.toNat_lineCount hle (by omega)
    simp only [List.map_cons, List.map_nil, List.sum_cons, List.sum_nil]
    omega
  | cons hstart hle hrest ih =>
    have hlt := hrest.lt
    have hcount := Section.toNat_lineCount hle (by omega)
    simp only [List.map_cons, List.sum_cons]
    omega

end Tiles

/-- The scenarios that open at line `i` and at the lines behind it reach from there to the end. -/
theorem tiles_of_covers {i : Nat} {indices : List Nat} (hn : n < UInt32.size)
    (hindices : (i :: indices).Pairwise (· < ·)) (hlt : ∀ j ∈ i :: indices, j < n)
    (h : List.Forall₂ (fun (j, next) => Covers lines j next)
      ((i :: indices).zip (indices ++ [n])) sections)
    : Tiles n i sections := by
  -- A section ends in front of the next index, where the rest of the sections goes on.
  induction indices generalizing i sections with
  | nil =>
    have hi : i < n := hlt i (by simp)
    cases h with
    | cons hcovers hnil =>
      cases hnil
      have hstart := congrArg UInt32.toNat hcovers.startLine
      have hend := congrArg UInt32.toNat hcovers.endLine
      rw [UInt32.toNat_ofNat_of_lt' (by omega)] at hstart hend
      exact .last hstart (by rw [UInt32.le_iff_toNat_le]; omega) (by omega)
  | cons next indices ih =>
    rw [List.pairwise_cons] at hindices
    rw [List.forall_mem_cons] at hlt
    have hi : i < next := hindices.1 next (by simp)
    have hnext : next < n := hlt.2 next (by simp)
    cases h with
    | cons hcovers hrest =>
      have hstart := congrArg UInt32.toNat hcovers.startLine
      have hend := congrArg UInt32.toNat hcovers.endLine
      rw [UInt32.toNat_ofNat_of_lt' (by omega)] at hstart hend
      refine .cons hstart (by rw [UInt32.le_iff_toNat_le]; omega) ?_
      rw [hend, Nat.sub_add_cancel (by omega)]
      exact ih hindices.2 hlt.2 hrest

theorem ScenarioAt.lt_length {i : Nat} (h : ScenarioAt lines i) : i < lines.length := by
  obtain ⟨line, kind, rest, hline, -⟩ := h
  exact (List.getElem?_eq_some_iff.1 hline).1

section

variable {text : String}

theorem length_trimmedLines (text : String)
    : (trimmedLines text).length = (lineChars text.toList).length :=
  List.length_map _

theorem tiles_ofText (hne : text ≠ "") (h : (lineChars text.toList).length < UInt32.size)
    : ∃ first, Tiles (lineChars text.toList).length first (Section.ofText text) := by
  rw [← length_trimmedLines] at h ⊢
  have hreading := reading_ofText text
  generalize Section.ofText text = sections at *
  cases hreading with
  | empty htext => exact absurd htext hne
  | @wholeFile s _ _ _ hstart hend =>
    have hpos : 0 < (trimmedLines text).length := by
      rw [length_trimmedLines, List.length_pos_iff, Ne, lineChars_eq_nil_iff]
      simpa using hne
    have hend := congrArg UInt32.toNat hend
    rw [UInt32.toNat_ofNat_of_lt' (by omega)] at hend
    refine ⟨0, .last ?_ ?_ (by omega)⟩
    . rw [hstart, UInt32.toNat_zero]
    . rw [hstart]
      exact UInt32.zero_le
  | @scenarios indices _ hindices hlines hcovers =>
    obtain ⟨i, indices, rfl⟩ := List.exists_cons_of_ne_nil hindices
    refine ⟨i, tiles_of_covers h hlines.ascending ?_ hcovers⟩
    intro j hj
    exact ((hlines.mem_iff j).1 hj).2.lt_length

theorem ofText_empty : Section.ofText "" = [] := by rfl

theorem ascending_ofText (h : (lineChars text.toList).length < UInt32.size)
    : Ascending (Section.ofText text) := by
  by_cases hne : text = ""
  . rw [hne, ofText_empty]
    exact .nil
  . obtain ⟨first, htiles⟩ := tiles_ofText hne h
    exact htiles.ascending

theorem bounds_of_mem_ofText (h : (lineChars text.toList).length < UInt32.size)
    (hs : s ∈ Section.ofText text)
    : s.startLine ≤ s.endLine ∧ s.endLine.toNat < (lineChars text.toList).length := by
  by_cases hne : text = ""
  . rw [hne, ofText_empty] at hs
    cases hs
  . obtain ⟨first, htiles⟩ := tiles_ofText hne h
    exact (htiles.bounds_of_mem hs).2

theorem startLine_lt_of_mem_ofText (h : (lineChars text.toList).length < UInt32.size)
    (hs : s ∈ Section.ofText text)
    : s.startLine.toNat < (lineChars text.toList).length := by
  obtain ⟨hle, hlt⟩ := bounds_of_mem_ofText h hs
  rw [UInt32.le_iff_toNat_le] at hle
  omega

end

theorem atLine?_eq_some {sections : List Section} (h : Ascending sections) (hs : s ∈ sections)
    {line : UInt32} (hline : s.containsLine line = true)
    : Section.atLine? sections line = some s := by
  unfold Section.atLine?
  induction h with
  | nil => cases hs
  | @cons first sections hfirst _ ih =>
    rcases List.mem_cons.1 hs with rfl | hs
    . exact List.find?_cons_of_pos hline
    . have hbehind : first.endLine < s.startLine := hfirst s hs
      have hpassed : ¬ first.containsLine line = true :=
        fun hfirst => Section.not_containsLine hbehind hfirst hline
      exact Eq.trans (List.find?_cons_of_neg hpassed) (ih hs)

theorem filter_containsLine (h : Ascending sections) (line : UInt32)
    : sections.filter (·.containsLine line) = (Section.atLine? sections line).toList := by
  induction h with
  | nil => rfl
  | @cons first sections hfirst _ ih =>
    unfold Section.atLine? at ih ⊢
    by_cases hline : first.containsLine line = true
    . have hnone : sections.filter (·.containsLine line) = [] := by
        rw [List.filter_eq_nil_iff]
        exact fun s hs => Section.not_containsLine (hfirst s hs) hline
      simp [hline, hnone]
    . simp [hline, ih]

/-- The sections share out the lines from the first section to the last one of `n` lines. -/
structure Partition (n : Nat) (sections : List Section) : Prop where
  ne_nil : sections ≠ []
  startLine_le_endLine : ∀ s ∈ sections, s.startLine ≤ s.endLine
  ascending : sections.Pairwise fun s s' => s.startLine < s'.startLine
  contiguous : sections.IsChain fun s s' => s.endLine.toNat + 1 = s'.startLine.toNat
  endLine_getLast? : ∀ s, sections.getLast? = some s → s.endLine.toNat + 1 = n
  /-- A section is found for the lines from the first section on. -/
  exists_atLine?_iff : ∀ s, sections.head? = some s → ∀ line,
    (∃ s', Section.atLine? sections line = some s') ↔ s.startLine ≤ line ∧ line.toNat < n
  /-- The section that is found for a line is the only one with it. -/
  filter_containsLine : ∀ line,
    sections.filter (·.containsLine line) = (Section.atLine? sections line).toList
  /-- The sections have all the lines but those above the first section. -/
  sum_lineCount : ∀ s, sections.head? = some s →
    s.startLine.toNat + (sections.map (·.lineCount.toNat)).sum = n

/-- The sections of a text that is not empty share out its lines, from the first scenario on if there
is one. -/
theorem partition_ofText {text : String} (hne : text ≠ "")
    (hsize : (lineChars text.toList).length < UInt32.size)
    : Partition (lineChars text.toList).length (Section.ofText text) := by
  obtain ⟨first, htiles⟩ := tiles_ofText hne hsize
  generalize Section.ofText text = sections at *
  refine ⟨htiles.ne_nil, fun s hs => (htiles.bounds_of_mem hs).2.1, htiles.startLines_ascending,
    htiles.contiguous, fun s hs => htiles.endLine_getLast? hs, ?_,
    filter_containsLine htiles.ascending, ?_⟩
  . intro s hs line
    rw [UInt32.le_iff_toNat_le, htiles.startLine_head? hs, ← htiles.exists_containsLine_iff line,
      ← List.find?_isSome, Option.isSome_iff_exists]
    rfl
  . intro s hs
    rw [htiles.startLine_head? hs]
    exact htiles.sum_lineCount hsize

def twoScenariosText : String :=
  "Feature: f\r\n@a\n  Scenario: s\r\n\n@b # c\nExample: t\n  * print 1\n\r"

theorem partition_ofText_twoScenarios
    : twoScenariosText ≠ "" ∧ (lineChars twoScenariosText.toList).length = 8
      ∧ Partition 8 (Section.ofText twoScenariosText)
      ∧ (Section.ofText twoScenariosText).map (fun s => (s.startLine, s.endLine, s.lineCount))
        = [(2, 4, 3), (5, 7, 3)]
      ∧ (Section.ofText twoScenariosText).filter (·.containsLine 5)
        = (Section.atLine? (Section.ofText twoScenariosText) 5).toList := by
  have hne : twoScenariosText ≠ "" := by decide
  have hlength : (lineChars twoScenariosText.toList).length = 8 := by decide +kernel
  have hpartition := partition_ofText hne (by rw [hlength]; decide)
  rw [hlength] at hpartition
  exact ⟨hne, hlength, hpartition, by decide +kernel, hpartition.filter_containsLine 5⟩

end FeatureRunner
