import FeatureRunner.Cli.Location
import FeatureRunner.Proofs.Feature.Ranges
import FeatureRunner.Target.OfFeature

/-!
This module contains the way from a line of a feature file to its target and back. The address in
the options of a section's target is read as the path and the first line of the section
(`Location.ofText_withLine`), whatever colons the path has; `atLine_isAddressed` says that every line
of the section leads there.
-/

namespace FeatureRunner

open FeatureRunner.Text

namespace Location

theorem splitLastColon?_eq_none {cs : List Char} (h : ':' ∉ cs) : splitLastColon? cs = none := by
  induction cs with
  | nil => rfl
  | cons c cs ih =>
    rw [List.mem_cons, not_or] at h
    simp [splitLastColon?, ih h.2, Ne.symm h.1]

theorem splitLastColon?_append {back : List Char} (h : ':' ∉ back) (front : List Char)
    : splitLastColon? (front ++ ':' :: back) = some (front, back) := by
  induction front with
  | nil => simp [splitLastColon?, splitLastColon?_eq_none h]
  | cons c front ih => simp [splitLastColon?, ih]

theorem lineNumber?_decimal (n : UInt32) : lineNumber? (Numeral.decimal n.toNat).toList = some n := by
  have hvalue := Numeral.value?_decimal n.toNat
  have hplus : '+' ∉ (Numeral.decimal n.toNat).toList := by
    rw [Numeral.decimal, String.toList_ofList]
    exact Numeral.not_mem_decimalChars (by decide) _
  generalize (Numeral.decimal n.toNat).toList = digits at *
  unfold lineNumber?
  split
  . simp at hplus
  . simp [hvalue, n.toNat_lt_size]

theorem fromZero_add_one {n : UInt32} (h : n.toNat + 1 < UInt32.size) : fromZero (n + 1) = n := by
  have hne : n + 1 ≠ 0 := by
    intro hzero
    have htoNat := congrArg UInt32.toNat hzero
    rw [UInt32.toNat_add, UInt32.toNat_zero] at htoNat
    simp only [UInt32.size] at h
    simp at htoNat
    omega
  rw [fromZero, if_neg hne]
  exact UInt32.add_sub_cancel n 1

theorem ofText_withLine (path : Path) {line : UInt32} (h : line.toNat + 1 < UInt32.size)
    : ofText (TestTarget.withLine path.text (line + 1)) = ⟨path, some line⟩ := by
  have hcolon : ':' ∉ (Numeral.decimal (line + 1).toNat).toList := by
    rw [Numeral.decimal, String.toList_ofList]
    exact Numeral.not_mem_decimalChars (by decide) _
  have htext : (TestTarget.withLine path.text (line + 1)).toList
      = path.text.toList ++ ':' :: (Numeral.decimal (line + 1).toNat).toList := by
    simp [TestTarget.withLine]
  simp only [ofText, htext, splitLastColon?_append hcolon, lineNumber?_decimal, fromZero_add_one h,
    String.ofList_toList]

end Location

namespace TestTarget

def unquoted (s : String) : String :=
  String.ofList (s.toList.drop 1).dropLast

@[simp]
theorem unquoted_quoted (s : String) : unquoted (quoted s) = s := by
  simp [unquoted, quoted]

/-- The target is the one of section number `i` of the text, and its address leads back to it. -/
structure IsAddressed (path : Path) (text : String) (i : Nat) (s : Section) (t : TestTarget)
    : Prop where
  target : t = ofSection path s
  listed : (ofText path text)[i]? = some t
  location : Location.ofText (unquoted t.jarOptions) = ⟨path, some s.startLine⟩
  again : atLine path text s.startLine = t

variable {path : Path} {text : String} {s : Section} {line : UInt32}

theorem atLine_eq_of_containsLine (hlines : (lineChars text.toList).length < UInt32.size)
    (hs : s ∈ Section.ofText text) (hline : s.containsLine line = true)
    : atLine path text line
        =
      if s.kind = .feature then ofPath path .file else ofSection path s := by
  unfold atLine
  rw [atLine?_eq_some (ascending_ofText hlines) hs hline]

theorem ofFileSection_of_scenario (h : s.kind ≠ .feature)
    : ofFileSection path s = ofSection path s := by
  unfold ofFileSection
  split
  . next hkind => exact absurd hkind h
  . rfl
  . rfl

theorem atLine_scenario (hlines : (lineChars text.toList).length < UInt32.size) {i : Nat}
    (hs : (Section.ofText text)[i]? = some s) (hkind : s.kind ≠ .feature)
    (hline : s.containsLine line = true)
    : IsAddressed path text i s (atLine path text line) := by
  have hmem : s ∈ Section.ofText text := List.mem_of_getElem? hs
  have hfirst : s.containsLine s.startLine = true := by
    rw [Section.containsLine_iff] at hline ⊢
    exact ⟨UInt32.le_refl _, UInt32.le_trans hline.1 hline.2⟩
  have hstart := startLine_lt_of_mem_ofText hlines hmem
  rw [atLine_eq_of_containsLine hlines hmem hline, if_neg hkind]
  refine ⟨rfl, ?_, ?_, ?_⟩
  . rw [ofText, List.getElem?_map, hs, Option.map_some, ofFileSection_of_scenario hkind]
  . rw [ofSection, unquoted_quoted]
    exact Location.ofText_withLine path (by omega)
  . rw [atLine_eq_of_containsLine hlines hmem hfirst, if_neg hkind]

/-- The lines of a section lead to its target, whose address leads back to the section. A line of a
file without scenarios, and one outside of all sections, leads to the file as a whole. -/
theorem atLine_isAddressed (path : Path) {text : String}
    (hlines : (lineChars text.toList).length < UInt32.size)
    : (∀ (i : Nat) (s : Section), (Section.ofText text)[i]? = some s → s.kind ≠ .feature →
        ∀ line, s.startLine ≤ line → line ≤ s.endLine →
          IsAddressed path text i s (atLine path text line))
      ∧ (∀ line, (∀ s ∈ Section.ofText text, ¬ (s.startLine ≤ line ∧ line ≤ s.endLine)) →
          atLine path text line = ofPath path .file)
      ∧ (∀ (i : Nat) (s : Section), (Section.ofText text)[i]? = some s → s.kind = .feature →
          ∀ line, s.startLine ≤ line → line ≤ s.endLine →
            atLine path text line = ofPath path .file
            ∧ (ofText path text)[i]?
                = some { atLine path text line with sectionLine := some s.startLine }) := by
  refine ⟨?_, ?_, ?_⟩
  . intro i s hs hkind line hstart hend
    exact atLine_scenario hlines hs hkind (Section.containsLine_iff.2 ⟨hstart, hend⟩)
  . intro line hnone
    have hfind : Section.atLine? (Section.ofText text) line = none := by
      rw [Section.atLine?, List.find?_eq_none]
      intro s hs
      rw [Section.containsLine_iff]
      exact hnone s hs
    rw [atLine, hfind]
  . intro i s hs hkind line hstart hend
    have hline : atLine path text line = ofPath path .file := by
      rw [atLine_eq_of_containsLine hlines (List.mem_of_getElem? hs)
        (Section.containsLine_iff.2 ⟨hstart, hend⟩), if_pos hkind]
    refine ⟨hline, ?_⟩
    rw [hline, ofText, List.getElem?_map, hs, Option.map_some]
    unfold ofFileSection
    rw [hkind]

def outlineText : String :=
  "Feature: f\n@a\nScenario: s\n\n@b\nScenario Outline: o\n  Examples:\n"

theorem atLine_isAddressed_outlineText
    : (lineChars outlineText.toList).length < UInt32.size
      ∧ ∃ s, (Section.ofText outlineText)[1]? = some s
          ∧ IsAddressed ⟨"c:/f\":7"⟩ outlineText 1 s (atLine ⟨"c:/f\":7"⟩ outlineText 6)
          ∧ (atLine ⟨"c:/f\":7"⟩ outlineText 6).jarOptions = "\"c:/f\":7:6\"" := by
  have hlines : (lineChars outlineText.toList).length < UInt32.size := by decide +kernel
  have hsections : (Section.ofText outlineText)[1]?
      = some ⟨5, 6, .ofList ["@b"], "o", .scenarioOutline⟩ := by decide +kernel
  refine ⟨hlines, _, hsections, ?_, by decide +kernel⟩
  exact (atLine_isAddressed _ hlines).1 1 _ hsections nofun 6 (by decide) (by decide)

end TestTarget
end FeatureRunner
