import FeatureRunner.Cli.Listing
import FeatureRunner.Proofs.Feature.Checked
import FeatureRunner.Proofs.Session.DebugTargets
import FeatureRunner.Target.OfFeature

/-!
This module contains the line numbers that are made of those of sections: the numbers that count
from one in targets and in listings, the number of lines of a section, and the line to attach a
debugger at. Each of the functions has a checked form here, which gives nothing where a number would
not have 32 bits. The main statement is `unwrapped_ofText`: for a text of less than 2^32 lines the
checked forms give what the functions give.
-/

namespace FeatureRunner

open FeatureRunner.Text Checked

def TestTarget.ofSection? (path : Path) (s : Section) : Option TestTarget := do
  let line ← s.displayLine?
  pure
    { ofPath path .test with
      options := withLine (pathOption path) line
      jarOptions := quoted (withLine path.text line)
      sectionLine := some s.startLine
      runTitle := title runLabel s.tags
      debugTitle := title debugLabel s.tags }

namespace Cli.Listing

def ofSection? (s : Section) (i : Nat) : Option (List String) := do
  let first ← add? s.startLine 1
  let last ← add? s.endLine 1
  let title := if s.title.isEmpty then "(untitled)" else s.title
  pure <|
    [Numeral.decimal (i + 1) ++ ". " ++ s.kind.label ++ ": " ++ title,
     "   📏 Lines: " ++ Numeral.decimal first.toNat ++ "-" ++ Numeral.decimal last.toNat] ++
    if s.tags.toList.isEmpty then []
    else ["   🏷️  Tags: " ++ joinStrings ' ' s.tags.toList]

def ofSections? (sections : List Section) : Option (List String) :=
  if sections.isEmpty then some ["ℹ️  No sections found"]
  else (sections.zipIdx.mapM fun numbered => ofSection? numbered.1 numbered.2).map List.flatten

def ofDebugTarget? (t : DebugTarget) : Option (List String) := do
  let place ←
    match t.line with
    | some line => do
      let number ← add? line 1
      pure (t.file.text ++ ":" ++ Numeral.decimal number.toNat)
    | none => pure t.file.text
  pure ["🐞 Debug server port: " ++ Numeral.decimal t.port.toNat, "   Attach at " ++ place]

end Cli.Listing

open Cli

/-- No operation on the line numbers of a text wraps around. -/
structure Unwrapped (text : String) : Prop where
  ofText? : Section.ofText? text = some (Section.ofText text)
  lineCount? : ∀ s ∈ Section.ofText text, s.lineCount? = some s.lineCount
  ofSection? : ∀ s ∈ Section.ofText text, ∀ path,
    TestTarget.ofSection? path s = some (TestTarget.ofSection path s)
  /-- Sections that are selected from those of the text can be listed. -/
  ofSections? : ∀ shown ⊆ Section.ofText text,
    Listing.ofSections? shown = some (Listing.ofSections shown)
  /-- The listener can be told about the debug target of a request that is aimed at a line of the
  text. -/
  ofDebugTarget? : ∀ (e : Entry) (mode : Mode) (q : Request) (r : Replies) (path : Path)
    (line : UInt32), e.started? = some (mode, q, r) →
      q.target.sectionLine = (TestTarget.atLine path text line).sectionLine →
      ∀ target ∈ e.told, Listing.ofDebugTarget? target = some (Listing.ofDebugTarget target)

section

variable {s : Section}

theorem Section.lineCount?_eq_some (hle : s.startLine ≤ s.endLine)
    (hend : s.endLine.toNat + 1 < UInt32.size)
    : s.lineCount? = some s.lineCount := by
  rw [lineCount?, sub?_eq_some hle]
  apply add?_eq_some
  rw [UInt32.toNat_sub_of_le _ _ hle, UInt32.toNat_one]
  omega

/-- A section of 2^32 lines has no number of lines with 32 bits. -/
example (tags : TagSet) : (Section.mk 0 4294967295 tags "" .scenario).lineCount? = none := by
  rfl

theorem Section.displayLine?_eq_some (hstart : s.startLine.toNat + 1 < UInt32.size)
    : s.displayLine? = some s.displayLine :=
  add?_eq_some hstart

theorem TestTarget.ofSection?_eq_some (hstart : s.startLine.toNat + 1 < UInt32.size) (path : Path)
    : ofSection? path s = some (ofSection path s) := by
  rw [ofSection?, Section.displayLine?_eq_some hstart]
  rfl

end

namespace Cli.Listing

theorem ofSection?_eq_some {s : Section} (hstart : s.startLine.toNat + 1 < UInt32.size)
    (hend : s.endLine.toNat + 1 < UInt32.size) (i : Nat)
    : ofSection? s i = some (ofSection s i) := by
  rw [ofSection?, add?_eq_some hstart, add?_eq_some hend]
  rfl

theorem ofSections?_eq_some {sections : List Section}
    (h : ∀ s ∈ sections,
      s.startLine.toNat + 1 < UInt32.size ∧ s.endLine.toNat + 1 < UInt32.size)
    : ofSections? sections = some (ofSections sections) := by
  have hlines : sections.zipIdx.mapM (fun numbered => ofSection? numbered.1 numbered.2)
      = some (sections.zipIdx.map fun numbered => ofSection numbered.1 numbered.2) := by
    apply mapM_eq_some_map
    intro numbered hnumbered
    obtain ⟨hstart, hend⟩ := h numbered.1 (List.fst_mem_of_mem_zipIdx hnumbered)
    exact ofSection?_eq_some hstart hend numbered.2
  unfold ofSections? ofSections
  split
  . rfl
  . rw [hlines]
    rfl

theorem ofDebugTarget?_eq_some {target : DebugTarget}
    (h : ∀ line ∈ target.line, line.toNat + 1 < UInt32.size)
    : ofDebugTarget? target = some (ofDebugTarget target) := by
  unfold ofDebugTarget? ofDebugTarget
  cases hline : target.line with
  | none => rfl
  | some line =>
    dsimp only
    rw [add?_eq_some (h line hline)]
    rfl

end Cli.Listing

theorem Entry.line_of_mem_told {e : Entry} {mode : Mode} {q : Request} {r : Replies}
    {target : DebugTarget} (h : e.started? = some (mode, q, r)) (htarget : target ∈ e.told)
    : target.line = q.target.sectionLine := by
  have hrecorded : e.session.recorded? r mode q = some target := by
    rcases e.told_cases with ⟨-, htold⟩ | ⟨-, htold⟩
    . simpa [htold, recorded?, h] using htarget
    . simp [htold] at htarget
  unfold Session.recorded? at hrecorded
  split at hrecorded
  . obtain rfl := Option.some.inj hrecorded
    rfl
  . cases hrecorded

theorem TestTarget.exists_of_sectionLine_atLine {path : Path} {text : String} {line first : UInt32}
    (h : (atLine path text line).sectionLine = some first)
    : ∃ s ∈ Section.ofText text, s.startLine = first := by
  unfold atLine at h
  split at h
  . next s hs =>
    split at h
    . cases h
    . exact ⟨s, List.mem_of_find?_eq_some hs, Option.some.inj h⟩
  . cases h

/-- In a text of less than 2^32 lines no operation on line numbers wraps around, from the reading of
the sections to what is shown of them. -/
theorem unwrapped_ofText {text : String} (h : (lineChars text.toList).length < UInt32.size)
    : Unwrapped text := by
  have hbounds (s : Section) (hs : s ∈ Section.ofText text) : s.startLine ≤ s.endLine
      ∧ s.startLine.toNat + 1 < UInt32.size ∧ s.endLine.toNat + 1 < UInt32.size := by
    obtain ⟨hle, hlt⟩ := bounds_of_mem_ofText h hs
    refine ⟨hle, ?_, by omega⟩
    rw [UInt32.le_iff_toNat_le] at hle
    omega
  refine ⟨Section.ofText?_eq_some h, ?_, ?_, ?_, ?_⟩
  . intro s hs
    obtain ⟨hle, -, hend⟩ := hbounds s hs
    exact Section.lineCount?_eq_some hle hend
  . intro s hs path
    obtain ⟨-, hstart, -⟩ := hbounds s hs
    exact TestTarget.ofSection?_eq_some hstart path
  . intro shown hshown
    apply Listing.ofSections?_eq_some
    intro s hs
    exact (hbounds s (hshown hs)).2
  . intro e mode q r path line hstarted haim target htarget
    apply Listing.ofDebugTarget?_eq_some
    intro first hfirst
    rw [Entry.line_of_mem_told hstarted htarget, haim] at hfirst
    obtain ⟨s, hs, rfl⟩ := TestTarget.exists_of_sectionLine_atLine hfirst
    exact (hbounds s hs).2.1

def adjacentScenarios : String :=
  "Scenario: a\nScenario Outline: b\n\n@t\nExample: c"

def aimedEntry : Entry where
  session := .start .default .posix
  turn := .request .debug ⟨.atLine ⟨"/p/a.feature"⟩ adjacentScenarios 2, .debug⟩
    (jarReplies secondTask)

theorem unwrapped_ofText_adjacentScenarios
    : (lineChars adjacentScenarios.toList).length < UInt32.size
      ∧ Unwrapped adjacentScenarios
      ∧ (Section.ofText? adjacentScenarios).map (·.map fun s => (s.startLine, s.endLine))
          = some [(0, 0), (1, 3), (4, 4)]
      ∧ aimedEntry.told = [⟨⟨"/p/a.feature"⟩, some 1, 49152⟩]
      ∧ Listing.ofDebugTarget? ⟨⟨"/p/a.feature"⟩, some 1, 49152⟩
          = some ["🐞 Debug server port: 49152", "   Attach at /p/a.feature:2"] := by
  have hlength : (lineChars adjacentScenarios.toList).length < UInt32.size := by
    decide +kernel
  have htold : aimedEntry.told = [⟨⟨"/p/a.feature"⟩, some 1, 49152⟩] := by
    decide +kernel
  have h := unwrapped_ofText hlength
  refine ⟨hlength, h, ?_, htold, ?_⟩
  . rw [h.ofText?]
    decide +kernel
  . rw [h.ofDebugTarget? aimedEntry .debug _ (jarReplies secondTask) ⟨"/p/a.feature"⟩ 2 rfl rfl _
      (htold ▸ List.mem_singleton_self _)]
    decide +kernel

end FeatureRunner
