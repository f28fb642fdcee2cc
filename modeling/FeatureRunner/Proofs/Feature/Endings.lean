import FeatureRunner.Proofs.Feature.Reading
import FeatureRunner.Proofs.Text.Trimming

/-!
This module contains what does not matter in a feature file: how its lines end, and the blanks
around them. A line says what its trimmed characters say, and the carriage return of a line ending
is a blank; so the sections depend on the trimmed lines only (`ofText_congr`). The main statement is
`ofText_fileText_congr`.
-/

namespace FeatureRunner

open FeatureRunner.Text

namespace Text

variable {cs : List Char}

theorem trimChars_append_return (cs : List Char) : trimChars (cs ++ ['\r']) = trimChars cs := by
  apply trimChars_append_blanks
  intro c hc
  rw [List.mem_singleton.1 hc]
  rfl

namespace lineChars

theorem trimChars_close (line : List Char) : trimChars (close line) = trimChars line.reverse := by
  unfold close
  split
  . rw [List.reverse_cons, trimChars_append_return]
  . rfl

theorem map_trimChars_go_append (h : '\n' ∉ cs) (line rest : List Char)
    : (go line (cs ++ '\n' :: rest)).map trimChars
        =
      trimChars (line.reverse ++ cs) :: (lineChars rest).map trimChars := by
  induction cs generalizing line with
  | nil =>
    rw [List.nil_append, go, if_pos rfl, List.map_cons, trimChars_close, List.append_nil]
    rfl
  | cons c cs ih =>
    rw [List.mem_cons, not_or] at h
    rw [List.cons_append, go, if_neg (Ne.symm h.1), ih h.2, List.reverse_cons, List.append_assoc]
    rfl

end lineChars
end Text

inductive LineEnding where
  | unix
  | windows

namespace LineEnding

def chars : LineEnding → List Char
  | unix => ['\n']
  | windows => ['\r', '\n']

def replaced (ending : LineEnding) (text : String) : String :=
  String.ofList (text.toList.flatMap fun c => if c = '\n' then ending.chars else [c])

theorem map_trimChars_go_flatMap (ending : LineEnding) (line cs : List Char)
    : (lineChars.go line (cs.flatMap fun c => if c = '\n' then ending.chars else [c])).map trimChars
        =
      (lineChars.go line cs).map trimChars := by
  induction cs generalizing line with
  | nil => rfl
  | cons c cs ih =>
    rw [List.flatMap_cons]
    by_cases hc : c = '\n'
    -- With the other ending the line that is closed has one carriage return more, which is trimmed.
    . subst hc
      rw [if_pos rfl, lineChars.go, if_pos rfl, List.map_cons, ← ih]
      cases ending with
      | unix => rfl
      | windows =>
        rw [chars, List.cons_append, List.cons_append, List.nil_append, lineChars.go,
          if_neg (by decide), lineChars.go, if_pos rfl, List.map_cons, lineChars.trimChars_close,
          lineChars.trimChars_close, List.reverse_cons, trimChars_append_return]
    . rw [if_neg hc, List.singleton_append, lineChars.go, if_neg hc, lineChars.go, if_neg hc, ih]

end LineEnding

structure Margin where
  chars : List Char
  blank : ∀ c ∈ chars, isBlank c = true
  noFeed : '\n' ∉ chars

structure EndedLine where
  chars : List Char
  ending : LineEnding
  noFeed : '\n' ∉ chars

namespace EndedLine

def trimmed (l : EndedLine) : List Char :=
  trimChars l.chars

def between (l : EndedLine) (left right : Margin) : EndedLine where
  chars := left.chars ++ l.chars ++ right.chars
  ending := l.ending
  noFeed := by simp [left.noFeed, l.noFeed, right.noFeed]

def fileText (lines : List EndedLine) : String :=
  String.ofList (lines.flatMap fun l => l.chars ++ l.ending.chars)

theorem trimmed_between (l : EndedLine) (left right : Margin)
    : (l.between left right).trimmed = l.trimmed := by
  unfold trimmed between
  rw [trimChars_append_blanks right.blank, trimChars_blanks_append left.blank]

theorem map_trimChars_lineChars_append (l : EndedLine) (rest : List Char)
    : (lineChars (l.chars ++ l.ending.chars ++ rest)).map trimChars
        =
      l.trimmed :: (lineChars rest).map trimChars := by
  unfold lineChars
  cases l.ending with
  | unix =>
    rw [LineEnding.chars, List.append_assoc]
    exact lineChars.map_trimChars_go_append l.noFeed [] rest
  | windows =>
    have hfeed : '\n' ∉ l.chars ++ ['\r'] := by
      simp [l.noFeed]
    have hsplit : l.chars ++ ['\r', '\n'] ++ rest = l.chars ++ ['\r'] ++ '\n' :: rest := by
      simp
    rw [LineEnding.chars, hsplit, lineChars.map_trimChars_go_append hfeed, List.reverse_nil,
      List.nil_append, trimChars_append_return]
    rfl

theorem trimmedLines_fileText (lines : List EndedLine)
    : trimmedLines (fileText lines) = lines.map trimmed := by
  unfold trimmedLines fileText
  rw [String.toList_ofList]
  induction lines with
  | nil => rfl
  | cons l lines ih => rw [List.flatMap_cons, map_trimChars_lineChars_append, ih, List.map_cons]

end EndedLine

theorem trimmedLines_replaced (ending : LineEnding) (text : String)
    : trimmedLines (ending.replaced text) = trimmedLines text := by
  unfold trimmedLines LineEnding.replaced
  rw [String.toList_ofList]
  exact ending.map_trimChars_go_flatMap [] text.toList

theorem ofText_congr {text text' : String} (h : trimmedLines text = trimmedLines text')
    : Section.ofText text = Section.ofText text' := by
  have hempty (text : String) : text.isEmpty = (trimmedLines text).isEmpty := by
    rw [Bool.eq_iff_iff, String.isEmpty_iff, List.isEmpty_iff, trimmedLines, List.map_eq_nil_iff,
      lineChars_eq_nil_iff, String.toList_eq_nil_iff]
  unfold Section.ofText
  rw [hempty, hempty, ← map_ofChars_trimmedLines, ← map_ofChars_trimmedLines, h]

/-- Files whose lines are the same but for the blanks around them have the same sections, however
each line ends; in particular other line endings and other margins change nothing. -/
theorem ofText_fileText_congr
    : (∀ lines lines' : List EndedLine,
        lines.map EndedLine.trimmed = lines'.map EndedLine.trimmed →
        Section.ofText (EndedLine.fileText lines) = Section.ofText (EndedLine.fileText lines'))
      ∧ (∀ (ending : LineEnding) (text : String),
        Section.ofText (ending.replaced text) = Section.ofText text)
      ∧ ∀ lines : List (EndedLine × Margin × Margin),
        Section.ofText
            (EndedLine.fileText (lines.map fun (l, left, right) => l.between left right))
          = Section.ofText (EndedLine.fileText (lines.map fun (l, _, _) => l)) := by
  refine ⟨?_, ?_, ?_⟩
  . intro lines lines' h
    apply ofText_congr
    rw [EndedLine.trimmedLines_fileText, EndedLine.trimmedLines_fileText, h]
  . intro ending text
    apply ofText_congr
    exact trimmedLines_replaced ending text
  . intro lines
    apply ofText_congr
    rw [EndedLine.trimmedLines_fileText, EndedLine.trimmedLines_fileText, List.map_map,
      List.map_map, List.map_inj_left]
    intro (l, left, right) _
    exact l.trimmed_between left right

def alignedFile : List EndedLine :=
  [⟨"@a".toList, .unix, by decide⟩, ⟨"".toList, .unix, by decide⟩,
    ⟨"Scenario: s".toList, .unix, by decide⟩, ⟨"  * print 1".toList, .unix, by decide⟩]

def indentedFile : List EndedLine :=
  [⟨"\t@a ".toList, .windows, by decide⟩, ⟨" \r".toList, .unix, by decide⟩,
    ⟨"\u3000Scenario: s\r".toList, .windows, by decide⟩, ⟨"* print 1".toList, .unix, by decide⟩]

theorem ofText_fileText_congr_indentedFile
    : indentedFile.map EndedLine.trimmed = alignedFile.map EndedLine.trimmed
      ∧ Section.ofText (EndedLine.fileText indentedFile)
        = [⟨2, 3, .ofList ["@a"], "s", .scenario⟩] := by
  have htrimmed : indentedFile.map EndedLine.trimmed = alignedFile.map EndedLine.trimmed := by
    decide
  refine ⟨htrimmed, ?_⟩
  rw [ofText_fileText_congr.1 _ _ htrimmed]
  decide +kernel

end FeatureRunner
