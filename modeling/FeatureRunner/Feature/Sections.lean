import FeatureRunner.Feature.Line
import FeatureRunner.Text.Lines

/-!
This module contains the sections of a feature file. Every scenario keyword opens a section that
ends before the next one; a file without scenarios is one section. The tags of a section are those
on the tag lines right above its keyword, where blank lines and comments do not separate.
-/

namespace FeatureRunner

open FeatureRunner.Text

/-- The opening line of a section, before its end is known. -/
structure Opening where
  line : UInt32
  tags : TagSet
  title : String
  kind : SectionKind

namespace Opening

def closeAt (o : Opening) (endLine : UInt32) : Section where
  startLine := o.line
  endLine := endLine
  tags := o.tags
  title := o.title
  kind := o.kind

/--
The scenarios opened by the lines from number `index` on, when the tags `pending` stand above them.
-/
def ofLines (pending : TagSet) (index : Nat) : List FeatureLine → List Opening
  | [] => []
  | .skip :: lines => ofLines pending (index + 1) lines
  | .tags ts :: lines => ofLines (pending.insertAll ts) (index + 1) lines
  | .scenario kind title :: lines =>
    ⟨.ofNat index, pending, title, kind⟩ :: ofLines ∅ (index + 1) lines
  | .feature _ :: lines | .body :: lines => ofLines ∅ (index + 1) lines

/-- Closes every section before the next one, and the last one at the line `lastLine`. -/
def closeAll (lastLine : UInt32) : List Opening → List Section
  | [] => []
  | [o] => [o.closeAt lastLine]
  | o :: p :: os => o.closeAt (p.line - 1) :: closeAll lastLine (p :: os)

end Opening

namespace Section

/-- The title of the first feature header and the tags above it; nothing if there is no header. -/
def header (pending : TagSet) : List FeatureLine → String × TagSet
  | [] => ("", ∅)
  | .skip :: lines => header pending lines
  | .tags ts :: lines => header (pending.insertAll ts) lines
  | .feature title :: _ => (title, pending)
  | .scenario _ _ :: lines | .body :: lines => header ∅ lines

def wholeFile (lastLine : UInt32) (lines : List FeatureLine) : Section :=
  let (title, tags) := header ∅ lines
  { startLine := 0, endLine := lastLine, tags, title, kind := .feature }

def ofLines (lines : List FeatureLine) : List Section :=
  let lastLine := UInt32.ofNat (lines.length - 1)
  match Opening.ofLines ∅ 0 lines with
  | [] => [wholeFile lastLine lines]
  | openings => Opening.closeAll lastLine openings

def ofText (text : String) : List Section :=
  if text.isEmpty then
    []
  else
    ofLines ((lineChars text.toList).map FeatureLine.ofChars)

end Section
end FeatureRunner
