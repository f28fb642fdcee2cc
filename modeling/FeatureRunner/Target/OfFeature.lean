import FeatureRunner.Feature.Sections
import FeatureRunner.Target.Basic

/-!
This module contains the targets of a feature file: one for every section, and the one that a line
is aimed at.
-/

namespace FeatureRunner
namespace TestTarget

/-- The target of a section; a section that is a whole file is aimed at as a file. -/
def ofFileSection (path : Path) (s : Section) : TestTarget :=
  match s.kind with
  | .feature => { ofPath path .file with sectionLine := some s.startLine }
  | .scenario | .scenarioOutline => ofSection path s

def ofText (path : Path) (text : String) : List TestTarget :=
  (Section.ofText text).map (ofFileSection path)

/-- The target of a line: the scenario around it, or the whole file outside of scenarios. -/
def atLine (path : Path) (text : String) (line : UInt32) : TestTarget :=
  match Section.atLine? (Section.ofText text) line with
  | some s => if s.kind = .feature then ofPath path .file else ofSection path s
  | none => ofPath path .file

end TestTarget
end FeatureRunner
