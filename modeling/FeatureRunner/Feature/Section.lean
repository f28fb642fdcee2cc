import FeatureRunner.Feature.TagSet

/-!
This module contains `Section`, a range of lines of one feature file that can be run as one test.
Lines are counted from zero and both ends belong to the section.
-/

namespace FeatureRunner

inductive SectionKind where
  | scenario
  | scenarioOutline
  /-- Nothing: the section is a whole file without scenarios. -/
  | feature
  deriving DecidableEq

/-- A range of lines of a feature file with its tags and its title. -/
structure Section where
  startLine : UInt32
  endLine : UInt32
  tags : TagSet
  title : String
  kind : SectionKind
  deriving DecidableEq

namespace Section

def containsLine (s : Section) (line : UInt32) : Bool :=
  s.startLine ≤ line && line ≤ s.endLine

def lineCount (s : Section) : UInt32 :=
  s.endLine - s.startLine + 1

def hasTag (s : Section) (tag : String) : Bool :=
  tag ∈ s.tags

def displayLine (s : Section) : UInt32 :=
  s.startLine + 1

def atLine? (sections : List Section) (line : UInt32) : Option Section :=
  sections.find? (·.containsLine line)

end Section
end FeatureRunner
