import FeatureRunner.Feature.Section
import FeatureRunner.Text.Blank

/-!
This module contains what a single line of a feature file says. Only tag lines, scenario keywords
and the feature header matter for running; blank lines and comments are passed over.
-/

namespace FeatureRunner

open FeatureRunner.Text

/-- A line of a feature file, read by itself. -/
inductive FeatureLine where
  /-- Blank or a comment. -/
  | skip
  /-- A line of tags for the keyword below it. -/
  | tags (tags : List String)
  | scenario (kind : SectionKind) (title : String)
  | feature (title : String)
  /-- Text that belongs to the section above it. -/
  | body
  deriving DecidableEq

namespace FeatureLine

def scenarioKeywords : List (String × SectionKind) :=
  [("Scenario Outline", .scenarioOutline), ("Scenario Template", .scenarioOutline),
   ("Scenario", .scenario), ("Example", .scenario)]

def featureKeyword : String := "Feature"

def afterKeyword? (keyword : String) (cs : List Char) : Option (List Char) :=
  (keyword.toList ++ [':']).isPrefixOf? cs

def isTag (token : String) : Bool :=
  token.toList.head? == some '@' && token.toList.length > 1

def startsComment (token : String) : Bool :=
  token.toList.head? == some '#'

def tagsOf (line : String) : List String :=
  ((tokens line).takeWhile (!startsComment ·)).filter isTag

/-- What follows `keyword` and a colon on a line, where blanks may stand in front of the keyword. A
keyword does not begin with a blank, so all blanks are passed before it. No line feed is taken. -/
def behindKeyword? (keyword : String) (line : List Char) : Option (List Char) :=
  (afterKeyword? keyword (trimLeft line)).filter fun rest => !rest.contains '\n'

def scenario? (line : List Char) : Option (SectionKind × String) :=
  scenarioKeywords.findSome? fun (keyword, kind) =>
    (behindKeyword? keyword line).map fun title => (kind, String.ofList (trimChars title))

def featureTitle? (line : List Char) : Option String :=
  (behindKeyword? featureKeyword line).map fun title => String.ofList (trimChars title)

/-- Reads a line. Comments and tags are looked for without the blanks around the line, keywords on
the line as it is. -/
def ofChars (line : List Char) : FeatureLine :=
  match trimChars line with
  | [] | '#' :: _ => .skip
  | '@' :: cs => .tags (tagsOf (String.ofList ('@' :: cs)))
  | _ =>
    match scenario? line with
    | some (kind, title) => .scenario kind title
    | none =>
      match featureTitle? line with
      | some title => .feature title
      | none => .body

end FeatureLine
end FeatureRunner
