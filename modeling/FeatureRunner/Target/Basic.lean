import FeatureRunner.Feature.Section
import FeatureRunner.Path.Bytes
import FeatureRunner.Text.Blank
import FeatureRunner.Text.Numeral

/-!
This module contains `TestTarget`, the description of what one run tests: a feature file, a
directory of them or a single section. It carries the options that address the target in the two
forms that Karate understands, one for the JVM and one for the standalone jar.
-/

namespace FeatureRunner

open FeatureRunner.Text

inductive TargetKind where
  | file
  | directory
  /-- A single section of a feature file. -/
  | test
  deriving DecidableEq

structure TestTarget where
  /-- The options for the JVM. -/
  options : String
  /-- The options for the standalone jar. -/
  jarOptions : String
  path : Path
  kind : TargetKind
  /-- The first line of the section that is aimed at. -/
  sectionLine : Option UInt32
  runTitle : String
  debugTitle : String
  deriving DecidableEq

namespace TestTarget

/-- The source roots whose content Karate finds on the class path, in the order they are tried. -/
def sourceRoots : List (List String) :=
  [["src", "test", "java"], ["src", "test", "resources"]]

def namesAfterLast? (root : List String) : List String → Option (List String)
  | [] => none
  | n :: ns =>
    match namesAfterLast? root ns with
    | some rest => some rest
    | none => root.isPrefixOf? (n :: ns)

/-- The names below a source root: of the first root that occurs, its last occurrence counts. -/
def classpathNames? (names : List String) : Option (List String) :=
  sourceRoots.findSome? (namesAfterLast? · names)

/-- How the JVM form names a path: by its place on the class path, else as it is written. Bytes that
are no text are replaced in either case. -/
def bytesOption (path : BytePath) : String :=
  match classpathNames? path.names with
  | some names => "classpath:" ++ joinStrings '/' names
  | none => path.text

def pathOption (path : Path) : String :=
  bytesOption (.ofPath path)

def quoted (s : String) : String :=
  "\"" ++ s ++ "\""

def withLine (s : String) (line : UInt32) : String :=
  s ++ ":" ++ Numeral.decimal line.toNat

def runLabel : String := "Karate: Run"

def debugLabel : String := "Karate: Debug"

def title (label : String) (tags : TagSet) : String :=
  if tags.toList.isEmpty then label else label ++ " [" ++ joinStrings ' ' tags.toList ++ "]"

def ofPath (path : Path) (kind : TargetKind) : TestTarget where
  options := pathOption path
  jarOptions := quoted path.text
  path := path
  kind := kind
  sectionLine := none
  runTitle := runLabel
  debugTitle := debugLabel

def ofSection (path : Path) (s : Section) : TestTarget where
  options := withLine (pathOption path) s.displayLine
  jarOptions := quoted (withLine path.text s.displayLine)
  path := path
  kind := .test
  sectionLine := some s.startLine
  runTitle := title runLabel s.tags
  debugTitle := title debugLabel s.tags

def addSwitch (switch options : String) : String :=
  if options.isEmpty then switch else switch ++ " " ++ options

/-- The target restricted to a tag expression; a blank expression changes nothing. -/
def withTags (t : TestTarget) (tags : String) : TestTarget :=
  let tags := trim tags
  if tags.isEmpty then
    t
  else
    { t with
      options := addSwitch ("--tags " ++ tags) t.options
      jarOptions := addSwitch ("-t " ++ tags) t.jarOptions }

end TestTarget
end FeatureRunner
