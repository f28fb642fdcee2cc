import FeatureRunner.Files.Lookup
import FeatureRunner.Path.Ancestors
import FeatureRunner.Settings.Json

/-!
This module contains the search for the settings file of a path. The nearest directory at or above
the path that has a settings file wins; of the two names it may have the hidden one does.
-/

namespace FeatureRunner
namespace Settings

def mainFileName : String := ".karate-runner.json"

def fileNames : List String :=
  [mainFileName, "karate-runner.json"]

/-- The directory that the search begins in: the path itself, or the one that a file is in. -/
def searchStart? (isFile : Path → Bool) (start : Path) : Option Path :=
  if isFile start then start.parent? else some start

def searchedFiles (dir : Path) : List Path :=
  dir.ancestors.flatMap fun dir => fileNames.map fun name => dir.join ⟨name⟩

def findFile? (isFile isThere : Path → Bool) (start : Path) : Option Path :=
  (searchStart? isFile start).bind fun dir => (searchedFiles dir).find? isThere

def loadFile (readText : Path → Except IoFault String) (file : Path) : Except Failure Settings :=
  match readText file with
  | .error f => .error (.io f)
  | .ok text => (ofText text).mapError .serialization

/-- The settings for a path and the file they are from; the defaults if there is none. -/
def loadNearest (view : Files.View) (start : Path) : Except Failure (Settings × Option Path) :=
  match findFile? view.isFile view.isThere start with
  | some file => (loadFile view.readText file).map fun s => (s, some file)
  | none => .ok (default, none)

def saveFile (s : Settings) (root : Node) (cwd : List String) (file : Path)
    : Except Failure Node :=
  (Files.write root cwd file s.toText.toUTF8).mapError .io

end Settings
end FeatureRunner
