import FeatureRunner.Path.Ancestors
import FeatureRunner.Project.BuildSystem
import FeatureRunner.Target.Basic

/-!
This module contains the search for the project that a target belongs to. The nearest directory at
or above the target with a marker file is the project root; among the markers in one directory the
order of `BuildSystem.markers` decides. `Project.probes` is the list of files that the search asks
for.
-/

namespace FeatureRunner

/-- A project root and the build descriptor in it. -/
structure Project where
  root : Path
  /-- The marker file that was found; empty if there is none. -/
  runFile : Path
  deriving DecidableEq

namespace Project

def unresolved : Project := ⟨⟨""⟩, ⟨""⟩⟩

def isResolved (p : Project) : Bool :=
  !p.runFile.isEmpty

def buildSystem (p : Project) : BuildSystem :=
  BuildSystem.ofFile p.runFile

def effectiveBuildSystem (p : Project) : BuildSystem :=
  if p.isResolved then p.buildSystem else .unresolved

def markersIn (dir : Path) : List Path :=
  BuildSystem.markers.map fun name => dir.join ⟨name⟩

def detect? (isFile : Path → Bool) (dir : Path) : Option Path :=
  (markersIn dir).find? isFile

def start? (target : Path) : TargetKind → Option Path
  | .directory => some target
  | .file | .test => target.parent?

def searched (target : Path) (kind : TargetKind) : List Path :=
  match start? target kind with
  | some dir => dir.ancestors.filter (!·.isEmpty)
  | none => []

/-- The projects that a target could belong to, in the order in which they are considered. -/
def candidates (target : Path) (kind : TargetKind) : List Project :=
  (searched target kind).flatMap fun dir => (markersIn dir).map fun file => ⟨dir, file⟩

def resolve (isFile : Path → Bool) (target : Path) (kind : TargetKind) : Project :=
  ((candidates target kind).find? fun p => isFile p.runFile).getD unresolved

/-- The items up to the first one with the property, which is the last of them. -/
def upTo (p : α → Bool) : List α → List α
  | [] => []
  | a :: as => if p a then [a] else a :: upTo p as

def probes (isFile : Path → Bool) (target : Path) (kind : TargetKind) : List Path :=
  upTo isFile ((candidates target kind).map (·.runFile))

end Project
end FeatureRunner
