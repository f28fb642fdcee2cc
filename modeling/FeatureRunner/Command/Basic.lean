import FeatureRunner.Command.Parts
import FeatureRunner.Project.Basic
import FeatureRunner.Settings.Basic
import FeatureRunner.Target.Request

/-!
This module contains the command line that runs a target with the build system of its project. The
debugger attaches to a running task by itself, so the mode of a request does not change the command.
-/

namespace FeatureRunner

open FeatureRunner.Text

/-- A command line for a shell and the directory to run it in. -/
structure Command where
  line : String
  directory : Path
  deriving DecidableEq

namespace Command

def configured (args : Option String) (key : String) : Except Failure String :=
  match nonBlank args with
  | some args => .ok args
  | none => .error (.configurationMissing key)

/-- A command line from the settings that may be empty but has to be defined. -/
def defined (args : Option String) (key : String) : Except Failure String :=
  match args with
  | some args => .ok args
  | none => .error (.configurationMissing key)

def jarLine (s : Settings) (t : TestTarget) : Except Failure String :=
  (configured s.jar.commandLineArgs "karate_jar.command_line_args").map fun args =>
    joinParts [args, t.jarOptions, environmentSwitch .standaloneJar s.core.environment]

def nodeLine (s : Settings) (t : TestTarget) : Except Failure String :=
  (configured s.node.commandLineArgs "node.command_line_args").map fun args =>
    args ++ " \"" ++ t.options ++ "\""

def extraArgs (s : Settings) (system : BuildSystem) : Except Failure String :=
  if s.direct.overrideRunner then
    defined s.direct.commandLineArgs "karate_cli.command_line_args"
  else if system.isGradle then
    defined s.gradle.commandLineArgs "gradle.command_line_args"
  else
    defined s.maven.commandLineArgs "maven.command_line_args"

def buildToolLine (s : Settings) (platform : Platform) (system : BuildSystem) (runFile : Path)
    (t : TestTarget) (runnerClass : Option String) : Except Failure String :=
  let direct := s.direct.overrideRunner
  match executable? system s.core.useWrapper platform with
  | none => .error (.unresolved ("no build tool for " ++ system.failureName))
  | some executable =>
    match extraArgs s system with
    | .error f => .error f
    | .ok extra =>
      (invocation system runnerClass t.options direct).map fun call =>
        joinParts
          [executable, phasesFor system s.buildDirectory.cleanBeforeEachRun direct,
           buildFileSwitch system, TestTarget.quoted runFile.text, call, extra,
           environmentSwitch system s.core.environment]

def lineFor (s : Settings) (platform : Platform) (p : Project) (t : TestTarget)
    (runnerClass : Option String) : Except Failure String :=
  match p.effectiveBuildSystem with
  | .unresolved => .error (.unresolved ("no build descriptor for " ++ t.path.text))
  | .standaloneJar => jarLine s t
  | .nodePackage => nodeLine s t
  | system => buildToolLine s platform system p.runFile t runnerClass

def synthesize (s : Settings) (platform : Platform) (p : Project) (t : TestTarget)
    (_mode : Mode) (runnerClass : Option String) : Except Failure Command :=
  (lineFor s platform p t runnerClass).map fun line => ⟨line, p.root⟩

theorem exists_of_configured {args : Option String} {key said : String}
    (h : configured args key = .ok said)
    : ∃ given, args = some given ∧ trim given = said ∧ said ≠ "" := by
  unfold configured at h
  split at h
  . next hsaid =>
    cases h
    exact (nonBlank_eq_some_iff _ _).1 hsaid
  . cases h

theorem eq_some_of_defined {args : Option String} {key given : String}
    (h : defined args key = .ok given)
    : args = some given := by
  unfold defined at h
  split at h
  . cases h
    rfl
  . cases h

theorem exists_ok_of_map {ε α β : Type} {x : Except ε α} {f : α → β} {b : β}
    (h : x.map f = .ok b)
    : ∃ a, x = .ok a ∧ f a = b := by
  cases x with
  | error _ => cases h
  | ok a => exact ⟨a, rfl, Except.ok.inj h⟩

theorem exists_of_buildToolLine {s : Settings} {platform : Platform} {system : BuildSystem}
    {runFile : Path} {t : TestTarget} {runnerClass : Option String} {line : String}
    (h : buildToolLine s platform system runFile t runnerClass = .ok line)
    : ∃ executable extra call, executable? system s.core.useWrapper platform = some executable
      ∧ extraArgs s system = .ok extra
      ∧ invocation system runnerClass t.options s.direct.overrideRunner = .ok call
      ∧ joinParts
          [executable, phasesFor system s.buildDirectory.cleanBeforeEachRun s.direct.overrideRunner,
           buildFileSwitch system, TestTarget.quoted runFile.text, call, extra,
           environmentSwitch system s.core.environment] = line := by
  unfold buildToolLine at h
  dsimp only at h
  split at h
  . cases h
  . next executable hexecutable =>
    split at h
    . cases h
    . next extra hextra =>
      obtain ⟨call, hcall, rfl⟩ := exists_ok_of_map h
      exact ⟨executable, extra, call, hexecutable, hextra, hcall, rfl⟩

end Command
end FeatureRunner
