import FeatureRunner.Failure
import FeatureRunner.Project.BuildSystem
import FeatureRunner.Text.Blank

/-!
This module contains the parts that a command line is put together from and the joining of them.
`joinParts` trims every part, leaves blank ones out and puts single spaces between the others.
-/

namespace FeatureRunner
namespace Command

open FeatureRunner.Text

/-- The family of systems that a command is written for. -/
inductive Platform where
  | posix
  | windows
  deriving DecidableEq

/-- The program of a build tool: the installed one or the wrapper script of the project. -/
def executable? : BuildSystem → Bool → Platform → Option String
  | .maven, false, _ => some "mvn"
  | .maven, true, .posix => some "./mvnw"
  | .maven, true, .windows => some "mvnw"
  | .gradleGroovy, false, _ | .gradleKotlin, false, _ => some "gradle"
  | .gradleGroovy, true, .posix | .gradleKotlin, true, .posix => some "./gradlew"
  | .gradleGroovy, true, .windows | .gradleKotlin, true, .windows => some "gradlew"
  | _, _, _ => none

/-- The build phases of Maven. A direct call only compiles the tests; Karate itself runs them. -/
def phases (clean direct : Bool) : String :=
  match direct, clean with
  | false, true => "clean test"
  | false, false => "test"
  | true, true => "clean test-compile"
  | true, false => ""

/-- The build phases of a build tool; Gradle has a name of its own for compiling the tests. -/
def phasesFor (system : BuildSystem) (clean direct : Bool) : String :=
  if system.isGradle && direct && clean then "clean testClasses" else phases clean direct

def buildFileSwitch (system : BuildSystem) : String :=
  if system.isGradle then "-b" else "-f"

/-- The switch that selects the Karate environment; nothing for a blank one. -/
def environmentSwitch (system : BuildSystem) (environment : String) : String :=
  let environment := trim environment
  if environment.isEmpty then
    ""
  else
    match system with
    | .standaloneJar => "-e " ++ environment
    | .maven | .gradleGroovy | .gradleKotlin => "-Dkarate.env=" ++ environment
    | .nodePackage | .unresolved => ""

def mainClass : String := "com.intuit.karate.cli.Main"

/-- A text that is there and not blank, trimmed. -/
def nonBlank (s : Option String) : Option String :=
  (s.map trim).filter fun s => !s.isEmpty

theorem nonBlank_eq_some_iff (s : Option String) (name : String)
    : nonBlank s = some name ↔ ∃ text, s = some text ∧ trim text = name ∧ name ≠ "" := by
  cases s with
  | none => simp [nonBlank]
  | some text =>
    by_cases h : trim text = name
    . simp [nonBlank, Option.filter_eq_some_iff, h]
    . simp [nonBlank, Option.filter_eq_some_iff, h]

theorem nonBlank_ne_empty {s : Option String} {name : String} (h : nonBlank s = some name)
    : name ≠ "" := by
  obtain ⟨_, _, _, hne⟩ := (nonBlank_eq_some_iff s name).1 h
  exact hne

def directInvocation (system : BuildSystem) (options : String) : String :=
  if system.isGradle then
    "karateExecute -DmainClass=" ++ mainClass ++ " --args=\"" ++ options ++ "\""
  else
    "exec:java -Dexec.mainClass=" ++ mainClass ++ " \"-Dexec.args=" ++ options ++
      "\" -Dexec.classpathScope=test"

def runnerInvocation (system : BuildSystem) (runnerClass options : String) : String :=
  (if system.isGradle then "--tests " else "-Dtest=") ++ runnerClass ++
    " \"-Dkarate.options=" ++ options ++ "\""

def invocation (system : BuildSystem) (runnerClass : Option String) (options : String)
    (direct : Bool) : Except Failure String :=
  if direct then
    .ok (directInvocation system options)
  else
    match nonBlank runnerClass with
    | some runnerClass => .ok (runnerInvocation system runnerClass options)
    | none => .error (.unresolved "no runner class chosen")

/-- The trimmed parts that are not blank, with single spaces between them. -/
def joinParts (parts : List String) : String :=
  joinStrings ' ' ((parts.map trim).filter fun s => !s.isEmpty)

end Command
end FeatureRunner
