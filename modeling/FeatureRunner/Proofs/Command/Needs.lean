import FeatureRunner.Command.Basic
import FeatureRunner.Proofs.Json.Records
import FeatureRunner.Proofs.Text.Trimming
import FeatureRunner.Settings.Json

/-!
This module contains what has to be there so that a command can be put together. Every build system
goes by one command line of the settings (`Needs`); build tools may also need a runner class. The
main statement is `attempt_synthesize`: there is a command if nothing is missing (`Runnable`), and
otherwise the failure tells what is missing first (`Hindered`).
-/

namespace FeatureRunner

open FeatureRunner.Text

namespace Project

theorem buildSystem_of_not_isResolved {p : Project} (h : p.isResolved = false)
    : p.buildSystem = .unresolved := by
  rcases p with ⟨root, ⟨text⟩⟩
  obtain rfl : text = "" := by simpa [isResolved, Path.isEmpty] using h
  rfl

/-- A path without a name has no build system, so it makes no difference whether the project is
resolved. -/
theorem effectiveBuildSystem_eq (p : Project) : p.effectiveBuildSystem = p.buildSystem := by
  unfold effectiveBuildSystem
  split
  . rfl
  . next h => exact (buildSystem_of_not_isResolved (by simpa using h)).symm

end Project

namespace Command

def IsSaid (text : Option String) : Prop :=
  ∃ t, text = some t ∧ ∃ c ∈ t.toList, isBlank c = false

/-- A command line of the settings that commands depend on. -/
structure Need where
  /-- The section of the settings that the command line is in. -/
  part : String
  args : Option String
  mayBeBlank : Bool

namespace Need

def key (n : Need) : String :=
  n.part ++ "." ++ argsKey

def IsMet (n : Need) : Prop :=
  n.args ≠ none ∧ (n.mayBeBlank = true ∨ IsSaid n.args)

def IsWritten (n : Need) (s : Settings) : Prop :=
  ∃ json, (n.part, json) ∈ s.toJson.members
    ∧ (argsKey, Json.ofOption .string n.args) ∈ json.members

end Need

/-- The command line of the settings that a build system goes by. A build tool has one of its own
and uses another one when Karate is called directly. -/
inductive Needs (s : Settings) : BuildSystem → Need → Prop where
  | jar : Needs s .standaloneJar ⟨"karate_jar", s.jar.commandLineArgs, false⟩
  | node : Needs s .nodePackage ⟨"node", s.node.commandLineArgs, false⟩
  | direct {system : BuildSystem} (hsystem : system.usesRunnerClass = true)
      (hdirect : s.direct.overrideRunner = true)
      : Needs s system ⟨"karate_cli", s.direct.commandLineArgs, true⟩
  | maven (hdirect : s.direct.overrideRunner = false)
      : Needs s .maven ⟨"maven", s.maven.commandLineArgs, true⟩
  | gradle {system : BuildSystem} (hsystem : system.isGradle = true)
      (hdirect : s.direct.overrideRunner = false)
      : Needs s system ⟨"gradle", s.gradle.commandLineArgs, true⟩

/-- Everything that a command for a target of the project needs is there. -/
structure Runnable (s : Settings) (p : Project) (runnerClass : Option String) : Prop where
  known : p.buildSystem ≠ .unresolved
  args : ∀ n, Needs s p.buildSystem n → n.IsMet
  runnerClass : p.buildSystem.usesRunnerClass = true → s.direct.overrideRunner = false →
    IsSaid runnerClass

/-- What is missing first: the build system, the command line of the settings or the runner class. -/
inductive Hindered (s : Settings) (p : Project) (t : TestTarget) (runnerClass : Option String)
    : Failure → Prop where
  | unknown (hsystem : p.buildSystem = .unresolved)
      : Hindered s p t runnerClass (.unresolved ("no build descriptor for " ++ t.path.text))
  | unset {n : Need} (hneeds : Needs s p.buildSystem n) (hmet : ¬ n.IsMet)
      : Hindered s p t runnerClass (.configurationMissing n.key)
  | unchosen {n : Need} (hneeds : Needs s p.buildSystem n) (hmet : n.IsMet)
      (hsystem : p.buildSystem.usesRunnerClass = true) (hdirect : s.direct.overrideRunner = false)
      (hclass : ¬ IsSaid runnerClass)
      : Hindered s p t runnerClass (.unresolved "no runner class chosen")

/-- How the attempt to put a command together ends. -/
def Attempt (s : Settings) (p : Project) (t : TestTarget) (runnerClass : Option String)
    : Except Failure Command → Prop
  | .ok c => Runnable s p runnerClass ∧ c.directory = p.root
  | .error f => Hindered s p t runnerClass f

section

variable {s : Settings} {system : BuildSystem} {n n' : Need}

theorem Needs.ne_unresolved (h : Needs s system n) : system ≠ .unresolved := by
  cases h with
  | jar => decide
  | node => decide
  | direct hsystem => rintro rfl; cases hsystem
  | maven => decide
  | gradle hsystem => rintro rfl; cases hsystem

theorem exists_needs (s : Settings) (h : system ≠ .unresolved) : ∃ n, Needs s system n := by
  cases hdirect : s.direct.overrideRunner with
  | true =>
    cases system with
    | unresolved => exact absurd rfl h
    | standaloneJar => exact ⟨_, .jar⟩
    | nodePackage => exact ⟨_, .node⟩
    | maven => exact ⟨_, .direct rfl hdirect⟩
    | gradleGroovy => exact ⟨_, .direct rfl hdirect⟩
    | gradleKotlin => exact ⟨_, .direct rfl hdirect⟩
  | false =>
    cases system with
    | unresolved => exact absurd rfl h
    | standaloneJar => exact ⟨_, .jar⟩
    | nodePackage => exact ⟨_, .node⟩
    | maven => exact ⟨_, .maven hdirect⟩
    | gradleGroovy => exact ⟨_, .gradle rfl hdirect⟩
    | gradleKotlin => exact ⟨_, .gradle rfl hdirect⟩

theorem Needs.unique (h : Needs s system n) (h' : Needs s system n') : n = n' := by
  cases h <;> cases h' <;> simp_all [BuildSystem.usesRunnerClass, BuildSystem.isGradle]

theorem Needs.isWritten (h : Needs s system n) : n.IsWritten s := by
  cases h with
  | jar => exact ⟨s.jar.toJson, by simp [Settings.toJson, Json.members], by
      simp [JarSettings.toJson, argsJson, Json.members]⟩
  | node => exact ⟨s.node.toJson, by simp [Settings.toJson, Json.members], by
      simp [NodeSettings.toJson, argsJson, Json.members]⟩
  | direct => exact ⟨s.direct.toJson, by simp [Settings.toJson, Json.members], by
      simp [DirectSettings.toJson, argsJson, Json.members]⟩
  | maven => exact ⟨s.maven.toJson, by simp [Settings.toJson, Json.members], by
      simp [BuildToolSettings.toJson, argsJson, Json.members]⟩
  | gradle => exact ⟨s.gradle.toJson, by simp [Settings.toJson, Json.members], by
      simp [BuildToolSettings.toJson, argsJson, Json.members]⟩

end

theorem nonBlank_eq_none_iff {text : Option String} : nonBlank text = none ↔ ¬ IsSaid text := by
  cases text with
  | none => simp [nonBlank, IsSaid]
  | some t =>
    have hempty : trim t = "" ↔ ∀ c ∈ t.toList, isBlank c = true := by
      rw [← trimChars_eq_nil_iff, ← toList_trim, String.toList_eq_nil_iff]
    simp [nonBlank, IsSaid, hempty]

theorem exists_nonBlank {text : Option String} (h : IsSaid text)
    : ∃ said, nonBlank text = some said :=
  Option.ne_none_iff_exists'.1 fun hnone => nonBlank_eq_none_iff.1 hnone h

def Need.value (n : Need) : Except Failure String :=
  if n.mayBeBlank then defined n.args n.key else configured n.args n.key

namespace Need

variable {n : Need}

theorem value_of_isMet (h : n.IsMet) : ∃ args, n.value = .ok args := by
  rcases n with ⟨part, args, mayBeBlank⟩
  obtain ⟨hdefined, hsaid⟩ := h
  cases mayBeBlank with
  | true =>
    obtain ⟨line, rfl⟩ := Option.ne_none_iff_exists'.1 hdefined
    exact ⟨line, rfl⟩
  | false =>
    obtain ⟨line, hline⟩ := exists_nonBlank (hsaid.resolve_left nofun)
    exact ⟨line, by simp [value, configured, hline]⟩

theorem value_of_not_isMet (h : ¬ n.IsMet) : n.value = .error (.configurationMissing n.key) := by
  rcases n with ⟨part, args, mayBeBlank⟩
  cases mayBeBlank with
  | true =>
    obtain rfl : args = none := by simpa [IsMet] using h
    rfl
  | false =>
    have hnone : nonBlank args = none := by
      rw [nonBlank_eq_none_iff]
      rintro ⟨t, rfl, hsaid⟩
      exact h ⟨nofun, .inr ⟨t, rfl, hsaid⟩⟩
    simp [value, configured, hnone]

end Need

section Lines

variable {s : Settings} {platform : Platform} {system : BuildSystem} {n : Need}
variable {runFile : Path} {t : TestTarget} {runnerClass : Option String}

theorem Needs.value_eq_extraArgs (h : Needs s system n) (hsystem : system.usesRunnerClass = true)
    : n.value = extraArgs s system := by
  cases h with
  | jar => cases hsystem
  | node => cases hsystem
  | direct _ hdirect =>
    rw [extraArgs, if_pos hdirect]
    rfl
  | maven hdirect => simp [extraArgs, hdirect, BuildSystem.isGradle, Need.value, Need.key, argsKey]
  | gradle hgradle hdirect => simp [extraArgs, hdirect, hgradle, Need.value, Need.key, argsKey]

theorem exists_executable (hsystem : system.usesRunnerClass = true) (useWrapper : Bool)
    (platform : Platform)
    : ∃ executable, executable? system useWrapper platform = some executable := by
  cases system with
  | unresolved | nodePackage | standaloneJar => cases hsystem
  | maven | gradleGroovy | gradleKotlin => cases useWrapper <;> cases platform <;> exact ⟨_, rfl⟩

def callFor (s : Settings) (system : BuildSystem) (runnerClass : Option String) (options : String)
    : Except Failure String :=
  if system.usesRunnerClass then invocation system runnerClass options s.direct.overrideRunner
  else .ok ""

theorem callFor_of_isSaid
    (h : system.usesRunnerClass = true → s.direct.overrideRunner = false → IsSaid runnerClass)
    (options : String)
    : ∃ call, callFor s system runnerClass options = .ok call := by
  unfold callFor
  split
  . next hsystem =>
    cases hdirect : s.direct.overrideRunner with
    | true => exact ⟨_, rfl⟩
    | false =>
      obtain ⟨name, hname⟩ := exists_nonBlank (h hsystem hdirect)
      simp [invocation, hname]
  . exact ⟨_, rfl⟩

theorem callFor_of_not_isSaid (hsystem : system.usesRunnerClass = true)
    (hdirect : s.direct.overrideRunner = false) (hclass : ¬ IsSaid runnerClass) (options : String)
    : callFor s system runnerClass options = .error (.unresolved "no runner class chosen") := by
  simp [callFor, hsystem, invocation, hdirect, nonBlank_eq_none_iff.2 hclass]

theorem buildToolLine_eq (hneeds : Needs s system n) (hsystem : system.usesRunnerClass = true)
    (platform : Platform) (runFile : Path) (t : TestTarget) (runnerClass : Option String)
    : ∃ make : String → String → String, buildToolLine s platform system runFile t runnerClass
        = n.value.bind fun args => (callFor s system runnerClass t.options).map (make args) := by
  obtain ⟨executable, hexecutable⟩ := exists_executable hsystem s.core.useWrapper platform
  refine ⟨fun args call => joinParts
    [executable, phasesFor system s.buildDirectory.cleanBeforeEachRun s.direct.overrideRunner,
      buildFileSwitch system, TestTarget.quoted runFile.text, call, args,
      environmentSwitch system s.core.environment], ?_⟩
  rw [buildToolLine, hexecutable, hneeds.value_eq_extraArgs hsystem, callFor, if_pos hsystem]
  dsimp only
  cases extraArgs s system <;> rfl

/-- A command line is made of the command line of the settings and of the call. The first of the two
that is missing is the failure. -/
theorem lineFor_eq {p : Project} (hneeds : Needs s p.buildSystem n) (platform : Platform)
    (t : TestTarget) (runnerClass : Option String)
    : ∃ make : String → String → String, lineFor s platform p t runnerClass
        = n.value.bind fun args =>
            (callFor s p.buildSystem runnerClass t.options).map (make args) := by
  unfold lineFor
  rw [p.effectiveBuildSystem_eq]
  generalize p.buildSystem = system at *
  cases system with
  | unresolved => exact absurd rfl hneeds.ne_unresolved
  | standaloneJar =>
    obtain rfl := hneeds.unique .jar
    refine ⟨fun args _ => joinParts
      [args, t.jarOptions, environmentSwitch .standaloneJar s.core.environment], ?_⟩
    change (configured s.jar.commandLineArgs "karate_jar.command_line_args").map _
      = (configured s.jar.commandLineArgs "karate_jar.command_line_args").bind _
    cases configured s.jar.commandLineArgs "karate_jar.command_line_args" <;> rfl
  | nodePackage =>
    obtain rfl := hneeds.unique .node
    refine ⟨fun args _ => args ++ " \"" ++ t.options ++ "\"", ?_⟩
    change (configured s.node.commandLineArgs "node.command_line_args").map _
      = (configured s.node.commandLineArgs "node.command_line_args").bind _
    cases configured s.node.commandLineArgs "node.command_line_args" <;> rfl
  | maven => exact buildToolLine_eq hneeds rfl platform p.runFile t runnerClass
  | gradleGroovy => exact buildToolLine_eq hneeds rfl platform p.runFile t runnerClass
  | gradleKotlin => exact buildToolLine_eq hneeds rfl platform p.runFile t runnerClass

end Lines

section Attempt

variable {s : Settings} {p : Project} {t : TestTarget} {runnerClass : Option String} {f f' : Failure}

theorem attempt_synthesize (s : Settings) (platform : Platform) (p : Project) (t : TestTarget)
    (mode : Mode) (runnerClass : Option String)
    : Attempt s p t runnerClass (synthesize s platform p t mode runnerClass) := by
  unfold synthesize
  by_cases hknown : p.buildSystem = .unresolved
  . have hline : lineFor s platform p t runnerClass
        = .error (.unresolved ("no build descriptor for " ++ t.path.text)) := by
      rw [lineFor, p.effectiveBuildSystem_eq, hknown]
    rw [hline]
    exact Hindered.unknown hknown
  . obtain ⟨n, hneeds⟩ := exists_needs s hknown
    obtain ⟨make, hline⟩ := lineFor_eq hneeds platform t runnerClass
    rw [hline]
    by_cases hmet : n.IsMet
    . obtain ⟨args, hargs⟩ := n.value_of_isMet hmet
      rw [hargs]
      by_cases hclass : p.buildSystem.usesRunnerClass = true → s.direct.overrideRunner = false →
          IsSaid runnerClass
      . obtain ⟨call, hcall⟩ := callFor_of_isSaid hclass t.options
        rw [Except.bind, hcall]
        refine ⟨⟨hknown, ?_, hclass⟩, rfl⟩
        intro n' hneeds'
        rwa [← hneeds.unique hneeds']
      . obtain ⟨hsystem, hdirect, hclass⟩ : p.buildSystem.usesRunnerClass = true
            ∧ s.direct.overrideRunner = false ∧ ¬ IsSaid runnerClass := by
          simpa only [Classical.not_imp] using hclass
        rw [Except.bind, callFor_of_not_isSaid hsystem hdirect hclass]
        exact Hindered.unchosen hneeds hmet hsystem hdirect hclass
    . rw [n.value_of_not_isMet hmet]
      exact Hindered.unset hneeds hmet

theorem Hindered.not_runnable (h : Hindered s p t runnerClass f) : ¬ Runnable s p runnerClass := by
  intro hrunnable
  cases h with
  | unknown hsystem => exact hrunnable.known hsystem
  | unset hneeds hmet => exact hmet (hrunnable.args _ hneeds)
  | unchosen _ _ hsystem hdirect hclass => exact hclass (hrunnable.runnerClass hsystem hdirect)

theorem Hindered.unique (h : Hindered s p t runnerClass f) (h' : Hindered s p t runnerClass f')
    : f = f' := by
  cases h with
  | unknown hsystem =>
    cases h' with
    | unknown _ => rfl
    | unset hneeds _ => exact absurd hsystem hneeds.ne_unresolved
    | unchosen hneeds => exact absurd hsystem hneeds.ne_unresolved
  | unset hneeds hmet =>
    cases h' with
    | unknown hsystem => exact absurd hsystem hneeds.ne_unresolved
    | unset hneeds' _ => rw [hneeds.unique hneeds']
    | unchosen hneeds' hmet' => exact absurd (hneeds.unique hneeds' ▸ hmet') hmet
  | unchosen hneeds hmet =>
    cases h' with
    | unknown hsystem => exact absurd hsystem hneeds.ne_unresolved
    | unset hneeds' hmet' => exact absurd (hneeds.unique hneeds' ▸ hmet) hmet'
    | unchosen => rfl

theorem Hindered.isSilent (h : Hindered s p t runnerClass f) : f.isSilent = true := by
  cases h <;> rfl

variable {platform : Platform} {mode : Mode}

theorem exists_synthesize_iff
    : (∃ c, synthesize s platform p t mode runnerClass = .ok c) ↔ Runnable s p runnerClass := by
  have hattempt := attempt_synthesize s platform p t mode runnerClass
  cases hresult : synthesize s platform p t mode runnerClass with
  | ok c =>
    rw [hresult] at hattempt
    simp [hattempt.1]
  | error f =>
    rw [hresult] at hattempt
    simp [Hindered.not_runnable hattempt]

theorem synthesize_eq_error_iff
    : synthesize s platform p t mode runnerClass = .error f ↔ Hindered s p t runnerClass f := by
  have hattempt := attempt_synthesize s platform p t mode runnerClass
  cases hresult : synthesize s platform p t mode runnerClass with
  | ok c =>
    rw [hresult] at hattempt
    simp only [reduceCtorEq, false_iff]
    exact fun h => h.not_runnable hattempt.1
  | error f' =>
    rw [hresult] at hattempt
    rw [Except.error.injEq]
    constructor
    . rintro rfl
      exact hattempt
    . exact fun h => Hindered.unique hattempt h

theorem directory_of_synthesize {c : Command}
    (h : synthesize s platform p t mode runnerClass = .ok c)
    : c.directory = p.root := by
  have hattempt := attempt_synthesize s platform p t mode runnerClass
  rw [h] at hattempt
  exact hattempt.2

end Attempt

end Command
end FeatureRunner
