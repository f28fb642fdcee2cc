import FeatureRunner.Proofs.Command.Needs
import FeatureRunner.Session.RunnerClass

/-!
This module contains what a command depends on. `Settings.usedBy` drops the settings that a build
system has no use for, and `synthesize_usedBy` says that the command does not change by that. The
main statement is `synthesize_congr`: two requests give the same command, or fail in the same way,
if they agree on what the build system of the project uses.
-/

namespace FeatureRunner

/-- The settings that a build system uses; all other ones have their defaults. -/
def Settings.usedBy (s : Settings) (system : BuildSystem) : Settings :=
  match system with
  | .unresolved => default
  | .standaloneJar => { core := { environment := s.core.environment }, jar := s.jar }
  | .nodePackage => { node := s.node }
  | .maven =>
    { core := s.core
      buildDirectory := s.buildDirectory
      direct := if s.direct.overrideRunner then s.direct else {}
      maven := if s.direct.overrideRunner then {} else s.maven }
  | .gradleGroovy | .gradleKotlin =>
    { core := s.core
      buildDirectory := s.buildDirectory
      direct := if s.direct.overrideRunner then s.direct else {}
      gradle := if s.direct.overrideRunner then {} else s.gradle }

/-- The text that a build system uses of a target. Without a build system only the failure is about
the target. -/
def TestTarget.usedBy (t : TestTarget) : BuildSystem → String
  | .unresolved => t.path.text
  | .standaloneJar => t.jarOptions
  | .nodePackage | .maven | .gradleGroovy | .gradleKotlin => t.options

namespace Command

section

variable {s s' : Settings} {system : BuildSystem} {t t' : TestTarget} {c c' : Option String}

theorem usedBy_shared (s : Settings) (hsystem : system.usesRunnerClass = true)
    : (s.usedBy system).core = s.core
      ∧ (s.usedBy system).buildDirectory = s.buildDirectory
      ∧ (s.usedBy system).direct.overrideRunner = s.direct.overrideRunner := by
  cases system with
  | unresolved | nodePackage | standaloneJar => cases hsystem
  | maven | gradleGroovy | gradleKotlin =>
    refine ⟨rfl, rfl, ?_⟩
    cases hdirect : s.direct.overrideRunner <;> simp [Settings.usedBy, hdirect]

theorem extraArgs_usedBy (s : Settings) (hsystem : system.usesRunnerClass = true)
    : extraArgs (s.usedBy system) system = extraArgs s system := by
  obtain ⟨-, -, hdirect⟩ := usedBy_shared s hsystem
  unfold extraArgs
  rw [hdirect]
  cases system with
  | unresolved | nodePackage | standaloneJar => cases hsystem
  | maven | gradleGroovy | gradleKotlin =>
    cases hs : s.direct.overrideRunner <;> simp [Settings.usedBy, hs, BuildSystem.isGradle]

theorem buildToolLine_usedBy (s : Settings) (hsystem : system.usesRunnerClass = true)
    (platform : Platform) (runFile : Path) (t : TestTarget) (c : Option String)
    : buildToolLine (s.usedBy system) platform system runFile t c
        = buildToolLine s platform system runFile t c := by
  obtain ⟨hcore, hbuild, hdirect⟩ := usedBy_shared s hsystem
  simp only [buildToolLine, extraArgs_usedBy s hsystem, hcore, hbuild, hdirect]

theorem lineFor_usedBy (s : Settings) (platform : Platform) (p : Project) (t : TestTarget)
    (c : Option String)
    : lineFor (s.usedBy p.buildSystem) platform p t c = lineFor s platform p t c := by
  unfold lineFor
  rw [p.effectiveBuildSystem_eq]
  cases p.buildSystem with
  | unresolved => rfl
  | standaloneJar => rfl
  | nodePackage => rfl
  | maven => exact buildToolLine_usedBy s rfl platform p.runFile t c
  | gradleGroovy => exact buildToolLine_usedBy s rfl platform p.runFile t c
  | gradleKotlin => exact buildToolLine_usedBy s rfl platform p.runFile t c

theorem synthesize_usedBy (s : Settings) (platform : Platform) (p : Project) (t : TestTarget)
    (mode : Mode) (c : Option String)
    : synthesize (s.usedBy p.buildSystem) platform p t mode c
        = synthesize s platform p t mode c := by
  unfold synthesize
  rw [lineFor_usedBy]

theorem invocation_congr {direct : Bool} (hc : direct = false → c = c') (options : String)
    : invocation system c options direct = invocation system c' options direct := by
  cases direct with
  | true => rfl
  | false => rw [hc rfl]

theorem buildToolLine_congr (ht : t.options = t'.options)
    (hc : s.direct.overrideRunner = false → c = c') (platform : Platform) (runFile : Path)
    : buildToolLine s platform system runFile t c = buildToolLine s platform system runFile t' c' := by
  simp only [buildToolLine, ht, invocation_congr hc]

theorem lineFor_congr {p : Project} (ht : t.usedBy p.buildSystem = t'.usedBy p.buildSystem)
    (hc : RunnerClass.isNeeded p.buildSystem s = true → c = c') (platform : Platform)
    : lineFor s platform p t c = lineFor s platform p t' c' := by
  unfold lineFor
  rw [p.effectiveBuildSystem_eq]
  unfold RunnerClass.isNeeded at hc
  cases hsystem : p.buildSystem with
  | unresolved =>
    have hpath : t.path.text = t'.path.text := by
      simpa [hsystem, TestTarget.usedBy] using ht
    simp only [hpath]
  | standaloneJar =>
    have hoptions : t.jarOptions = t'.jarOptions := by
      simpa [hsystem, TestTarget.usedBy] using ht
    simp only [jarLine, hoptions]
  | nodePackage =>
    have hoptions : t.options = t'.options := by
      simpa [hsystem, TestTarget.usedBy] using ht
    simp only [nodeLine, hoptions]
  | maven | gradleGroovy | gradleKotlin =>
    have hoptions : t.options = t'.options := by
      simpa [hsystem, TestTarget.usedBy] using ht
    apply buildToolLine_congr hoptions
    simpa [hsystem, BuildSystem.usesRunnerClass] using hc

/-- A command depends on the settings that the build system of the project uses, on one text of the
target and, if there is to be one, on the runner class; the mode makes no difference. Without a
build system the failure is always the same. -/
theorem synthesize_congr {p : Project} (hs : s.usedBy p.buildSystem = s'.usedBy p.buildSystem)
    (ht : t.usedBy p.buildSystem = t'.usedBy p.buildSystem)
    (hc : RunnerClass.isNeeded p.buildSystem s = true → c = c') (platform : Platform)
    (mode mode' : Mode)
    : synthesize s platform p t mode c = synthesize s' platform p t' mode' c'
      ∧ (p.buildSystem = .unresolved → synthesize s platform p t mode c
          = .error (.unresolved ("no build descriptor for " ++ t.path.text))) := by
  refine ⟨?_, ?_⟩
  . calc synthesize s platform p t mode c
      _ = synthesize s platform p t' mode' c' := by
        unfold synthesize
        rw [lineFor_congr ht hc]
      _ = synthesize (s.usedBy p.buildSystem) platform p t' mode' c' :=
        (synthesize_usedBy s platform p t' mode' c').symm
      _ = synthesize (s'.usedBy p.buildSystem) platform p t' mode' c' := by rw [hs]
      _ = synthesize s' platform p t' mode' c' := synthesize_usedBy s' platform p t' mode' c'
  . intro hunknown
    exact synthesize_eq_error_iff.2 (.unknown hunknown)

end

def directSettings : Settings where
  direct := { overrideRunner := true, commandLineArgs := some "--quiet" }

def strangeSettings : Settings :=
  { directSettings with
    runner := { default := some "UsersRunner", promptToSpecify := true }
    jar := { commandLineArgs := none }
    node := { commandLineArgs := none }
    maven := { commandLineArgs := none }
    gradle := { commandLineArgs := none }
    reports := { toTarget := "*.html", openAfterEachRun := true }
    debugger := { serverPort := 8080 } }

def gradleProject : Project :=
  ⟨⟨"/p"⟩, ⟨"/p/build.gradle"⟩⟩

def plainTarget : TestTarget :=
  { TestTarget.ofPath ⟨"/p/a.feature"⟩ .file with jarOptions := "", path := ⟨""⟩ }

theorem synthesize_congr_directCall
    : directSettings.usedBy gradleProject.buildSystem
        = strangeSettings.usedBy gradleProject.buildSystem
      ∧ (TestTarget.ofPath ⟨"/p/a.feature"⟩ .file).usedBy gradleProject.buildSystem
        = plainTarget.usedBy gradleProject.buildSystem
      ∧ RunnerClass.isNeeded gradleProject.buildSystem directSettings = false
      ∧ synthesize strangeSettings .posix gradleProject plainTarget .debug none
        = .ok ⟨"gradle -b \"/p/build.gradle\" karateExecute -DmainClass=" ++ mainClass
            ++ " --args=\"/p/a.feature\" --quiet", ⟨"/p"⟩⟩ := by
  have hs : directSettings.usedBy gradleProject.buildSystem
      = strangeSettings.usedBy gradleProject.buildSystem := by decide +kernel
  have ht : (TestTarget.ofPath ⟨"/p/a.feature"⟩ .file).usedBy gradleProject.buildSystem
      = plainTarget.usedBy gradleProject.buildSystem := by decide +kernel
  have hc : RunnerClass.isNeeded gradleProject.buildSystem directSettings = false := by
    decide +kernel
  refine ⟨hs, ht, hc, ?_⟩
  have hcongr : synthesize directSettings .posix gradleProject (.ofPath ⟨"/p/a.feature"⟩ .file) .run
        (some "OrdersRunner")
      = synthesize strangeSettings .posix gradleProject plainTarget .debug none :=
    (synthesize_congr hs ht (by simp [hc]) .posix .run .debug).1
  rw [← hcongr]
  decide +kernel

end Command
end FeatureRunner
