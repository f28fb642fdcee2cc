import FeatureRunner.Command.Basic
import FeatureRunner.Proofs.Command.Words
import FeatureRunner.Proofs.Path.Steps
import FeatureRunner.Proofs.Target.ClassPath
import Mathlib.Data.List.Basic

/-!
This module contains the words of the command lines that are made for a target. Whatever blanks
there are in a path, in a tag expression or in the name of a build file, each of them stays the one
word that it was meant to be, and nothing else on the line is joined or torn apart
(`words_synthesize`).
-/

namespace FeatureRunner

open FeatureRunner.Text

/-- What a target is made for: a whole path or one section of a feature file. -/
inductive Aim where
  | whole (path : Path) (kind : TargetKind)
  | part (path : Path) (s : Section)

namespace Aim

def path : Aim → Path
  | whole path _ => path
  | part path _ => path

def target : Aim → TestTarget
  | whole path kind => .ofPath path kind
  | part path s => .ofSection path s

def address : Aim → String
  | whole path _ => path.text
  | part path s => TestTarget.withLine path.text s.displayLine

def tagged (aim : Aim) (tags : List String) : TestTarget :=
  tags.foldl TestTarget.withTags aim.target

end Aim

namespace Command

def ownArgs? (s : Settings) (system : BuildSystem) : Option String :=
  match system with
  | .unresolved => none
  | .standaloneJar => s.jar.commandLineArgs
  | .nodePackage => s.node.commandLineArgs
  | system =>
    if s.direct.overrideRunner then
      s.direct.commandLineArgs
    else if system.isGradle then
      s.gradle.commandLineArgs
    else
      s.maven.commandLineArgs

def tagWords (tags : String) : List String :=
  if (trim tags).isEmpty then [] else "-t" :: words tags

def callWords (system : BuildSystem) (direct : Bool) (runnerClass options : String) : List String :=
  if direct then
    if system.isGradle then
      ["karateExecute", "-DmainClass=" ++ mainClass, "--args=" ++ options]
    else
      ["exec:java", "-Dexec.mainClass=" ++ mainClass, "-Dexec.args=" ++ options,
        "-Dexec.classpathScope=test"]
  else
    (if system.isGradle then ["--tests", runnerClass] else ["-Dtest=" ++ runnerClass]) ++
      ["-Dkarate.options=" ++ options]

def environmentWords (system : BuildSystem) (environment : String) : List String :=
  if (trim environment).isEmpty then
    []
  else
    match system with
    | .standaloneJar => ["-e", trim environment]
    | .maven | .gradleGroovy | .gradleKotlin => ["-Dkarate.env=" ++ trim environment]
    | .nodePackage | .unresolved => []

def toolWords (s : Settings) (platform : Platform) (system : BuildSystem) (runFile : Path)
    (options : String) (runnerClass : Option String) : List String :=
  (executable? system s.core.useWrapper platform).toList ++
    words (phasesFor system s.buildDirectory.cleanBeforeEachRun s.direct.overrideRunner) ++
    [buildFileSwitch system, runFile.text] ++
    callWords system s.direct.overrideRunner ((nonBlank runnerClass).getD "") options ++
    words ((ownArgs? s system).getD "") ++ environmentWords system s.core.environment

def lineWords (s : Settings) (platform : Platform) (p : Project) (aim : Aim) (tags : List String)
    (runnerClass : Option String) : List String :=
  match p.effectiveBuildSystem with
  | .unresolved => []
  | .standaloneJar =>
    words (s.jar.commandLineArgs.getD "") ++ tags.reverse.flatMap tagWords ++ [aim.address] ++
      environmentWords .standaloneJar s.core.environment
  | .nodePackage => words (s.node.commandLineArgs.getD "") ++ [(aim.tagged tags).options]
  | system => toolWords s platform system p.runFile (aim.tagged tags).options runnerClass

/-- No quotes get between those that a command line is made with, and what is written without quotes
has no blanks. -/
structure IsQuotable (s : Settings) (p : Project) (aim : Aim) (tags : List String)
    (runnerClass : Option String) : Prop where
  runFile : HasNoQuote p.runFile.text
  path : HasNoQuote aim.path.text
  tags : ∀ expression ∈ tags, HasNoQuote expression
  runnerClass : ∀ name, nonBlank runnerClass = some name → IsPlain name
  environment : IsPlain (trim s.core.environment)
  args : ∀ args, ownArgs? s p.effectiveBuildSystem = some args → IsBalanced args

end Command

theorem subset_of_namesAfterLast? {root names rest : List String}
    (h : TestTarget.namesAfterLast? root names = some rest)
    : rest ⊆ names := by
  induction names with
  | nil => cases h
  | cons name names ih =>
    unfold TestTarget.namesAfterLast? at h
    split at h
    . next hlater =>
      cases h
      exact List.subset_cons_of_subset _ (ih hlater)
    . rw [List.isPrefixOf?_eq_some_iff_append_eq] at h
      rw [← h]
      exact List.subset_append_right _ _

namespace Command

theorem hasNoQuote_pathOption {path : Path} (h : HasNoQuote path.text)
    : HasNoQuote (TestTarget.pathOption path) := by
  cases hnames : TestTarget.classpathNames? path.names with
  | none =>
    rw [TestTarget.pathOption_of_none hnames]
    exact h
  | some names =>
    obtain ⟨root, -, hnames'⟩ := List.exists_of_findSome?_eq_some hnames
    have hsubset := subset_of_namesAfterLast? hnames'
    rw [TestTarget.pathOption_of_some hnames]
    apply HasNoQuote.append (by decide)
    unfold joinStrings HasNoQuote
    rw [String.toList_ofList, mem_joinWith_iff]
    rintro (⟨_, hchars, hquote⟩ | ⟨hquote, -⟩)
    . obtain ⟨name, hname, rfl⟩ := List.mem_map.1 hchars
      exact h (mem_toList_of_mem_names (hsubset hname) hquote)
    . simp at hquote

theorem hasNoQuote_withLine {s : String} (h : HasNoQuote s) (line : UInt32)
    : HasNoQuote (TestTarget.withLine s line) := by
  refine (h.append (by decide)).append ?_
  rw [HasNoQuote, Numeral.decimal, String.toList_ofList]
  exact Numeral.not_mem_decimalChars (by decide) _

theorem hasNoQuote_addSwitch {a b : String} (ha : HasNoQuote a) (hb : HasNoQuote b)
    : HasNoQuote (TestTarget.addSwitch a b) := by
  unfold TestTarget.addSwitch
  split
  . exact ha
  . exact (ha.append (by decide)).append hb

theorem hasNoQuote_withTags {t : TestTarget} {tags : String} (h : HasNoQuote t.options)
    (htags : HasNoQuote tags)
    : HasNoQuote (t.withTags tags).options := by
  unfold TestTarget.withTags
  dsimp
  split
  . exact h
  . exact hasNoQuote_addSwitch (HasNoQuote.append (by decide) htags.trim) h

theorem hasNoQuote_tagged {aim : Aim} {tags : List String} (haim : HasNoQuote aim.path.text)
    (htags : ∀ expression ∈ tags, HasNoQuote expression)
    : HasNoQuote (aim.tagged tags).options := by
  have htarget : HasNoQuote aim.target.options := by
    cases aim with
    | whole path kind => exact hasNoQuote_pathOption haim
    | part path s => exact hasNoQuote_withLine (hasNoQuote_pathOption haim) s.displayLine
  unfold Aim.tagged
  generalize aim.target = t at *
  induction tags generalizing t with
  | nil => exact htarget
  | cons expression tags ih =>
    obtain ⟨hexpression, htags⟩ := List.forall_mem_cons.1 htags
    have hstep := hasNoQuote_withTags htarget hexpression
    rw [List.foldl_cons]
    exact ih htags _ hstep

theorem reads_addSwitch {a b : String} {as bs : List String} (ha : Reads a as) (hb : Reads b bs)
    : Reads (TestTarget.addSwitch a b) (as ++ bs) := by
  unfold TestTarget.addSwitch
  split
  . next hempty =>
    obtain rfl : b = "" := by simpa using hempty
    obtain rfl : [] = bs := hb.words
    simpa using ha
  . exact ha.append_space hb

theorem reads_tagged {aim : Aim} {tags : List String} (haim : HasNoQuote aim.path.text)
    (htags : ∀ expression ∈ tags, HasNoQuote expression)
    : Reads (aim.tagged tags).jarOptions (tags.reverse.flatMap tagWords ++ [aim.address]) := by
  have htarget : Reads aim.target.jarOptions [aim.address] := by
    cases aim with
    | whole path kind => exact reads_quoted (a := "") (by decide) haim
    | part path s => exact reads_quoted (a := "") (by decide) (hasNoQuote_withLine haim _)
  unfold Aim.tagged
  generalize aim.target = t, [aim.address] = ws at *
  induction tags generalizing t ws with
  | nil => exact htarget
  | cons expression tags ih =>
    obtain ⟨hexpression, htags⟩ := List.forall_mem_cons.1 htags
    have hstep : Reads (t.withTags expression).jarOptions (tagWords expression ++ ws) := by
      unfold TestTarget.withTags tagWords
      dsimp
      split
      . exact htarget
      . have hswitch : Reads "-t" ["-t"] := reads_of_isPlain (by decide) (by decide)
        exact reads_addSwitch (hswitch.append_space (reads_trim hexpression.isBalanced)) htarget
    simpa using ih htags _ _ hstep

theorem reads_environmentSwitch (system : BuildSystem) {environment : String}
    (h : IsPlain (trim environment))
    : Reads (environmentSwitch system environment) (environmentWords system environment) := by
  unfold environmentSwitch environmentWords
  dsimp
  split
  . exact reads_empty
  . next hempty =>
    have hempty : trim environment ≠ "" := by simpa using hempty
    have hjar : Reads ("-e " ++ trim environment) ["-e", trim environment] := by
      have hswitch : Reads "-e" ["-e"] := reads_of_isPlain (by decide) (by decide)
      exact hswitch.append_space (reads_of_isPlain h hempty)
    have htool : Reads ("-Dkarate.env=" ++ trim environment)
        ["-Dkarate.env=" ++ trim environment] := by
      refine reads_of_isPlain (IsPlain.append (by decide) h) ?_
      simp
    cases system with
    | standaloneJar => exact hjar
    | maven => exact htool
    | gradleGroovy => exact htool
    | gradleKotlin => exact htool
    | nodePackage => exact reads_empty
    | unresolved => exact reads_empty

theorem Reads.append_quoted {line switch value : String} {ws : List String} (hline : Reads line ws)
    (hswitch : HasNoQuote switch) (hvalue : HasNoQuote value)
    : Reads (line ++ " \"" ++ switch ++ value ++ "\"") (ws ++ [switch ++ value]) := by
  have hquoted : Reads ("" ++ ("\"" ++ (switch ++ value) ++ "\"")) ["" ++ (switch ++ value)] :=
    reads_quoted (by decide) (hswitch.append hvalue)
  have hline := hline.append_space hquoted
  have heq : line ++ " \"" ++ switch ++ value ++ "\""
      = line ++ " " ++ ("" ++ ("\"" ++ (switch ++ value) ++ "\"")) := by
    apply String.toList_inj.1
    simp
  rwa [heq, ← String.empty_append (s := switch ++ value)]

theorem reads_directInvocation (system : BuildSystem) {options : String} (h : HasNoQuote options)
    (runnerClass : String)
    : Reads (directInvocation system options) (callWords system true runnerClass options) := by
  unfold directInvocation callWords
  simp only [↓reduceIte]
  split
  . have htask : Reads "karateExecute" ["karateExecute"] :=
      reads_of_isPlain (by decide) (by decide)
    have hclass : Reads ("-DmainClass=" ++ mainClass) ["-DmainClass=" ++ mainClass] :=
      reads_of_isPlain (IsPlain.append (by decide) (by decide)) (by decide)
    have hoptions : Reads ("--args=" ++ ("\"" ++ options ++ "\"")) ["--args=" ++ options] :=
      reads_quoted (by decide) h
    have heq : "karateExecute -DmainClass=" ++ mainClass ++ " --args=\"" ++ options ++ "\""
        = "karateExecute" ++ " " ++ ("-DmainClass=" ++ mainClass) ++ " "
          ++ ("--args=" ++ ("\"" ++ options ++ "\"")) := by
      apply String.toList_inj.1
      simp
    rw [heq]
    exact (htask.append_space hclass).append_space hoptions
  . have hgoal : Reads "exec:java" ["exec:java"] :=
      reads_of_isPlain (by decide) (by decide)
    have hclass : Reads ("-Dexec.mainClass=" ++ mainClass) ["-Dexec.mainClass=" ++ mainClass] :=
      reads_of_isPlain (IsPlain.append (by decide) (by decide)) (by decide)
    have hscope : Reads "-Dexec.classpathScope=test" ["-Dexec.classpathScope=test"] :=
      reads_of_isPlain (by decide) (by decide)
    have hoptions := (hgoal.append_space hclass).append_quoted
      (show HasNoQuote "-Dexec.args=" by decide) h
    have heq : "exec:java -Dexec.mainClass=" ++ mainClass ++ " \"-Dexec.args=" ++ options
          ++ "\" -Dexec.classpathScope=test"
        = "exec:java" ++ " " ++ ("-Dexec.mainClass=" ++ mainClass) ++ " \"" ++ "-Dexec.args="
          ++ options ++ "\"" ++ " " ++ "-Dexec.classpathScope=test" := by
      apply String.toList_inj.1
      simp
    rw [heq]
    exact hoptions.append_space hscope

theorem reads_runnerInvocation (system : BuildSystem) {runnerClass options : String}
    (hclass : IsPlain runnerClass) (hne : runnerClass ≠ "") (h : HasNoQuote options)
    : Reads (runnerInvocation system runnerClass options)
        (callWords system false runnerClass options) := by
  have hselector : Reads ((if system.isGradle then "--tests " else "-Dtest=") ++ runnerClass)
      (if system.isGradle then ["--tests", runnerClass] else ["-Dtest=" ++ runnerClass]) := by
    split
    . have hswitch : Reads "--tests" ["--tests"] := ⟨by decide, by decide⟩
      exact hswitch.append_space (reads_of_isPlain hclass hne)
    . exact reads_of_isPlain (IsPlain.append (by decide) hclass) (by simp)
  have heq (selector : String) : selector ++ " \"-Dkarate.options=" ++ options ++ "\""
      = selector ++ " \"" ++ "-Dkarate.options=" ++ options ++ "\"" := by
    apply String.toList_inj.1
    simp
  unfold runnerInvocation
  rw [heq]
  exact hselector.append_quoted (by decide) h

theorem reads_invocation {system : BuildSystem} {runnerClass : Option String}
    {options call : String} {direct : Bool}
    (h : invocation system runnerClass options direct = .ok call) (hoptions : HasNoQuote options)
    (hclass : ∀ name, nonBlank runnerClass = some name → IsPlain name)
    : Reads call (callWords system direct ((nonBlank runnerClass).getD "") options) := by
  unfold invocation at h
  split at h
  . next hdirect =>
    cases h
    rw [hdirect]
    exact reads_directInvocation system hoptions _
  . next hdirect =>
    split at h
    . next name hname =>
      cases h
      rw [hname]
      simp only [hdirect]
      exact reads_runnerInvocation system (hclass name hname) (nonBlank_ne_empty hname) hoptions
    . cases h

theorem reads_of_configured {args : Option String} {key text : String}
    (h : configured args key = .ok text) (hargs : ∀ text, args = some text → IsBalanced text)
    : Reads text (words (args.getD "")) := by
  obtain ⟨text, rfl, rfl, -⟩ := exists_of_configured h
  exact reads_trim (hargs text rfl)

theorem reads_of_defined {args : Option String} {key text : String}
    (h : defined args key = .ok text) (hargs : ∀ text, args = some text → IsBalanced text)
    : Reads text (words (args.getD "")) := by
  obtain rfl := eq_some_of_defined h
  exact ⟨hargs _ rfl, rfl⟩

theorem exists_extraArgs_eq (s : Settings) {system : BuildSystem}
    (hsystem : system.usesRunnerClass = true)
    : ∃ key, extraArgs s system = defined (ownArgs? s system) key := by
  have heq : ownArgs? s system
      = if s.direct.overrideRunner then s.direct.commandLineArgs
        else if system.isGradle then s.gradle.commandLineArgs
        else s.maven.commandLineArgs := by
    cases system <;> first | rfl | cases hsystem
  rw [heq]
  unfold extraArgs
  split
  . exact ⟨_, rfl⟩
  . split <;> exact ⟨_, rfl⟩

theorem reads_executable {system : BuildSystem} {wrapper : Bool} {platform : Platform}
    {executable : String} (h : executable? system wrapper platform = some executable)
    : Reads executable [executable] := by
  have hplain : IsPlain executable ∧ executable ≠ "" := by
    unfold executable? at h
    split at h <;> cases h <;> decide
  exact reads_of_isPlain hplain.1 hplain.2

theorem isBalanced_phasesFor (system : BuildSystem) (clean direct : Bool)
    : IsBalanced (phasesFor system clean direct) := by
  cases system <;> cases clean <;> cases direct <;> decide

theorem reads_buildFileSwitch (system : BuildSystem)
    : Reads (buildFileSwitch system) [buildFileSwitch system] := by
  unfold buildFileSwitch
  split <;> exact ⟨by decide, by decide⟩

theorem words_jarLine {s : Settings} {t : TestTarget} {line : String} {ws : List String}
    (h : jarLine s t = .ok line)
    (hargs : ∀ args, s.jar.commandLineArgs = some args → IsBalanced args)
    (ht : Reads t.jarOptions ws) (henvironment : IsPlain (trim s.core.environment))
    : words line
        =
      words (s.jar.commandLineArgs.getD "") ++ ws
        ++ environmentWords .standaloneJar s.core.environment := by
  obtain ⟨args, hconfigured, rfl⟩ := exists_ok_of_map h
  have hargs := reads_of_configured hconfigured hargs
  have henvironment := reads_environmentSwitch .standaloneJar henvironment
  rw [words_joinParts]
  . simp [hargs.words, ht.words, henvironment.words]
  . simp [hargs.balanced, ht.balanced, henvironment.balanced]

theorem words_nodeLine {s : Settings} {t : TestTarget} {line : String}
    (h : nodeLine s t = .ok line)
    (hargs : ∀ args, s.node.commandLineArgs = some args → IsBalanced args)
    (hoptions : HasNoQuote t.options)
    : words line = words (s.node.commandLineArgs.getD "") ++ [t.options] := by
  obtain ⟨args, hconfigured, rfl⟩ := exists_ok_of_map h
  have hargs := reads_of_configured hconfigured hargs
  have hline := hargs.append_quoted (show HasNoQuote "" by decide) hoptions
  simpa using hline.words

theorem words_buildToolLine {s : Settings} {platform : Platform} {system : BuildSystem}
    {runFile : Path} {t : TestTarget} {runnerClass : Option String} {line : String}
    (h : buildToolLine s platform system runFile t runnerClass = .ok line)
    (hsystem : system.usesRunnerClass = true)
    (hargs : ∀ args, ownArgs? s system = some args → IsBalanced args)
    (hrunFile : HasNoQuote runFile.text) (hoptions : HasNoQuote t.options)
    (hclass : ∀ name, nonBlank runnerClass = some name → IsPlain name)
    (henvironment : IsPlain (trim s.core.environment))
    : words line = toolWords s platform system runFile t.options runnerClass := by
  obtain ⟨executable, extra, call, hexecutable, hextra, hcall, rfl⟩ := exists_of_buildToolLine h
  have hphases := isBalanced_phasesFor system s.buildDirectory.cleanBeforeEachRun
    s.direct.overrideRunner
  have hswitch := reads_buildFileSwitch system
  have hrunFile : Reads (TestTarget.quoted runFile.text) [runFile.text] :=
    reads_quoted (a := "") (by decide) hrunFile
  have hcall := reads_invocation hcall hoptions hclass
  obtain ⟨key, heq⟩ := exists_extraArgs_eq s hsystem
  have hextra := reads_of_defined (heq ▸ hextra) hargs
  have henvironment := reads_environmentSwitch system henvironment
  rw [words_joinParts]
  . simp [toolWords, hexecutable, (reads_executable hexecutable).words, hswitch.words,
      hrunFile.words, hcall.words, hextra.words, henvironment.words]
  . simp [(reads_executable hexecutable).balanced, hphases, hswitch.balanced,
      hrunFile.balanced, hcall.balanced, hextra.balanced, henvironment.balanced]

/-- A command line has the words it is made for. -/
theorem words_synthesize {s : Settings} {platform : Platform} {p : Project} {aim : Aim}
    {tags : List String} {mode : Mode} {runnerClass : Option String} {c : Command}
    (h : synthesize s platform p (aim.tagged tags) mode runnerClass = .ok c)
    (hq : IsQuotable s p aim tags runnerClass)
    : words c.line = lineWords s platform p aim tags runnerClass := by
  have hline : lineFor s platform p (aim.tagged tags) runnerClass = .ok c.line := by
    unfold synthesize at h
    cases hline : lineFor s platform p (aim.tagged tags) runnerClass with
    | error f => simp [hline, Except.map] at h
    | ok line =>
      obtain rfl : _ = c := by simpa [hline, Except.map] using h
      rfl
  have hoptions := hasNoQuote_tagged hq.path hq.tags
  have hargs := hq.args
  -- Each build system puts the options into quotes of its own, or writes them without any.
  unfold lineFor at hline
  unfold lineWords
  cases hsystem : p.effectiveBuildSystem with
  | unresolved => simp [hsystem] at hline
  | standaloneJar =>
    simp only [hsystem] at hline hargs ⊢
    rw [words_jarLine hline hargs (reads_tagged hq.path hq.tags) hq.environment]
    simp only [List.append_assoc]
  | nodePackage =>
    simp only [hsystem] at hline hargs ⊢
    exact words_nodeLine hline hargs hoptions
  | maven =>
    simp only [hsystem] at hline hargs ⊢
    exact words_buildToolLine hline rfl hargs hq.runFile hoptions hq.runnerClass hq.environment
  | gradleGroovy =>
    simp only [hsystem] at hline hargs ⊢
    exact words_buildToolLine hline rfl hargs hq.runFile hoptions hq.runnerClass hq.environment
  | gradleKotlin =>
    simp only [hsystem] at hline hargs ⊢
    exact words_buildToolLine hline rfl hargs hq.runFile hoptions hq.runnerClass hq.environment

def spacedProject : Project := ⟨⟨"/my p"⟩, ⟨"/my p/karate.jar"⟩⟩

def spacedAim : Aim := .whole ⟨"/my p/all users"⟩ .directory

def spacedSettings : Settings :=
  { core := { environment := " dev" } }

theorem words_synthesize_spacedAim
    : IsQuotable spacedSettings spacedProject spacedAim ["@smoke", "not @slow"] none
      ∧ ∃ c, synthesize spacedSettings .posix spacedProject
            (spacedAim.tagged ["@smoke", "not @slow"]) .run none = .ok c
        ∧ words c.line = ["java", "-jar", "karate.jar", "-t", "not", "@slow", "-t", "@smoke",
            "/my p/all users", "-e", "dev"] := by
  have hown : ownArgs? spacedSettings spacedProject.effectiveBuildSystem
      = some "java -jar karate.jar" := by decide +kernel
  have hq : IsQuotable spacedSettings spacedProject spacedAim ["@smoke", "not @slow"] none := by
    refine ⟨by decide, by decide, by decide, nofun, by decide, fun args hargs => ?_⟩
    obtain rfl : "java -jar karate.jar" = args := Option.some.inj (hown.symm.trans hargs)
    decide
  have hc : synthesize spacedSettings .posix spacedProject
      (spacedAim.tagged ["@smoke", "not @slow"]) .run none
      = .ok ⟨"java -jar karate.jar -t not @slow -t @smoke \"/my p/all users\" -e dev",
          ⟨"/my p"⟩⟩ := by decide +kernel
  refine ⟨hq, _, hc, ?_⟩
  rw [words_synthesize hc hq]
  decide +kernel

end Command
end FeatureRunner
