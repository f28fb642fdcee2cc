import FeatureRunner.Proofs.Command.Needs
import FeatureRunner.Proofs.Command.Quoting
import Mathlib.Data.List.Chain

/-!
This module contains the spacing of command lines. `beside` puts one space between two texts unless
one of them is empty; `joinParts` is made of it, so it does not matter how parts are grouped when
they are joined (`joinParts_append`). The main statement is `synthesize_spaced`: a command line has
no blanks at its ends, and two spaces in a row only where a text that is placed in it has them.
-/

namespace FeatureRunner

open FeatureRunner.Text

namespace Command

def HasDoubledSpace (s : String) : Prop :=
  [' ', ' '] <:+: s.toList

def IsSingleSpaced (s : String) : Prop :=
  s.toList.IsChain fun c d => ¬ (c = ' ' ∧ d = ' ')

instance (s : String) : Decidable (HasDoubledSpace s) :=
  inferInstanceAs (Decidable (_ <:+: _))

instance (s : String) : Decidable (IsSingleSpaced s) :=
  inferInstanceAs (Decidable (List.IsChain _ _))

def beside (a b : String) : String :=
  if a = "" then b else if b = "" then a else a ++ " " ++ b

def placed (s : Settings) (p : Project) (t : TestTarget) (runnerClass : Option String)
    : List String :=
  (ownArgs? s p.buildSystem).toList ++
    match p.buildSystem with
    | .unresolved => []
    | .standaloneJar => [t.jarOptions, s.core.environment]
    | .nodePackage => [t.options]
    | .maven | .gradleGroovy | .gradleKotlin =>
      [p.runFile.text, t.options, s.core.environment] ++
        if s.direct.overrideRunner then [] else runnerClass.toList

/-- A command line without blanks at its ends in which the only spaces in a row are those of the
texts that are placed in it. -/
structure IsSpaced (placed : List String) (line : String) : Prop where
  ne_empty : line ≠ ""
  isTight : IsTight line.toList
  doubled : HasDoubledSpace line → ∃ text ∈ placed, HasDoubledSpace text

theorem isSingleSpaced_iff {s : String} : IsSingleSpaced s ↔ ¬ HasDoubledSpace s := by
  unfold IsSingleSpaced HasDoubledSpace
  rw [List.isChain_iff_forall_rel_of_append_cons_cons]
  constructor
  . rintro h ⟨front, back, heq⟩
    have hsplit : s.toList = front ++ ' ' :: ' ' :: back := by
      rw [← heq]
      simp
    exact h hsplit ⟨rfl, rfl⟩
  . rintro h c d front back heq ⟨rfl, rfl⟩
    exact h ⟨front, back, by rw [heq]; simp⟩

theorem isBlank_space : isBlank ' ' = true := by decide

section Ends

variable {cs : List Char}

theorem head?_ne_space (h : IsTight cs) : cs.head? ≠ some ' ' := by
  intro hhead
  simpa [isBlank_space] using h.head ' ' hhead

theorem getLast?_ne_space (h : IsTight cs) : cs.getLast? ≠ some ' ' := by
  intro hlast
  simpa [isBlank_space] using h.last ' ' hlast

end Ends

namespace IsSingleSpaced

variable {a b s : String}

theorem append (ha : IsSingleSpaced a) (hb : IsSingleSpaced b)
    (h : a.toList.getLast? ≠ some ' ' ∨ b.toList.head? ≠ some ' ')
    : IsSingleSpaced (a ++ b) := by
  unfold IsSingleSpaced
  rw [String.toList_append]
  apply List.IsChain.append ha hb
  rintro c hc d hd ⟨rfl, rfl⟩
  exact h.elim (· hc) (· hd)

theorem enclose (hs : IsSingleSpaced s) (ha : IsSingleSpaced a) (hb : IsSingleSpaced b)
    (hlast : a.toList.getLast? ≠ some ' ') (hhead : b.toList.head? ≠ some ' ')
    : IsSingleSpaced (a ++ s ++ b) :=
  (ha.append hs (.inl hlast)).append hb (.inr hhead)

theorem trim (h : IsSingleSpaced s) : IsSingleSpaced (trim s) := by
  obtain ⟨front, back, heq, -⟩ := liesInBlanks_trimChars s.toList
  unfold IsSingleSpaced
  rw [toList_trim]
  exact List.IsChain.infix h ⟨front, back, heq.symm⟩

theorem beside (ha : IsSingleSpaced a) (hb : IsSingleSpaced b) (hatight : IsTight a.toList)
    (hbtight : IsTight b.toList)
    : IsSingleSpaced (beside a b) := by
  unfold Command.beside
  split
  . exact hb
  . split
    . exact ha
    . have hspace : IsSingleSpaced " " := by decide
      have hfront : IsSingleSpaced (a ++ " ") := ha.append hspace (.inl (getLast?_ne_space hatight))
      exact hfront.append hb (.inr (head?_ne_space hbtight))

end IsSingleSpaced

section Beside

variable {a b : String}

theorem empty_beside (b : String) : beside "" b = b := by rfl

theorem beside_empty (a : String) : beside a "" = a := by
  unfold beside
  split
  . next h => exact h.symm
  . rfl

theorem beside_eq_empty_iff : beside a b = "" ↔ a = "" ∧ b = "" := by
  unfold beside
  split
  . next h => simp [h]
  . split
    . next ha hb => simp [ha, hb]
    . next ha hb => simp [ha]

theorem beside_assoc (a b c : String) : beside (beside a b) c = beside a (beside b c) := by
  by_cases ha : a = ""
  . rw [ha, empty_beside, empty_beside]
  . by_cases hb : b = ""
    . rw [hb, beside_empty, empty_beside]
    . by_cases hc : c = ""
      . rw [hc, beside_empty, beside_empty]
      . simp [beside, ha, hb, hc, String.append_assoc]

theorem isTight_beside (ha : IsTight a.toList) (hb : IsTight b.toList)
    : IsTight (beside a b).toList := by
  unfold beside
  split
  . exact hb
  . next hane =>
    split
    . exact ha
    . next hbne =>
      rw [String.toList_append, String.toList_append]
      exact isTight_append ha hb (by simpa using hane) (by simpa using hbne) [' ']

end Beside

section Parts

variable {parts : List String}

theorem joinParts_nil : joinParts [] = "" := by rfl

theorem joinParts_cons (part : String) (parts : List String)
    : joinParts (part :: parts) = beside (trim part) (joinParts parts) := by
  unfold joinParts
  rw [List.map_cons, List.filter_cons]
  split
  . next hsaid =>
    have hpart : trim part ≠ "" := by simpa using hsaid
    cases hrest : (parts.map trim).filter fun s => !s.isEmpty with
    | nil =>
      rw [joinStrings_singleton]
      exact (beside_empty _).symm
    | cons next rest =>
      have hnext : next.isEmpty = false := by
        have hmem : next ∈ (parts.map trim).filter fun s => !s.isEmpty := by simp [hrest]
        simpa using (List.mem_filter.1 hmem).2
      have hjoined : (joinStrings ' ' (next :: rest)).isEmpty = false :=
        isEmpty_joinStrings_cons hnext rest
      rw [joinStrings_cons, beside, if_neg hpart, if_neg (by simpa using hjoined)]
  . next hblank =>
    have hpart : trim part = "" := by simpa using hblank
    rw [hpart, empty_beside]

theorem joinParts_append (parts parts' : List String)
    : joinParts (parts ++ parts') = beside (joinParts parts) (joinParts parts') := by
  induction parts with
  | nil => rw [List.nil_append, joinParts_nil, empty_beside]
  | cons part parts ih => rw [List.cons_append, joinParts_cons, joinParts_cons, ih, beside_assoc]

theorem isTight_joinParts (parts : List String) : IsTight (joinParts parts).toList := by
  induction parts with
  | nil => exact ⟨nofun, nofun⟩
  | cons part parts ih =>
    rw [joinParts_cons]
    exact isTight_beside (isTight_trim part) ih

theorem joinParts_pair {a b : String} (ha : IsTight a.toList) (hb : IsTight b.toList)
    : joinParts [a, b] = beside a b := by
  rw [joinParts_cons, joinParts_cons, joinParts_nil, beside_empty, trim_of_isTight ha,
    trim_of_isTight hb]

theorem joinParts_ne_empty {part : String} (hpart : part ∈ parts) (h : trim part ≠ "")
    : joinParts parts ≠ "" := by
  induction parts with
  | nil => cases hpart
  | cons first parts ih =>
    rw [joinParts_cons, Ne, beside_eq_empty_iff]
    rintro ⟨hfirst, hrest⟩
    rcases List.mem_cons.1 hpart with rfl | hpart
    . exact h hfirst
    . exact ih hpart hrest

theorem isSingleSpaced_joinParts (h : ∀ part ∈ parts, IsSingleSpaced part)
    : IsSingleSpaced (joinParts parts) := by
  induction parts with
  | nil => exact .nil
  | cons part parts ih =>
    rw [List.forall_mem_cons] at h
    rw [joinParts_cons]
    exact h.1.trim.beside (ih h.2) (isTight_trim part) (isTight_joinParts parts)

end Parts

section Texts

variable {system : BuildSystem} {options : String}

theorem getLast?_append_of_ne_empty (a : String) {b : String} (h : b ≠ "")
    : (a ++ b).toList.getLast? = b.toList.getLast? := by
  rw [String.toList_append]
  exact List.getLast?_append_of_ne_nil _ (by simpa using h)

theorem isSingleSpaced_quoted {s : String} (h : IsSingleSpaced s)
    : IsSingleSpaced (TestTarget.quoted s) :=
  h.enclose (by decide) (by decide) (by decide) (by decide)

theorem isSingleSpaced_executable {wrapper : Bool} {platform : Platform} {executable : String}
    (h : executable? system wrapper platform = some executable)
    : IsSingleSpaced executable ∧ trim executable ≠ "" := by
  unfold executable? at h
  split at h <;> cases h <;> decide

theorem isSingleSpaced_phasesFor (system : BuildSystem) (clean direct : Bool)
    : IsSingleSpaced (phasesFor system clean direct) := by
  cases system <;> cases clean <;> cases direct <;> decide

theorem isSingleSpaced_buildFileSwitch (system : BuildSystem)
    : IsSingleSpaced (buildFileSwitch system) := by
  cases system <;> decide

theorem isSingleSpaced_environmentSwitch (system : BuildSystem) {environment : String}
    (h : IsSingleSpaced environment)
    : IsSingleSpaced (environmentSwitch system environment) := by
  have hhead := head?_ne_space (isTight_trim environment)
  have hjar : IsSingleSpaced ("-e " ++ trim environment) :=
    IsSingleSpaced.append (by decide) h.trim (.inr hhead)
  have htool : IsSingleSpaced ("-Dkarate.env=" ++ trim environment) :=
    IsSingleSpaced.append (by decide) h.trim (.inr hhead)
  unfold environmentSwitch
  dsimp only
  split
  . exact .nil
  . cases system with
    | standaloneJar => exact hjar
    | maven => exact htool
    | gradleGroovy => exact htool
    | gradleKotlin => exact htool
    | nodePackage => exact .nil
    | unresolved => exact .nil

theorem isSingleSpaced_directInvocation (system : BuildSystem) (h : IsSingleSpaced options)
    : IsSingleSpaced (directInvocation system options) := by
  unfold directInvocation
  split
  . exact h.enclose (by decide +kernel) (by decide) (by decide +kernel) (by decide)
  . exact h.enclose (by decide +kernel) (by decide) (by decide +kernel) (by decide)

theorem isSingleSpaced_runnerInvocation {name : String} (hname : IsSingleSpaced name)
    (htight : IsTight name.toList) (hne : name ≠ "") (h : IsSingleSpaced options)
    : IsSingleSpaced (runnerInvocation system name options) := by
  unfold runnerInvocation
  generalize hselector : (if system.isGradle then "--tests " else "-Dtest=") = selector
  have hswitch : IsSingleSpaced selector := by
    rw [← hselector]
    split <;> decide
  have hfront : IsSingleSpaced (selector ++ name) :=
    hswitch.append hname (.inr (head?_ne_space htight))
  have hlast : (selector ++ name).toList.getLast? ≠ some ' ' := by
    rw [getLast?_append_of_ne_empty selector hne]
    exact getLast?_ne_space htight
  refine h.enclose (hfront.append (by decide) (.inl hlast)) (by decide) ?_ (by decide)
  rw [getLast?_append_of_ne_empty _ (by decide)]
  decide

theorem isSingleSpaced_invocation {runnerClass : Option String} {direct : Bool} {call : String}
    (h : invocation system runnerClass options direct = .ok call) (hoptions : IsSingleSpaced options)
    (hclass : direct = false → ∀ given ∈ runnerClass, IsSingleSpaced given)
    : IsSingleSpaced call := by
  unfold invocation at h
  split at h
  . cases h
    exact isSingleSpaced_directInvocation system hoptions
  . next hdirect =>
    split at h
    . next name hname =>
      cases h
      obtain ⟨given, hgiven, rfl, hne⟩ := (nonBlank_eq_some_iff _ _).1 hname
      have hgiven := hclass (Bool.eq_false_iff.2 hdirect) given hgiven
      exact isSingleSpaced_runnerInvocation hgiven.trim (isTight_trim given) hne hoptions
    . cases h

end Texts

section Lines

variable {s : Settings} {platform : Platform} {system : BuildSystem} {p : Project} {t : TestTarget}
variable {runnerClass : Option String} {texts : List String} {line : String}

theorem isSpaced_of_isSingleSpaced (hne : line ≠ "") (htight : IsTight line.toList)
    (h : (∀ text ∈ texts, IsSingleSpaced text) → IsSingleSpaced line)
    : IsSpaced texts line where
  ne_empty := hne
  isTight := htight
  doubled := by
    intro hline
    by_contra hnone
    have htexts : ∀ text ∈ texts, IsSingleSpaced text := by
      intro text htext
      rw [isSingleSpaced_iff]
      exact fun hdoubled => hnone ⟨text, htext, hdoubled⟩
    exact isSingleSpaced_iff.1 (h htexts) hline

theorem isSpaced_joinParts {part : String} {parts : List String} (hpart : part ∈ parts)
    (hsaid : trim part ≠ "")
    (h : (∀ text ∈ texts, IsSingleSpaced text) → ∀ part ∈ parts, IsSingleSpaced part)
    : IsSpaced texts (joinParts parts) :=
  isSpaced_of_isSingleSpaced (joinParts_ne_empty hpart hsaid) (isTight_joinParts parts)
    fun htexts => isSingleSpaced_joinParts (h htexts)

theorem ownArgs?_of_extraArgs {extra : String} (hsystem : system.usesRunnerClass = true)
    (h : extraArgs s system = .ok extra)
    : ownArgs? s system = some extra := by
  obtain ⟨key, heq⟩ := exists_extraArgs_eq s hsystem
  rw [heq] at h
  exact eq_some_of_defined h

theorem isSpaced_jarLine (h : jarLine s t = .ok line)
    : IsSpaced (s.jar.commandLineArgs.toList ++ [t.jarOptions, s.core.environment]) line := by
  obtain ⟨args, hconfigured, rfl⟩ := exists_ok_of_map h
  obtain ⟨given, hgiven, rfl, hne⟩ := exists_of_configured hconfigured
  apply isSpaced_joinParts List.mem_cons_self
  . rwa [trim_trim]
  . intro htexts
    simp only [hgiven, Option.toList_some, List.singleton_append, List.forall_mem_cons] at htexts
    obtain ⟨hargs, hoptions, henvironment, -⟩ := htexts
    simp only [List.forall_mem_cons, List.not_mem_nil, false_implies, implies_true, and_true]
    exact ⟨hargs.trim, hoptions, isSingleSpaced_environmentSwitch _ henvironment⟩

theorem isSpaced_nodeLine (h : nodeLine s t = .ok line)
    : IsSpaced (s.node.commandLineArgs.toList ++ [t.options]) line := by
  obtain ⟨args, hconfigured, rfl⟩ := exists_ok_of_map h
  obtain ⟨given, hgiven, rfl, hne⟩ := exists_of_configured hconfigured
  apply isSpaced_of_isSingleSpaced
  . simp
  . have hquote : IsTight ['"'] := ⟨by simp [isBlank_quote], by simp [isBlank_quote]⟩
    have hgiven : (trim given).toList ≠ [] := mt String.toList_eq_nil_iff.1 hne
    have hline := isTight_append (isTight_trim given) hquote hgiven (by simp)
      (" \"".toList ++ t.options.toList)
    simpa using hline
  . intro htexts
    simp only [hgiven, Option.toList_some, List.singleton_append, List.forall_mem_cons] at htexts
    obtain ⟨hargs, hoptions, -⟩ := htexts
    have hlast := getLast?_ne_space (isTight_trim given)
    refine hoptions.enclose (hargs.trim.append (by decide) (.inl hlast)) (by decide) ?_ (by decide)
    rw [getLast?_append_of_ne_empty _ (by decide)]
    decide

theorem isSpaced_buildToolLine {runFile : Path} (hsystem : system.usesRunnerClass = true)
    (h : buildToolLine s platform system runFile t runnerClass = .ok line)
    : IsSpaced
        ((ownArgs? s system).toList ++ ([runFile.text, t.options, s.core.environment] ++
          if s.direct.overrideRunner then [] else runnerClass.toList))
        line := by
  obtain ⟨executable, extra, call, hexecutable, hextra, hcall, rfl⟩ := exists_of_buildToolLine h
  obtain ⟨hprogram, hsaid⟩ := isSingleSpaced_executable hexecutable
  apply isSpaced_joinParts List.mem_cons_self hsaid
  intro htexts
  simp only [ownArgs?_of_extraArgs hsystem hextra, Option.toList_some, List.forall_mem_append,
    List.forall_mem_cons, List.not_mem_nil, false_implies, implies_true, and_true] at htexts
  obtain ⟨hargs, ⟨hrunFile, hoptions, henvironment⟩, hclass⟩ := htexts
  have hcall : IsSingleSpaced call := by
    apply isSingleSpaced_invocation hcall hoptions
    intro hdirect given hgiven
    exact hclass given (by simpa [hdirect] using hgiven)
  simp only [List.forall_mem_cons, List.not_mem_nil, false_implies, implies_true, and_true]
  exact ⟨hprogram, isSingleSpaced_phasesFor _ _ _, isSingleSpaced_buildFileSwitch _,
    isSingleSpaced_quoted hrunFile, hcall, hargs, isSingleSpaced_environmentSwitch _ henvironment⟩

theorem isSpaced_lineFor (h : lineFor s platform p t runnerClass = .ok line)
    : IsSpaced (placed s p t runnerClass) line := by
  unfold lineFor at h
  rw [p.effectiveBuildSystem_eq] at h
  unfold placed
  cases hsystem : p.buildSystem with
  | unresolved => simp [hsystem] at h
  | standaloneJar =>
    rw [hsystem] at h
    exact isSpaced_jarLine h
  | nodePackage =>
    rw [hsystem] at h
    exact isSpaced_nodeLine h
  | maven =>
    rw [hsystem] at h
    exact isSpaced_buildToolLine rfl h
  | gradleGroovy =>
    rw [hsystem] at h
    exact isSpaced_buildToolLine rfl h
  | gradleKotlin =>
    rw [hsystem] at h
    exact isSpaced_buildToolLine rfl h

end Lines

/-- A command line is not empty, has no blanks at its ends, and has two spaces in a row only where a
text that is placed in it has them. Parts that were joined in two runs can be joined once more. -/
theorem synthesize_spaced
    : (∀ {s : Settings} {platform : Platform} {p : Project} {t : TestTarget} {mode : Mode}
        {runnerClass : Option String} {c : Command},
        synthesize s platform p t mode runnerClass = .ok c →
          IsSpaced (placed s p t runnerClass) c.line)
      ∧ ∀ parts parts' : List String,
        joinParts (parts ++ parts') = joinParts [joinParts parts, joinParts parts'] := by
  refine ⟨?_, ?_⟩
  . intro s platform p t mode runnerClass c h
    obtain ⟨line, hline, rfl⟩ := exists_ok_of_map h
    exact isSpaced_lineFor hline
  . intro parts parts'
    rw [joinParts_append, joinParts_pair (isTight_joinParts parts) (isTight_joinParts parts')]

def paddedSettings : Settings where
  core := { environment := "\tqa " }
  buildDirectory := { cleanBeforeEachRun := true }
  gradle := { commandLineArgs := some " \t " }

def paddedProject : Project :=
  ⟨⟨"/my p"⟩, ⟨"/my p/build.gradle.kts"⟩⟩

def paddedTarget : TestTarget :=
  .ofPath ⟨"/my p/a  b.feature"⟩ .file

def paddedLine : String :=
  "gradle clean test -b \"/my p/build.gradle.kts\" --tests UsersRunner "
    ++ "\"-Dkarate.options=/my p/a  b.feature\" -Dkarate.env=qa"

theorem synthesize_spaced_paddedSettings
    : synthesize paddedSettings .posix paddedProject paddedTarget .run (some " UsersRunner ")
        = .ok ⟨paddedLine, ⟨"/my p"⟩⟩
      ∧ IsSpaced (placed paddedSettings paddedProject paddedTarget (some " UsersRunner "))
        paddedLine
      ∧ HasDoubledSpace paddedLine
      ∧ placed paddedSettings paddedProject paddedTarget (some " UsersRunner ")
        = [" \t ", "/my p/build.gradle.kts", "/my p/a  b.feature", "\tqa ", " UsersRunner "]
      ∧ joinParts ([" a", ""] ++ ["\t", "b "]) = joinParts ["a", "b"] := by
  have hc : synthesize paddedSettings .posix paddedProject paddedTarget .run (some " UsersRunner ")
      = .ok ⟨paddedLine, ⟨"/my p"⟩⟩ := by decide +kernel
  refine ⟨hc, synthesize_spaced.1 hc, by decide +kernel, by decide +kernel, ?_⟩
  rw [synthesize_spaced.2]
  decide +kernel

end Command
end FeatureRunner
