import FeatureRunner.Settings.Json
import FeatureRunner.Proofs.Json.Reading
import FeatureRunner.Proofs.Json.Records

/-!
This module contains what settings are when keys are missing from their JSON form. Each section
restores the keys that are there onto its blank form, and so do the sections together; the main
statement is `decode_of_parts`.
-/

namespace FeatureRunner

open FeatureRunner.Json
open FeatureRunner.Json.Decode

/-! ### Sections -/

namespace CoreSettings

def onto (s t : CoreSettings) (kept : String → Bool) : CoreSettings where
  environment := if kept "environment" then s.environment else t.environment
  useWrapper := if kept "use_wrapper" then s.useWrapper else t.useWrapper

theorem restores (s : CoreSettings)
    : Restores members { } (memberDrafts s.toJson) (s.onto { }) where
  start := rfl
  nodup := by simp [memberDrafts, Json.members, toJson]
  set := by simp [members, member, memberDrafts, Json.members, toJson, Except.map, onto]
  congr := by simp +contextual [memberDrafts, Json.members, toJson, onto]

end CoreSettings

namespace RunnerSettings

def onto (s t : RunnerSettings) (kept : String → Bool) : RunnerSettings where
  default := if kept "default" then s.default else t.default
  promptToSpecify := if kept "prompt_to_specify" then s.promptToSpecify else t.promptToSpecify

theorem restores (s : RunnerSettings)
    : Restores members missing (memberDrafts s.toJson) (s.onto missing) where
  start := rfl
  nodup := by simp [memberDrafts, Json.members, toJson]
  set := by simp [members, member, memberDrafts, Json.members, toJson, Except.map, onto]
  congr := by simp +contextual [memberDrafts, Json.members, toJson, onto]

end RunnerSettings

namespace BuildDirectorySettings

def onto (s t : BuildDirectorySettings) (kept : String → Bool) : BuildDirectorySettings where
  cleanBeforeEachRun :=
    if kept "clean_before_each_run" then s.cleanBeforeEachRun else t.cleanBeforeEachRun

theorem restores (s : BuildDirectorySettings)
    : Restores members { } (memberDrafts s.toJson) (s.onto { }) where
  start := rfl
  nodup := by simp [memberDrafts, Json.members, toJson]
  set := by simp [members, member, memberDrafts, Json.members, toJson, Except.map, onto]
  congr := by simp +contextual [memberDrafts, Json.members, toJson, onto]

end BuildDirectorySettings

namespace JarSettings

def onto (s t : JarSettings) (kept : String → Bool) : JarSettings where
  commandLineArgs := if kept argsKey then s.commandLineArgs else t.commandLineArgs

theorem restores (s : JarSettings)
    : Restores members missing (memberDrafts s.toJson) (s.onto missing) where
  start := rfl
  nodup := by simp [memberDrafts, Json.members, toJson]
  set := by
    simp [members, argsMember, member, memberDrafts, Json.members, toJson, argsJson, Except.map,
      onto]
  congr := by simp +contextual [memberDrafts, Json.members, toJson, argsJson, onto]

end JarSettings

namespace NodeSettings

def onto (s t : NodeSettings) (kept : String → Bool) : NodeSettings where
  commandLineArgs := if kept argsKey then s.commandLineArgs else t.commandLineArgs

theorem restores (s : NodeSettings)
    : Restores members missing (memberDrafts s.toJson) (s.onto missing) where
  start := rfl
  nodup := by simp [memberDrafts, Json.members, toJson]
  set := by
    simp [members, argsMember, member, memberDrafts, Json.members, toJson, argsJson, Except.map,
      onto]
  congr := by simp +contextual [memberDrafts, Json.members, toJson, argsJson, onto]

end NodeSettings

namespace DirectSettings

theorem argsKey_ne_overrideKey : argsKey ≠ "override_karate_runner" := by
  decide

def onto (s t : DirectSettings) (kept : String → Bool) : DirectSettings where
  overrideRunner := if kept "override_karate_runner" then s.overrideRunner else t.overrideRunner
  commandLineArgs := if kept argsKey then s.commandLineArgs else t.commandLineArgs

theorem restores (s : DirectSettings)
    : Restores members missing (memberDrafts s.toJson) (s.onto missing) where
  start := rfl
  nodup := by simp [memberDrafts, Json.members, toJson, argsJson, argsKey_ne_overrideKey.symm]
  set := by
    simp [members, argsMember, member, memberDrafts, Json.members, toJson, argsJson, Except.map,
      onto, argsKey_ne_overrideKey, argsKey_ne_overrideKey.symm]
  congr := by simp +contextual [memberDrafts, Json.members, toJson, argsJson, onto]

end DirectSettings

namespace BuildToolSettings

def onto (s t : BuildToolSettings) (kept : String → Bool) : BuildToolSettings where
  commandLineArgs := if kept argsKey then s.commandLineArgs else t.commandLineArgs

theorem restores (s : BuildToolSettings)
    : Restores members missing (memberDrafts s.toJson) (s.onto missing) where
  start := rfl
  nodup := by simp [memberDrafts, Json.members, toJson]
  set := by
    simp [members, argsMember, member, memberDrafts, Json.members, toJson, argsJson, Except.map,
      onto]
  congr := by simp +contextual [memberDrafts, Json.members, toJson, argsJson, onto]

end BuildToolSettings

namespace ReportSettings

def onto (s t : ReportSettings) (kept : String → Bool) : ReportSettings where
  toTarget := if kept "to_target" then s.toTarget else t.toTarget
  openAfterEachRun := if kept "open_after_each_run" then s.openAfterEachRun else t.openAfterEachRun

theorem restores (s : ReportSettings)
    : Restores members missing (memberDrafts s.toJson) (s.onto missing) where
  start := rfl
  nodup := by simp [memberDrafts, Json.members, toJson]
  set := by simp [members, member, memberDrafts, Json.members, toJson, Except.map, onto]
  congr := by simp +contextual [memberDrafts, Json.members, toJson, onto]

end ReportSettings

namespace DebuggerSettings

def onto (s t : DebuggerSettings) (kept : String → Bool) : DebuggerSettings where
  serverPort := if kept "server_port_number" then s.serverPort else t.serverPort

theorem restores (s : DebuggerSettings)
    : Restores members missing (memberDrafts s.toJson) (s.onto missing) where
  start := rfl
  nodup := by simp [memberDrafts, Json.members, toJson]
  set := by simp [members, member, memberDrafts, Json.members, toJson, Except.map, onto]
  congr := by simp +contextual [memberDrafts, Json.members, toJson, onto]

end DebuggerSettings

/-! ### All sections -/

namespace Settings

def onto (s t : Settings) (kept : String → String → Bool) : Settings where
  core := s.core.onto t.core (kept "core")
  runner := s.runner.onto t.runner (kept "karate_runner")
  buildDirectory := s.buildDirectory.onto t.buildDirectory (kept "build_directory")
  jar := s.jar.onto t.jar (kept "karate_jar")
  node := s.node.onto t.node (kept "node")
  direct := s.direct.onto t.direct (kept "karate_cli")
  maven := s.maven.onto t.maven (kept "maven")
  gradle := s.gradle.onto t.gradle (kept "gradle")
  reports := s.reports.onto t.reports (kept "build_reports")
  debugger := s.debugger.onto t.debugger (kept "debugger")

theorem default_eq_missing
    : default
        = { runner := .missing, jar := .missing, node := .missing, direct := .missing
            maven := .missing, gradle := .missing, reports := .missing, debugger := .missing } :=
  rfl

def sections (s : Settings) : List (String × List (String × Draft)) :=
  s.toJson.members.map fun (name, part) => (name, memberDrafts part)

def partDraft (parts : String → List (String × Draft)) (name : String) : Draft :=
  .object (readable (parts name)) none

theorem restores (s : Settings) {parts : String → List (String × Draft)}
    (hparts : ∀ part ∈ s.sections, IsPart part.2 (parts part.1)) (origin : Origin)
    : Restores (members origin) default
        (s.sections.map fun part => (part.1, partDraft parts part.1))
        (fun kept => s.onto default fun part key =>
          kept part && key ∈ (parts part).map Prod.fst) where
  start := rfl
  nodup := by simp [sections, toJson, Json.members]
  set := by
    simp only [sections, toJson, Json.members, List.map_cons, List.map_nil,
      List.forall_mem_cons] at hparts ⊢
    obtain ⟨hcore, hrunner, hdirectory, hjar, hnode, hdirect, hmaven, hgradle, hreports,
      hdebugger, -⟩ := hparts
    have hcore := s.core.restores.record_of_isPart hcore origin
    have hrunner := s.runner.restores.record_of_isPart hrunner origin
    have hdirectory := s.buildDirectory.restores.record_of_isPart hdirectory origin
    have hjar := s.jar.restores.record_of_isPart hjar origin
    have hnode := s.node.restores.record_of_isPart hnode origin
    have hdirect := s.direct.restores.record_of_isPart hdirect origin
    have hmaven := s.maven.restores.record_of_isPart hmaven origin
    have hgradle := s.gradle.restores.record_of_isPart hgradle origin
    have hreports := s.reports.restores.record_of_isPart hreports origin
    have hdebugger := s.debugger.restores.record_of_isPart hdebugger origin
    simp [-List.mem_map, onto, default_eq_missing, members, member, partDraft, Except.map, *]
  congr := by
    intro kept kept' h
    simp [sections, toJson, Json.members] at h
    simp [onto, h]

def kept (parts : String → List (String × Draft)) (ms : List (String × Draft))
    (part key : String)
    : Bool :=
  part ∈ ms.map Prod.fst && key ∈ (parts part).map Prod.fst

/--
An object with some of the sections, each with some of its keys, in any order and among unknown
keys, stands for the settings in which every missing key has its default.
-/
theorem decode_of_parts (s : Settings) {parts : String → List (String × Draft)}
    {ms : List (String × Draft)} (hparts : ∀ part ∈ s.sections, IsPart part.2 (parts part.1))
    (hms : IsPart (s.sections.map fun part => (part.1, partDraft parts part.1)) ms)
    : (∀ origin, decode origin (.object (readable ms) none) = .ok (s.onto default (kept parts ms)))
      ∧ ∀ text, Draft.read text = (.object (readable ms) none, none) →
        ofText text = .ok (s.onto default (kept parts ms)) := by
  have hdecode : ∀ origin, decode origin (.object (readable ms) none)
      = .ok (s.onto default (kept parts ms)) :=
    fun origin => (s.restores hparts origin).record_of_isPart hms origin
  refine ⟨hdecode, ?_⟩
  intro text htext
  simp only [ofText, decodeText, htext, hdecode]
  rfl

theorem decode_of_parts_explicitNull
    : ofText (Json.compact (.object
        [("version", .number 2), ("karate_jar", .object [("command_line_args", .null)]),
         ("core", .object [("note", .bool true), ("environment", .string "qa")])]))
        = .ok { core := { environment := "qa" }, jar := { commandLineArgs := none } } := by
  let s : Settings :=
    { core := { environment := "qa", useWrapper := true }, jar := { commandLineArgs := none },
      maven := { commandLineArgs := none } }
  let parts : String → List (String × Draft) := fun part =>
    if part = "core" then [("note", .bool true), ("environment", .string (.ok "qa"))]
    else if part = "karate_jar" then [("command_line_args", .null)]
    else []
  have hparts : ∀ part ∈ s.sections, IsPart part.2 (parts part.1) := by
    simp only [sections, toJson, Json.members, List.map_cons, List.map_nil, List.forall_mem_cons]
    have hcore : IsPart (memberDrafts s.core.toJson) (parts "core") := by
      constructor <;> simp [s, parts, memberDrafts, Json.members, CoreSettings.toJson, toDraft]
    have hjar : IsPart (memberDrafts s.jar.toJson) (parts "karate_jar") := by
      constructor <;>
        simp [s, parts, memberDrafts, Json.members, JarSettings.toJson, argsJson, argsKey,
          Json.ofOption, toDraft]
    have hblank : ∀ part, part ≠ "core" → part ≠ "karate_jar" → parts part = [] := by
      intro part hne hne'
      simp [parts, hne, hne']
    simp [hcore, hjar, hblank]
  have hms : IsPart (s.sections.map fun part => (part.1, partDraft parts part.1))
      [("version", .number (.ok (.integer 2))), ("karate_jar", partDraft parts "karate_jar"),
       ("core", partDraft parts "core")] := by
    constructor <;> simp [sections, toJson, Json.members]
  refine (decode_of_parts s hparts hms).2 _ ?_
  rw [Json.compact, read_write Layout.isBlank_dense]
  . simp [toDraft, toDraftMembers, toDraftMember, partDraft, parts, readable]
  . simp [IsExact]

end Settings
end FeatureRunner
