import FeatureRunner.Settings.Basic
import FeatureRunner.Json.Decode

/-!
This module contains the JSON form of settings. It is written with every key. When it is read, a
missing key takes its default and an explicit `null` disables a command line.
-/

namespace FeatureRunner

open FeatureRunner.Json

def argsKey : String := "command_line_args"

def argsJson (args : Option String) : String × Json :=
  (argsKey, Json.ofOption .string args)

def argsMember (set : Option String → σ → σ) : Decode.Member σ :=
  Decode.member argsKey (Decode.option Decode.string) set

namespace CoreSettings

def toJson (s : CoreSettings) : Json :=
  .object [("environment", .string s.environment), ("use_wrapper", .bool s.useWrapper)]

def members : List (Decode.Member CoreSettings) :=
  [Decode.member "environment" Decode.string fun a s => { s with environment := a },
   Decode.member "use_wrapper" Decode.bool fun a s => { s with useWrapper := a }]

end CoreSettings

namespace RunnerSettings

def toJson (s : RunnerSettings) : Json :=
  .object [("default", Json.ofOption .string s.default),
    ("prompt_to_specify", .bool s.promptToSpecify)]

def members : List (Decode.Member RunnerSettings) :=
  [Decode.member "default" (Decode.option Decode.string) fun a s => { s with default := a },
   Decode.member "prompt_to_specify" Decode.bool fun a s => { s with promptToSpecify := a }]

def missing : RunnerSettings where
  default := defaultRunnerClass
  promptToSpecify := false

end RunnerSettings

namespace BuildDirectorySettings

def toJson (s : BuildDirectorySettings) : Json :=
  .object [("clean_before_each_run", .bool s.cleanBeforeEachRun)]

def members : List (Decode.Member BuildDirectorySettings) :=
  [Decode.member "clean_before_each_run" Decode.bool fun a s => { s with cleanBeforeEachRun := a }]

end BuildDirectorySettings

namespace JarSettings

def toJson (s : JarSettings) : Json :=
  .object [argsJson s.commandLineArgs]

def members : List (Decode.Member JarSettings) :=
  [argsMember fun a s => { s with commandLineArgs := a }]

def missing : JarSettings where
  commandLineArgs := defaultJarArgs

end JarSettings

namespace NodeSettings

def toJson (s : NodeSettings) : Json :=
  .object [argsJson s.commandLineArgs]

def members : List (Decode.Member NodeSettings) :=
  [argsMember fun a s => { s with commandLineArgs := a }]

def missing : NodeSettings where
  commandLineArgs := defaultNodeArgs

end NodeSettings

namespace DirectSettings

def toJson (s : DirectSettings) : Json :=
  .object [("override_karate_runner", .bool s.overrideRunner), argsJson s.commandLineArgs]

def members : List (Decode.Member DirectSettings) :=
  [Decode.member "override_karate_runner" Decode.bool fun a s => { s with overrideRunner := a },
   argsMember fun a s => { s with commandLineArgs := a }]

def missing : DirectSettings where
  overrideRunner := false
  commandLineArgs := defaultExtraArgs

end DirectSettings

namespace BuildToolSettings

def toJson (s : BuildToolSettings) : Json :=
  .object [argsJson s.commandLineArgs]

def members : List (Decode.Member BuildToolSettings) :=
  [argsMember fun a s => { s with commandLineArgs := a }]

def missing : BuildToolSettings where
  commandLineArgs := defaultExtraArgs

end BuildToolSettings

namespace ReportSettings

def toJson (s : ReportSettings) : Json :=
  .object [("to_target", .string s.toTarget), ("open_after_each_run", .bool s.openAfterEachRun)]

def members : List (Decode.Member ReportSettings) :=
  [Decode.member "to_target" Decode.string fun a s => { s with toTarget := a },
   Decode.member "open_after_each_run" Decode.bool fun a s => { s with openAfterEachRun := a }]

def missing : ReportSettings where
  toTarget := defaultReportGlob
  openAfterEachRun := false

end ReportSettings

namespace DebuggerSettings

def toJson (s : DebuggerSettings) : Json :=
  .object [("server_port_number", .number s.serverPort.toInt)]

def members : List (Decode.Member DebuggerSettings) :=
  [Decode.member "server_port_number" Decode.int32 fun a s => { s with serverPort := a }]

def missing : DebuggerSettings where
  serverPort := defaultPort

end DebuggerSettings

namespace Settings

def toJson (s : Settings) : Json :=
  .object
    [("core", s.core.toJson), ("karate_runner", s.runner.toJson),
     ("build_directory", s.buildDirectory.toJson), ("karate_jar", s.jar.toJson),
     ("node", s.node.toJson), ("karate_cli", s.direct.toJson), ("maven", s.maven.toJson),
     ("gradle", s.gradle.toJson), ("build_reports", s.reports.toJson),
     ("debugger", s.debugger.toJson)]

def members (origin : Origin) : List (Decode.Member Settings) :=
  [Decode.member "core" (Decode.record origin CoreSettings.members {})
     fun a s => { s with core := a },
   Decode.member "karate_runner" (Decode.record origin RunnerSettings.members .missing)
     fun a s => { s with runner := a },
   Decode.member "build_directory" (Decode.record origin BuildDirectorySettings.members {})
     fun a s => { s with buildDirectory := a },
   Decode.member "karate_jar" (Decode.record origin JarSettings.members .missing)
     fun a s => { s with jar := a },
   Decode.member "node" (Decode.record origin NodeSettings.members .missing)
     fun a s => { s with node := a },
   Decode.member "karate_cli" (Decode.record origin DirectSettings.members .missing)
     fun a s => { s with direct := a },
   Decode.member "maven" (Decode.record origin BuildToolSettings.members .missing)
     fun a s => { s with maven := a },
   Decode.member "gradle" (Decode.record origin BuildToolSettings.members .missing)
     fun a s => { s with gradle := a },
   Decode.member "build_reports" (Decode.record origin ReportSettings.members .missing)
     fun a s => { s with reports := a },
   Decode.member "debugger" (Decode.record origin DebuggerSettings.members .missing)
     fun a s => { s with debugger := a }]

def decode (origin : Origin) : Decoder Settings :=
  Decode.record origin (members origin) default

def ofText (text : String) : Except Fault Settings :=
  Json.decodeText (decode .text) text

def toText (s : Settings) : String :=
  s.toJson.pretty

end Settings
end FeatureRunner
