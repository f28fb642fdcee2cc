import FeatureRunner.Command.Basic
import FeatureRunner.Target.Json

/-!
This module contains the JSON form of build systems, projects and commands.
-/

namespace FeatureRunner

open FeatureRunner.Json

namespace BuildSystem

def names : List (String × BuildSystem) :=
  [("maven", .maven), ("gradle_groovy", .gradleGroovy), ("gradle_kotlin", .gradleKotlin),
   ("node_package", .nodePackage), ("standalone_jar", .standaloneJar),
   ("unresolved", .unresolved)]

def name : BuildSystem → String
  | maven => "maven"
  | gradleGroovy => "gradle_groovy"
  | gradleKotlin => "gradle_kotlin"
  | nodePackage => "node_package"
  | standaloneJar => "standalone_jar"
  | unresolved => "unresolved"

def toJson (system : BuildSystem) : Json :=
  .string system.name

def decode : Decoder BuildSystem :=
  Decode.choice names

end BuildSystem

namespace Project

def toJson (p : Project) : Json :=
  .object [("project_root", p.root.toJson), ("run_file", p.runFile.toJson)]

/-- A project of which some parts are not known yet. -/
structure Partial where
  root : Option Path := none
  runFile : Option Path := none

def Partial.members : List (Decode.Member Partial) :=
  [Decode.member "project_root" Path.decode fun a p => { p with root := some a },
   Decode.member "run_file" Path.decode fun a p => { p with runFile := some a }]

def Partial.complete (p : Partial) : Except Fault Project := do
  pure { root := ← Decode.required p.root, runFile := ← Decode.required p.runFile }

def decode (origin : Origin) : Decoder Project := fun d =>
  Decode.record origin Partial.members {} d >>= Partial.complete

end Project

namespace Command

def toJson (c : Command) : Json :=
  .object [("command_line", .string c.line), ("working_directory", c.directory.toJson)]

/-- A command of which some parts are not known yet. -/
structure Partial where
  line : Option String := none
  directory : Option Path := none

def Partial.members : List (Decode.Member Partial) :=
  [Decode.member "command_line" Decode.string fun a c => { c with line := some a },
   Decode.member "working_directory" Path.decode fun a c => { c with directory := some a }]

def Partial.complete (c : Partial) : Except Fault Command := do
  pure { line := ← Decode.required c.line, directory := ← Decode.required c.directory }

def decode (origin : Origin) : Decoder Command := fun d =>
  Decode.record origin Partial.members {} d >>= Partial.complete

end Command
end FeatureRunner
