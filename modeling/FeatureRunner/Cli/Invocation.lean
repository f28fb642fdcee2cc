import FeatureRunner.Cli.Grammar
import FeatureRunner.Path.Basic
import FeatureRunner.Target.Request

/-!
This module contains the grammar of the program's command line and `Invocation`, which is what
arguments of that grammar ask for.
-/

namespace FeatureRunner
namespace Cli

/-- What the command line asks for. A location is a path with an optional line. -/
inductive Invocation where
  /-- List the sections of a feature file. -/
  | sections (location : String) (json : Bool)
  /-- Show the project that a path belongs to. -/
  | resolve (path : Path) (json : Bool)
  /-- Run a feature file, a directory or a section, or only show the command for it. -/
  | execute (mode : Mode) (location : String) (tags : Option String) (dryRun : Bool)
  /-- Show a free debug port. -/
  | port
  /-- List the reports of the project that a path belongs to, and possibly open them. -/
  | reports (path : Path) (opens : Bool)
  /-- Show the settings for a path, or for the current directory. -/
  | showSettings (start : Option Path)
  /-- Write the default settings into a directory, or into the current one. -/
  | initSettings (dir : Option Path) (force : Bool)
  deriving DecidableEq

namespace Grammar

def helpSwitch : Switch := ⟨'h', "help", .refuse .help⟩

def versionSwitch : Switch := ⟨'V', "version", .refuse .version⟩

def jsonSwitch : Switch := ⟨'j', "json", .set⟩

def dryRunSwitch : Switch := ⟨'d', "dry-run", .set⟩

def leaf (names : List String) (switches : List Switch) (operands : List Operand) : Grammar :=
  .command names (switches ++ [helpSwitch]) operands []

def config : Grammar :=
  .command ["config"] [helpSwitch] []
    [leaf ["show"] [] [⟨"path", false⟩],
     leaf ["init"] [⟨'c', "cwd", .takeValue⟩, ⟨'f', "force", .set⟩] []]

def program : Grammar :=
  .command [] [helpSwitch, versionSwitch] []
    [leaf ["sections", "s"] [jsonSwitch] [⟨"filepath", true⟩],
     leaf ["resolve"] [jsonSwitch] [⟨"path", true⟩],
     leaf ["run", "r"] [⟨'t', "tags", .takeValue⟩, dryRunSwitch] [⟨"filepath", true⟩],
     leaf ["debug", "d"] [dryRunSwitch] [⟨"filepath", true⟩],
     leaf ["port"] [] [],
     leaf ["reports"] [⟨'o', "open", .set⟩] [⟨"path", true⟩],
     config]

end Grammar

namespace Invocation

def ofArguments? (a : Arguments) : Option Invocation :=
  match a.command with
  | ["sections"] => (a.value? "filepath").map fun l => .sections l (a.has "json")
  | ["resolve"] => (a.value? "path").map fun p => .resolve ⟨p⟩ (a.has "json")
  | ["run"] =>
    (a.value? "filepath").map fun l => .execute .run l (a.value? "tags") (a.has "dry-run")
  | ["debug"] => (a.value? "filepath").map fun l => .execute .debug l none (a.has "dry-run")
  | ["port"] => some .port
  | ["reports"] => (a.value? "path").map fun p => .reports ⟨p⟩ (a.has "open")
  | ["config", "show"] => some (.showSettings ((a.value? "path").map .mk))
  | ["config", "init"] => some (.initSettings ((a.value? "cwd").map .mk) (a.has "force"))
  | _ => none

def ofArgs (args : List String) : Except Refusal Invocation :=
  match Grammar.program.read args with
  | .error refusal => .error refusal
  | .ok a => ((ofArguments? a).map .ok).getD (.error .missingOperand)

end Invocation
end Cli
end FeatureRunner
