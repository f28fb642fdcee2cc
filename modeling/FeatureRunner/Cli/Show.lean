import FeatureRunner.Cli.Location
import FeatureRunner.Cli.Transcript
import FeatureRunner.Command.Json
import FeatureRunner.DebugPort
import FeatureRunner.Report.Find
import FeatureRunner.Settings.Store
import FeatureRunner.Target.Json
import FeatureRunner.Target.OfFeature

/-!
This module contains the commands that show something and start nothing: the sections of a file, the
project and the reports of a target, the settings and a free debug port.
-/

namespace FeatureRunner
namespace Cli

def canonical (e : Surroundings) (p : Path) : Except Trouble Path :=
  Trouble.tryingIo ("Failed to resolve path " ++ p.text) (Files.canonical e.root e.cwd p)

def readText (e : Surroundings) (p : Path) : Except Trouble String :=
  Trouble.tryingIo ("Failed to read " ++ p.text) (e.view.readText p)

def loadSettings (e : Surroundings) (start : Path) : Except Trouble SettingsStore :=
  Trouble.trying "Failed to load configuration" (SettingsStore.loadNearest e.view start)

def kindOf (e : Surroundings) (target : Path) : TargetKind :=
  if e.view.isDirectory target then .directory else .file

def sections (e : Surroundings) (location : String) (json : Bool) : Except Trouble Transcript := do
  let location := Location.ofText location
  let file ← canonical e location.path
  let text ← readText e file
  let shown := ((Section.ofText text).zip (TestTarget.ofText file text)).filter fun (s, _) =>
    location.line.all s.containsLine
  pure <| .ofLines e <|
    if json then [(Json.array (shown.map fun (_, t) => t.toJson)).pretty]
    else Listing.ofFile file (shown.map (·.1))

def projectJson (p : Project) : Json :=
  .object [("build_system", p.buildSystem.toJson), ("project_root", p.root.toJson),
    ("run_file", p.runFile.toJson)]

def resolve (e : Surroundings) (path : Path) (json : Bool) : Except Trouble Transcript := do
  let target ← canonical e path
  let project := Project.resolve e.view.isFile target (kindOf e target)
  pure <| .ofLines e <|
    if json then [(projectJson project).pretty] else Listing.ofProject target project

def openAll (e : Surroundings) : List Path → Except Trouble Unit
  | [] => .ok ()
  | r :: rs =>
    match Trouble.trying ("Failed to open " ++ r.text) ((e.openReport r).mapError .io) with
    | .ok () => openAll e rs
    | .error trouble => .error trouble

def reports (e : Surroundings) (path : Path) (opens : Bool) : Except Trouble Transcript := do
  let target ← canonical e path
  let project := Project.resolve e.view.isFile target (kindOf e target)
  if !project.isResolved then
    pure (.ofLines e (Listing.unresolved target))
  else
    let store ← loadSettings e target
    let glob := store.settings.reports.toTarget
    let found ← Trouble.trying ("Failed to search " ++ project.root.text)
      (Report.find glob e.root e.cwd project.root)
    pure
      { Transcript.ofLines e (Listing.ofReports glob project.root found) with
        result := if opens then openAll e found else .ok () }

def port (e : Surroundings) : Except Trouble Transcript := do
  let store ← loadSettings e e.directory
  let allocator : PortAllocator := { override := store.settings.portOverride }
  let port ← Trouble.trying "Failed to allocate a debug port"
    (allocator.allocate e.isFree false).result
  pure (.ofLines e [Numeral.decimal port.toNat])

def showSettings (e : Surroundings) (start : Option Path) : Except Trouble Transcript := do
  let store ← loadSettings e (start.getD e.directory)
  let origin :=
    match store.file with
    | some file => "📄 Loaded from " ++ file.text
    | none => "ℹ️  No configuration file found, showing defaults"
  pure { Transcript.ofLines e [store.settings.toText] with errors := linesText [origin] }

def initSettings (e : Surroundings) (dir : Option Path) (force : Bool)
    : Except Trouble Transcript := do
  let file := (dir.getD e.directory).join ⟨Settings.mainFileName⟩
  if e.view.isThere file && !force then
    .error [.words ("Config already exists at " ++ file.text ++ " (use --force to overwrite)")]
  else
    let root ← Trouble.trying ("Failed to write config to " ++ file.text)
      (Settings.default.saveFile e.root e.cwd file)
    pure { Transcript.ofLines e ["✅ Created config: " ++ file.text] with root }

end Cli
end FeatureRunner
