import FeatureRunner.Cli.Prompt
import FeatureRunner.Cli.Show
import FeatureRunner.Report.Watch
import FeatureRunner.Session.Basic
import FeatureRunner.Session.DryRun
import FeatureRunner.Session.Executor
import FeatureRunner.Settings.Check
import FeatureRunner.Shell.Launch

/-!
This module contains the commands that run a target, or show what a run would do. A run is one
request to a session; the shell plays the part of the executor, and the watch looks at the changes
that the shell makes.
-/

namespace FeatureRunner
namespace Cli

/-- The request for a target. A line narrows a file to a section; directories ignore it. -/
def buildRequest (e : Surroundings) (path : Path) (line : Option UInt32) (tags : Option String)
    (mode : Mode) : Except Trouble Request := do
  let target : TestTarget ←
    if e.view.isDirectory path then
      pure (.ofPath path .directory)
    else
      match line with
      | none => pure (.ofPath path .file)
      | some line => (readText e path).map fun text => .atLine path text line
  pure ⟨tags.elim target target.withTags, mode⟩

def questions (calls : List Call) : String :=
  String.join <| calls.filterMap fun
    | .prompt title default _ => some (Prompt.question title default)
    | _ => none

def answer (e : Surroundings) (default : String) : Option String :=
  (Prompt.ask e.input default).1

def savedRoot (e : Surroundings) (store : SettingsStore) (calls : List Call) : Node :=
  calls.foldl (fun root call =>
    match call with
    | .save s => ((store.saved root e.cwd s).toOption).getD root
    | _ => root) e.root

def dryRun (e : Surroundings) (s : Settings) (q : Request) : Except Trouble Transcript :=
  let found := DryRun.ofRequest s e.root e.cwd .posix e.view.isFile (answer e) q
  let shown (lines : List String) : Transcript :=
    { output := linesText lines
      errors := questions found.choice.calls
      root := savedRoot e (.inMemory s) found.choice.calls }
  match found.command with
  | .ok command => .ok (shown (Listing.ofCommand found.project command))
  | .error f =>
    if f.isSilent then .ok (shown (Listing.nothing f.message))
    else .error (.words "Failed to build command" :: Trouble.ofFailure f)

def blockSize : Nat := 8192

/-- The input that is left for a task. A question reads whole blocks until it has a line. -/
def taskInput (e : Surroundings) (calls : List Call) : List UInt8 :=
  if calls.any fun | .prompt _ _ _ => true | _ => false then
    let line := (Prompt.takeLine e.input).1
    e.input.drop ((line.length + blockSize - 1) / blockSize * blockSize)
  else e.input

def endedTask (handle : TaskHandle) (reports : List Path) : Task where
  handle := handle
  reports i := if i = 0 then reports else []
  ended _ := [handle]
  bound := 0
  handle_mem_ended := by simp

/-- The answers of the files to a session, and of the shell, which was told to run the command.
`root` is the tree that the task sees. -/
def replies (e : Surroundings) (store : SettingsStore) (root : Node)
    (launched : Except IoFault Shell.Finished) : Replies where
  isFile := e.view.isFile
  isFree := e.isFree
  answer := answer e
  save := store.save e.root e.cwd
  watch glob dir := (Report.Watch.start glob root e.cwd dir).map fun _ => ()
  launch c :=
    (({} : Executor Shell.Finished).execute Session.taskName c launched).1.map fun handle =>
      endedTask handle <|
        match Report.Watch.start store.settings.reports.toTarget root e.cwd c.directory,
            launched with
        | .ok watch, .ok finished => watch.reports root finished.disk.changes
        | _, _ => []
  opens r := (e.openReport r).toOption.isSome

def isStarted (calls : List Call) : Bool :=
  calls.any fun
    | .execute _ _ => true
    | _ => false

def run (e : Surroundings) (store : SettingsStore) (q : Request) : Transcript :=
  let session := Session.start store.settings .posix
  let prepared := session.prepare (replies e store e.root (.error .notFound)) q
  let root := savedRoot e store prepared.calls
  let launched : Except IoFault Shell.Finished :=
    match prepared.result with
    | .ok (_, command) => Shell.launchCommand root e.cwd (taskInput e prepared.calls) command
    | .error _ => .error .notFound
  let step := session.requested (replies e store root launched) q.mode q
  let finished := if isStarted step.calls then launched.toOption else none
  let ending : Except Trouble (List String) :=
    match Trouble.trying "Run failed" step.result with
    | .ok (.skipped reason) => .ok (Listing.nothing reason)
    | .ok (.completed reports) => .ok (Listing.ofFinished reports)
    | .error trouble => .error trouble
  { output := linesText (step.calls.flatMap Listing.ofCall) ++
      (finished.map (·.output)).getD "" ++ linesText (ending.toOption.getD [])
    errors := questions step.calls ++ (finished.map (·.errors)).getD ""
    root := (finished.map (·.disk.root)).getD (savedRoot e store step.calls)
    result := ending.map fun _ => () }

/-- Runs a target, or shows what a run would do. The settings are checked before either. -/
def execute (e : Surroundings) (mode : Mode) (location : String) (tags : Option String)
    (dry : Bool) : Except Trouble Transcript := do
  let location := Location.ofText location
  let target ← canonical e location.path
  let request ← buildRequest e target location.line tags mode
  let store ← loadSettings e target
  Trouble.trying "Invalid configuration" store.settings.check
  if dry then dryRun e store.settings request else pure (run e store request)

end Cli
end FeatureRunner
