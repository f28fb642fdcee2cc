import FeatureRunner.DebugPort
import FeatureRunner.Session.RunnerClass
import FeatureRunner.Session.State
import FeatureRunner.Session.Task

/-!
This module contains `Session`, which handles one request after the other: it finds the project of
the target, chooses a runner class, puts the command together, starts it as a task, waits for the
end of the task and hands back the reports that were written meanwhile.

Everything that a session cannot decide by itself is in `Replies`, the answers of the outside during
one request. A request gives a `Step`: the session afterwards, the calls that were made, in order,
and how the request ended. The watch is registered before the task starts and disposed after it
ended, on every way out.
-/

namespace FeatureRunner

/-- Where a session is within a request. -/
inductive Phase where
  | idle
  | preparing
  | running
  | reconciling
  deriving DecidableEq

/-- How a request ends when it does not fail. -/
inductive Outcome where
  /-- Nothing was started. -/
  | skipped (reason : String)
  /-- The task ended; these reports were written while it ran, in the order they were first seen. -/
  | completed (reports : List Path)
  deriving DecidableEq

/-- The answers of the outside during one request. -/
structure Replies where
  isFile : Path → Bool
  isFree : UInt16 → Bool
  /-- The user's answer to a question with the given default; `none` to cancel. -/
  answer : String → Option String
  save : Settings → Except Failure Unit
  /-- The answer to the wish to watch for reports that match a pattern below a root. -/
  watch : String → Path → Except Failure Unit
  launch : Command → Except Failure Task
  /-- Does the report open? -/
  opens : Path → Bool

/-- What a session keeps from one request to the next. -/
structure Session where
  settings : Settings
  platform : Command.Platform
  ports : PortAllocator
  state : RunState := {}
  phase : Phase := .idle
  /-- The requests whose task was run to its end, oldest first. -/
  history : List Request := []
  /-- The runner class that was answered to a question. -/
  runnerClass : Option String := none

/-- What handling a request gives. -/
structure Step (α : Type) where
  result : Except Failure α
  session : Session
  calls : List Call

namespace Session

def taskName : String := "Karate Runner"

def start (settings : Settings) (platform : Command.Platform) : Session where
  settings := settings
  platform := platform
  ports := { override := settings.portOverride }

/--
The runner class for a request. An answer to a question counts for the rest of the session; if the
user cancels, the next request asks again.
-/
def chooseRunnerClass (s : Session) (r : Replies) (system : BuildSystem)
    : Step (Option String) :=
  let asks := RunnerClass.isNeeded system s.settings && s.settings.runner.promptToSpecify
  match if asks then s.runnerClass else none with
  | some runnerClass => ⟨.ok (some runnerClass), s, []⟩
  | none =>
    let choice := RunnerClass.choose system s.settings r.answer r.save
    let s := { s with settings := choice.settings }
    match choice.result with
    | .error f => ⟨.error f, s, choice.calls⟩
    | .ok runnerClass =>
      ⟨.ok runnerClass, if asks then { s with runnerClass } else s, choice.calls⟩

def prepare (s : Session) (r : Replies) (q : Request) : Step (Project × Command) :=
  let project := Project.resolve r.isFile q.target.path q.target.kind
  let chosen := s.chooseRunnerClass r project.buildSystem
  match chosen.result with
  | .error f => ⟨.error f, chosen.session, chosen.calls⟩
  | .ok runnerClass =>
    ⟨(Command.synthesize chosen.session.settings s.platform project q.target q.mode
        runnerClass).map fun command => (project, command),
      chosen.session, chosen.calls⟩

def idle (s : Session) : Session :=
  { s with state := { s.state with isExecuting := false }, phase := .idle }

/-- Waits for a task that has just been started and asks for reports once more when it has ended. -/
def waitFor (s : Session) (t : Task) : Step (List Path) :=
  let (target, state) := { s.state with isExecuting := true }.takeDebugTarget
  let wait := t.wait state
  let last := t.reports wait.asked
  let (reports, state) := { wait.state.collect last with isExecuting := false }.takeReports
  { result := .ok reports
    session := { s with state, phase := .reconciling }
    calls := .busy true :: (target.map Call.debugReady).toList ++ wait.calls ++
      [.drain last, .dispose, .busy false] }

def runTask (s : Session) (r : Replies) (p : Project) (c : Command) : Step (List Path) :=
  let glob := s.settings.reports.toTarget
  let watched := Call.watch glob p.root
  match r.watch glob p.root with
  | .error f => ⟨.error f, s, [watched]⟩
  | .ok _ =>
    let started := Call.execute taskName c
    match r.launch c with
    | .error f => ⟨.error f, s, [watched, started, .dispose]⟩
    | .ok task =>
      let run := s.waitFor task
      { run with calls := watched :: started :: run.calls }

def openingCalls (s : Settings) (r : Replies) (reports : List Path) : List Call :=
  if s.reports.openAfterEachRun then
    reports.map fun report => .openReport report (r.opens report)
  else
    []

/-- The end of a request that failed. A silent failure only means that there is nothing to run. -/
def giveUp (s : Session) (calls : List Call) (f : Failure) : Step Outcome :=
  { result := if f.isSilent then .ok (.skipped f.message) else .error f
    session := s.idle
    calls := calls ++ [.busy false] }

def execute (s : Session) (r : Replies) (q : Request) : Step Outcome :=
  let prepared := { s with phase := .preparing }.prepare r q
  match prepared.result with
  | .error f => prepared.session.giveUp prepared.calls f
  | .ok (project, command) =>
    let run := { prepared.session with phase := .running }.runTask r project command
    match run.result with
    | .error f =>
      { result := .error f
        session := run.session.idle
        calls := prepared.calls ++ run.calls ++ [.busy false] }
    | .ok reports =>
      { result := .ok (.completed reports)
        session := { run.session with history := run.session.history ++ [q], phase := .idle }
        calls := prepared.calls ++ run.calls ++ [.appended q] ++
          openingCalls run.session.settings r reports }

def runRequested (s : Session) (r : Replies) (q : Request) : Step Outcome :=
  { s with state := {} }.execute r q

def probeCalls (r : Replies) (probed : List UInt16) : List Call :=
  probed.map fun port => .probe port (r.isFree port)

/-- Runs a target with a debug port, which is chosen before anything is started. -/
def debugRequested (s : Session) (r : Replies) (q : Request) : Step Outcome :=
  let allocation := s.ports.allocate r.isFree false
  let s := { s with state := {}, ports := allocation.allocator }
  let probes := probeCalls r allocation.probed
  match allocation.result with
  | .error f => ⟨.error f, s, probes⟩
  | .ok port =>
    let state := s.state.setDebugTarget q.target.path q.target.sectionLine port
    let step := { s with state }.execute r q
    { step with calls := probes ++ step.calls }

def requested (s : Session) (r : Replies) (mode : Mode) (q : Request) : Step Outcome :=
  match mode with
  | .run => s.runRequested r q
  | .debug => s.debugRequested r q

def repeatLast (s : Session) (r : Replies) : Step Outcome :=
  match s.history.getLast? with
  | none => ⟨.ok (.skipped "no previous run"), s, []⟩
  | some q => s.requested r q.mode q

def takeDebugTarget (s : Session) : Option DebugTarget × Session :=
  let (target, state) := s.state.takeDebugTarget
  (target, { s with state })

/-- The port to attach a debugger to: the last one, or a new one if there is none. -/
def debugPort (s : Session) (isFree : UInt16 → Bool) : PortAllocator.Allocation × Session :=
  let allocation := s.ports.allocate isFree true
  (allocation, { s with ports := allocation.allocator })

end Session
end FeatureRunner
