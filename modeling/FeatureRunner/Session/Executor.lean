import FeatureRunner.Session.Call

/-!
This module contains the executor, which numbers the tasks that it starts and keeps them until they
have ended. A task is kept together with its process, of which the executor only knows what a
question for its status tells.
-/

namespace FeatureRunner

/-- What a question for a process tells. -/
inductive ProcessStatus where
  | running
  | exited
  /-- The question failed; nobody will hear of the process again. -/
  | lost
  deriving DecidableEq

/-- The tasks that were started, each with its process. -/
structure Executor (π : Type) where
  /-- The number of the task started last; the first task has number one. -/
  lastId : UInt64 := 0
  /-- The tasks whose end was not seen yet, in the order of their start. -/
  running : List (TaskHandle × π) := []

namespace Executor

def isRunning (status : π → ProcessStatus) (task : TaskHandle × π) : Bool :=
  status task.2 == .running

/-- Starts a task. `spawned` is its process, or why there is none; then no number is used up. -/
def execute (e : Executor π) (name : String) (c : Command) (spawned : Except IoFault π)
    : Except Failure TaskHandle × Executor π :=
  match spawned with
  | .error fault => (.error (.taskLaunch c.directory fault), e)
  | .ok process =>
    let handle : TaskHandle := ⟨e.lastId + 1, name⟩
    (.ok handle, { lastId := handle.id, running := e.running ++ [(handle, process)] })

def pollEnded (e : Executor π) (status : π → ProcessStatus) : List TaskHandle × Executor π :=
  ((e.running.filter (!isRunning status ·)).map (·.1),
    { e with running := e.running.filter (isRunning status) })

end Executor
end FeatureRunner
